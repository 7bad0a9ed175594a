import CloudSteward.Proofs.Http.Carried
import Mathlib

/-!
# What the answer of a server means

The status of an answer decides first.  Within the 200s the server agrees, and its body has to
give what the call asks for; outside of them it refuses, and its body can only add to what the
status says.  `Sorted` tells the outcomes of a call apart by these two, each by exactly the
answers that lead to it, so none is left for an answer to hide behind: a refusal is never taken
for a success, nor for an answer that makes no sense.

There are three ways to look at a body that agrees.  Most calls read it as a record, the removals
do not look at it, and the creation of an endpoint reads a page and looks for the endpoint on it.
Each has a lemma, and the ten calls are instances (`sorted_ofReply`).
-/

namespace CloudSteward

open Json

namespace Http

/-! ## Statuses and bodies -/

/-- Whether a server agrees that answers with this status. -/
def Agrees (status : Nat) : Prop :=
  200 ≤ status ∧ status < 300

instance (status : Nat) : Decidable (Agrees status) :=
  inferInstanceAs (Decidable (_ ∧ _))

theorem isSuccess_iff {status : Nat} {body : Option Text} :
    (Reply.mk status body).isSuccess = true ↔ Agrees status := by
  simp [Reply.isSuccess, Agrees]

theorem Agrees.ne_notFound {status : Nat} (h : Agrees status) : status ≠ 404 := by
  rintro rfl
  exact absurd h.2 (by decide)

/-- What a body says about a refusal: nothing, unless all of it can be read as a report. -/
inductive Reported (body : Text) : String → String → Prop where
  | said {report : Report} : Report.codec.decode body = .ok report →
      Reported body report.code report.detail
  | silent : (∀ report, Report.codec.decode body ≠ .ok report) → Reported body "" ""

theorem reported_iff {body : Text} {code detail : String} :
    Reported body code detail ↔ Report.ofBody body = ⟨code, detail⟩ := by
  unfold Report.ofBody
  constructor
  · rintro (hread | hunread)
    · rw [hread]
    · cases hread : Report.codec.decode body with
      | ok report => exact absurd hread (hunread report)
      | error error => rfl
  · intro h
    cases hread : Report.codec.decode body with
    | ok report =>
        rw [hread] at h
        obtain rfl : report = ⟨code, detail⟩ := h
        exact .said hread
    | error error =>
        rw [hread] at h
        obtain ⟨rfl, rfl⟩ := Report.mk.inj (show Report.mk "" "" = ⟨code, detail⟩ from h)
        exact .silent fun report hother => by rw [hread] at hother; cases hother

/-! ## Outcomes -/

/-- The outcomes of a call, told apart by the status and the body of the answer.  `Gives` are the
answers that a body may give if the server agrees, and `Lacks` is what it may turn out to lack;
a body that does neither is not `shaped` as it should be. -/
structure Sorted {α : Type} (status : Nat) (body : Text) (shaped : Prop) (Gives : α → Prop)
    (Lacks : String → Prop) (outcome : Except CloudError α) : Prop where
  ok_iff (answer : α) : outcome = .ok answer ↔ Agrees status ∧ Gives answer
  notFound_iff (what : String) : outcome = .error (.notFound what) ↔
    (status = 404 ∧ ∃ code, Reported body code what) ∨ (Agrees status ∧ Lacks what)
  api_iff (number : Nat) (code detail : String) : outcome = .error (.api number code detail) ↔
    number = status ∧ ¬Agrees status ∧ status ≠ 404 ∧ Reported body code detail
  malformed_iff : (∃ error, outcome = .error (.malformed error)) ↔ Agrees status ∧ ¬shaped
  ne_transport (fault : TransportFault) : outcome ≠ .error (.transport fault)

variable {α : Type} {status : Nat} {body : Text} {shaped : Prop} {Gives : α → Prop}
  {Lacks : String → Prop}

/-- A refusal says what the status says, and what the body reports. -/
theorem sorted_refusal (hstatus : ¬Agrees status) :
    Sorted status body shaped Gives Lacks (.error (Reply.mk status (some body)).refusal) := by
  obtain ⟨⟨code, detail⟩, hreport⟩ : ∃ report, Report.ofBody body = report := ⟨_, rfl⟩
  have hreported (other what : String) :
      Reported body other what ↔ code = other ∧ detail = what := by
    rw [reported_iff, hreport, Report.mk.injEq]
  have hrefusal : (Reply.mk status (some body)).refusal =
      if status = 404 then .notFound detail else .api status code detail := by
    simp only [Reply.refusal, hreport]
  rw [hrefusal]
  by_cases hnone : status = 404
  · rw [if_pos hnone]
    constructor <;> simp [hreported, hstatus, hnone.symm]
  · rw [if_neg hnone]
    constructor <;> simp [hreported, hstatus, hnone, eq_comm]

theorem sorted_ok (hstatus : Agrees status) {answer : α} (hshaped : shaped)
    (hgives : ∀ other, Gives other ↔ answer = other) (hlacks : ∀ what, ¬Lacks what) :
    Sorted status body shaped Gives Lacks (.ok answer) := by
  have hnone := hstatus.ne_notFound
  constructor <;> simp [hstatus, hnone, hshaped, hgives, hlacks]

theorem sorted_malformed (hstatus : Agrees status) (error : Json.Error) (hshaped : ¬shaped)
    (hgives : ∀ answer, ¬Gives answer) (hlacks : ∀ what, ¬Lacks what) :
    Sorted status body shaped Gives Lacks (.error (.malformed error)) := by
  have hnone := hstatus.ne_notFound
  constructor <;> simp [hstatus, hnone, hshaped, hgives, hlacks]

theorem sorted_lacking (hstatus : Agrees status) {what : String} (hshaped : shaped)
    (hgives : ∀ answer, ¬Gives answer) (hlacks : ∀ other, Lacks other ↔ what = other) :
    Sorted status body shaped Gives Lacks (.error (.notFound what)) := by
  have hnone := hstatus.ne_notFound
  constructor <;> simp [hstatus, hnone, hshaped, hgives, hlacks]

/-! ## Three ways to look at a body -/

/-- Whether a body can be read as a record. -/
def Readable (codec : Codec α) (body : Text) : Prop :=
  ∃ answer, codec.decode body = .ok answer

theorem read_of_agrees (hstatus : Agrees status) (codec : Codec α) :
    (Reply.mk status (some body)).read codec = (codec.decode body).mapError .malformed :=
  if_pos (isSuccess_iff.mpr hstatus)

theorem read_of_not_agrees (hstatus : ¬Agrees status) (codec : Codec α) :
    (Reply.mk status (some body)).read codec = .error (Reply.mk status (some body)).refusal :=
  if_neg (hstatus ∘ isSuccess_iff.mp)

theorem sorted_read (codec : Codec α) (status : Nat) (body : Text) :
    Sorted status body (Readable codec body) (fun answer => codec.decode body = .ok answer)
      (fun _ => False) ((Reply.mk status (some body)).read codec) := by
  by_cases hstatus : Agrees status
  · rw [read_of_agrees hstatus]
    cases hread : codec.decode body with
    | ok answer => exact sorted_ok hstatus ⟨answer, hread⟩ (by simp) (by simp)
    | error error =>
        exact sorted_malformed hstatus error (by simp [Readable, hread]) (by simp) (by simp)
  · rw [read_of_not_agrees hstatus]
    exact sorted_refusal hstatus

theorem sorted_acknowledge (status : Nat) (body : Text) :
    Sorted status body True (fun _ => True) (fun _ => False)
      (Reply.mk status (some body)).acknowledge := by
  unfold Reply.acknowledge
  by_cases hstatus : Agrees status
  · rw [if_pos (isSuccess_iff.mpr hstatus)]
    exact sorted_ok hstatus trivial (by simp) (by simp)
  · rw [if_neg (hstatus ∘ isSuccess_iff.mp)]
    exact sorted_refusal hstatus

/-- Whether an endpoint is the first of its list with this id. -/
def IsFirst (id : String) (created : Endpoint) (endpoints : List Endpoint) : Prop :=
  created.endpointId = id ∧ ∃ before behind, endpoints = before ++ created :: behind ∧
    ∀ other ∈ before, other.endpointId ≠ id

theorem find?_eq_some_iff {id : String} {created : Endpoint} {endpoints : List Endpoint} :
    endpoints.find? (fun other => other.endpointId = id) = some created ↔
      IsFirst id created endpoints := by
  rw [List.find?_eq_some_iff_append, IsFirst]
  simp

end Http

/-! ## The ten calls -/

namespace Call

open Http

/-- Whether a body is of the shape that the call asks for. -/
def Shaped : Call → Text → Prop
  | .listRoles _, body => Readable roleList.codec body
  | .createRole _ _, body => Readable Role.codec body
  | .authorizeRole _ _ _ _, body => Readable Role.codec body
  | .deauthorizeRole _ _ _, _ => True
  | .listEndpoints _, body => Readable (page Endpoint.codec).codec body
  | .createEndpoint _ _, body => Readable (page Endpoint.codec).codec body
  | .deleteEndpoint _ _, _ => True
  | .getSettings _, body => Readable FederationSettings.codec body
  | .getOrg _ _, body => Readable ConnectedOrg.codec body
  | .updateOrg _ _, body => Readable ConnectedOrg.codec body

/-- Whether a body gives this answer to the call. -/
def Gives : (call : Call) → Text → call.Answer → Prop
  | .listRoles _, body, roles => roleList.codec.decode body = .ok roles
  | .createRole _ _, body, role => Role.codec.decode body = .ok role
  | .authorizeRole _ _ _ _, body, role => Role.codec.decode body = .ok role
  | .deauthorizeRole _ _ _, _, _ => True
  | .listEndpoints _, body, endpoints => (page Endpoint.codec).codec.decode body = .ok endpoints
  | .createEndpoint _ endpoint, body, created =>
      ∃ endpoints, (page Endpoint.codec).codec.decode body = .ok endpoints ∧
        IsFirst endpoint.endpointId created endpoints
  | .deleteEndpoint _ _, _, _ => True
  | .getSettings _, body, settings => FederationSettings.codec.decode body = .ok settings
  | .getOrg _ _, body, config => ConnectedOrg.codec.decode body = .ok config
  | .updateOrg _ _, body, config => ConnectedOrg.codec.decode body = .ok config

/-- Whether a body turns out to lack what the call asks for: a page without the endpoint that was
to be created. -/
def Lacks : Call → Text → String → Prop
  | .createEndpoint _ endpoint, body, what => endpoint.endpointId = what ∧
      ∃ endpoints, (page Endpoint.codec).codec.decode body = .ok endpoints ∧
        ∀ other ∈ endpoints, other.endpointId ≠ endpoint.endpointId
  | _, _, _ => False

section

variable {project : String} {endpoint : Endpoint} {body : Text} {endpoints : List Endpoint}

theorem gives_createEndpoint_iff
    (hread : (page Endpoint.codec).codec.decode body = .ok endpoints) (created : Endpoint) :
    Gives (.createEndpoint project endpoint) body created ↔
      endpoints.find? (fun other => other.endpointId = endpoint.endpointId) = some created := by
  rw [find?_eq_some_iff]
  simp [Gives, hread]

theorem lacks_createEndpoint_iff
    (hread : (page Endpoint.codec).codec.decode body = .ok endpoints) (what : String) :
    Lacks (.createEndpoint project endpoint) body what ↔ endpoint.endpointId = what ∧
      endpoints.find? (fun other => other.endpointId = endpoint.endpointId) = none := by
  simp [Lacks, hread]

/-- The created endpoint is looked for on the page. -/
theorem sorted_createEndpoint (project : String) (endpoint : Endpoint) (status : Nat)
    (body : Text) :
    Sorted status body (Shaped (.createEndpoint project endpoint) body)
      (Gives (.createEndpoint project endpoint) body)
      (Lacks (.createEndpoint project endpoint) body)
      (ofReply (.createEndpoint project endpoint) ⟨status, some body⟩) := by
  simp only [ofReply]
  by_cases hstatus : Agrees status
  · rw [read_of_agrees hstatus]
    cases hread : (page Endpoint.codec).codec.decode body with
    | error error =>
        exact sorted_malformed hstatus error (by simp [Shaped, Readable, hread])
          (by simp [Gives, hread]) (by simp [Lacks, hread])
    | ok endpoints =>
        simp only [Except.mapError]
        cases hfind : endpoints.find? fun other => other.endpointId = endpoint.endpointId with
        | some created =>
            have hgives (other : Endpoint) :
                Gives (.createEndpoint project endpoint) body other ↔ created = other := by
              rw [gives_createEndpoint_iff hread, hfind, Option.some.injEq]
            refine sorted_ok hstatus ⟨endpoints, hread⟩ hgives fun what hlacks => ?_
            rw [lacks_createEndpoint_iff hread, hfind] at hlacks
            exact nomatch hlacks.2
        | none =>
            have hgives (other : Endpoint) :
                ¬Gives (.createEndpoint project endpoint) body other := by
              rw [gives_createEndpoint_iff hread, hfind]
              nofun
            refine sorted_lacking hstatus ⟨endpoints, hread⟩ hgives fun what => ?_
            rw [lacks_createEndpoint_iff hread, and_iff_left hfind]
  · rw [read_of_not_agrees hstatus]
    exact sorted_refusal hstatus

end

/-- Whatever the call, its outcomes are told apart by the status and the body of the answer. -/
theorem sorted_ofReply (call : Call) (status : Nat) (body : Text) :
    Sorted status body (call.Shaped body) (call.Gives body) (call.Lacks body)
      (call.ofReply ⟨status, some body⟩) := by
  cases call with
  | listRoles => exact sorted_read _ status body
  | createRole => exact sorted_read _ status body
  | authorizeRole => exact sorted_read _ status body
  | deauthorizeRole => exact sorted_acknowledge status body
  | listEndpoints => exact sorted_read _ status body
  | createEndpoint project endpoint => exact sorted_createEndpoint project endpoint status body
  | deleteEndpoint => exact sorted_acknowledge status body
  | getSettings => exact sorted_read _ status body
  | getOrg => exact sorted_read _ status body
  | updateOrg => exact sorted_read _ status body

/-- A removal looks at no body, so it succeeds wherever the server agrees. -/
theorem exists_gives_of_delete {call : Call} (hdelete : call.method = .delete) (body : Text) :
    ∃ answer, call.Gives body answer := by
  cases call with
  | deauthorizeRole => exact ⟨(), trivial⟩
  | deleteEndpoint => exact ⟨(), trivial⟩
  | _ => cases hdelete

/-- Whichever of its calls a client makes, and whatever the status and the body of the answer to
its request are, the call has one outcome, and that is the one that status and body lead to.  A
removal succeeds wherever the server agrees, and where it refuses, no call is taken to have
succeeded or to have been answered with nonsense. -/
theorem sorted_of_answer {client : Client} {call : Call} {request : Request}
    (hrequest : client.request call = .ok request) (status : Nat) (body : Text) :
    ∃ outcome, (∀ other, (client.make call).Trace [⟨request, .reply ⟨status, some body⟩⟩] other ↔
        other = outcome) ∧
      Sorted status body (call.Shaped body) (call.Gives body) (call.Lacks body) outcome ∧
      (call.method = .delete → Agrees status → ∃ answer, outcome = .ok answer) ∧
      (¬Agrees status → (∀ answer, outcome ≠ .ok answer) ∧
        ∀ error, outcome ≠ .error (.malformed error)) := by
  have hsorted := call.sorted_ofReply status body
  refine ⟨call.ofReply ⟨status, some body⟩, fun other => ?_, hsorted, ?_, ?_⟩
  · exact Client.trace_make_iff_of_delivery hrequest _
  · intro hdelete hstatus
    obtain ⟨answer, hgives⟩ := exists_gives_of_delete hdelete body
    exact ⟨answer, (hsorted.ok_iff answer).mpr ⟨hstatus, hgives⟩⟩
  · intro hstatus
    exact ⟨fun answer hok => hstatus ((hsorted.ok_iff answer).mp hok).1,
      fun error herror => hstatus (hsorted.malformed_iff.mp ⟨error, herror⟩).1⟩

/-- The server agrees to the creation of an endpoint and shows a page without it: the endpoint is
not found. -/
theorem notFound_of_emptyPage :
    ∃ request,
      (Client.mk "http://cloud" none).request (.createEndpoint "p" ⟨"e1", "AWS", "INTERFACE"⟩) =
        .ok request ∧
      ∀ outcome, ((Client.mk "http://cloud" none).make
          (.createEndpoint "p" ⟨"e1", "AWS", "INTERFACE"⟩)).Trace
            [⟨request, .reply ⟨200, some (.ofString "\x7b\x7d")⟩⟩] outcome ↔
        outcome = .error (.notFound "e1") := by
  obtain ⟨request, hrequest⟩ : ∃ request,
      (Client.mk "http://cloud" none).request (.createEndpoint "p" ⟨"e1", "AWS", "INTERFACE"⟩) =
        .ok request := ⟨_, by cbv⟩
  refine ⟨request, hrequest, ?_⟩
  obtain ⟨outcome, hmade, hsorted, -⟩ := sorted_of_answer hrequest 200 (.ofString "\x7b\x7d")
  have hlacks : Lacks (.createEndpoint "p" ⟨"e1", "AWS", "INTERFACE"⟩)
      (.ofString "\x7b\x7d") "e1" := ⟨rfl, [], by cbv, List.forall_mem_nil _⟩
  have houtcome : outcome = .error (.notFound "e1") :=
    (hsorted.notFound_iff "e1").mpr (.inr ⟨by decide, hlacks⟩)
  intro other
  rw [hmade other, houtcome]

end Call

end CloudSteward
