import CloudSteward.Proofs.FeatureIds
import CloudSteward.Proofs.Http.Meaning
import CloudSteward.Proofs.Integrations.Soundness

/-!
# Listings that misname a feature

A pass over integrations sees the roles through one listing.  If some usage of some role in it
has an identifier that identifies no feature, the listing as a whole is malformed, wherever the
usage stands and whatever else the listing says.  Then the listing is all that the pass asks
for: nothing is created, authorized or removed, and the recorded statuses stay.
-/

namespace CloudSteward

open Json Http

/-! ## Listings -/

/-- Whether a tree is neither `null` nor the identifier of a feature. -/
def Misnamed (node : Node) : Prop :=
  ¬node.Spells .null ∧ ∀ value, node.Spells value → ∀ id, ¬FeatureId.Identifies value id

/-- Whether some usage of some role of a listing misnames its feature. -/
def Misnames (body : Text) : Prop :=
  ∃ roles role usages usage id, roleList.Holds "awsIamRoles" roles (Document.ofText body).root ∧
    role.Lists roles ∧ Role.record.Holds "featureUsages" usages role ∧ usage.Lists usages ∧
    FeatureUsage.record.Holds "featureId" id usage ∧ Misnamed id

variable {manner : Manner} {node : Node}

theorem not_misnamed_of_read {id : Option FeatureId}
    (hread : (Codec.optional FeatureId.codec).read manner node = .ok id) : ¬Misnamed node := by
  rintro ⟨hsome, hnone⟩
  obtain hnull | ⟨content, hcontent⟩ := Codec.exists_read_of_optional hread
  · exact hsome hnull
  · obtain ⟨value, hspells, hid⟩ := FeatureId.read_eq_ok_iff.mp hcontent
    exact hnone value hspells content hid

/-- Whoever reads the list of the roles has read each identifier in it. -/
theorem not_readable_of_misnames {body : Text} (hbody : Misnames body) :
    ¬Readable roleList.codec body := by
  rintro ⟨answer, hdecode⟩
  obtain ⟨roles, role, usages, usage, id, hroles, hrole, husages, husage, hid, hmisnamed⟩ := hbody
  have hroot := (Codec.decode_eq_ok_iff.mp hdecode).1
  obtain ⟨all, hall⟩ := Record.exists_read_of_holds (by decide) rfl (fun _ _ _ => rfl) hroot hroles
  obtain ⟨single, hsingle⟩ := Codec.exists_read_of_lists hall hrole
  obtain ⟨used, hused⟩ :=
    Record.exists_read_of_holds (by decide) rfl (fun _ _ _ => rfl) hsingle husages
  obtain ⟨one, hone⟩ := Codec.exists_read_of_lists hused husage
  obtain ⟨content, hcontent⟩ :=
    Record.exists_read_of_holds (by decide) rfl (fun _ _ _ => rfl) hone hid
  exact not_misnamed_of_read hcontent hmisnamed

/-- The cloud agrees to a listing and misnames a feature in it: the listing is malformed. -/
theorem exists_malformed_of_misnames {project : String} {request : Request} {status : Nat}
    {body : Text} (hstatus : Agrees status) (hbody : Misnames body) :
    ∃ error, (Call.listRoles project).ofDelivery request (.reply ⟨status, some body⟩) =
      .error (.malformed error) :=
  ((Call.listRoles project).sorted_ofReply status body).malformed_iff.mpr
    ⟨hstatus, not_readable_of_misnames hbody⟩

/-! ## Passes -/

namespace Integrations

variable {now : Moment} {project : Project} {guarded : Bool} {conditions : Conditions}
  {ensured : Ensured} {client : Client} {request : Request}
  {log : List (Program.Exchange Request fun _ => Delivery)}

/-- A pass that has something to do, or has to show that it is allowed, asks for the listing
first; without one it ends. -/
theorem exists_ensure_eq_ask (hbusy : guarded = true ∨ hasNone project = false) :
    ∃ next, ensure now project guarded conditions = .ask (.listRoles project.id) next ∧
      ∀ error, next (.error error) = .done (stopped now conditions (unread guarded error)) := by
  cases guarded with
  | true => exact ⟨_, rfl, fun error => rfl⟩
  | false =>
      have hsome := hbusy.resolve_left Bool.false_ne_true
      have hopen : ensureOpen now project conditions = _ := if_neg (Bool.eq_false_iff.mp hsome)
      exact ⟨_, hopen.trans rfl, fun error => rfl⟩

/-- Any other pass asks for nothing. -/
theorem ensure_of_idle (hnone : hasNone project = true) :
    ensure now project false conditions = .done (cleared conditions) :=
  if_pos hnone

/-- A pass whose listing fails consists of the request for it. -/
theorem trace_carry_of_unlisted (hrequest : client.request (.listRoles project.id) = .ok request)
    {delivery : Delivery} {error : CloudError}
    (hdelivery : (Call.listRoles project.id).ofDelivery request delivery = .error error)
    (hlog : ∀ exchange ∈ log.head?, exchange.answer = delivery) :
    (client.carry (ensure now project guarded conditions)).Trace log ensured ↔
      if guarded = true ∨ hasNone project = false then
        log = [⟨request, delivery⟩] ∧ ensured = stopped now conditions (unread guarded error)
      else log = [] ∧ ensured = cleared conditions := by
  by_cases hbusy : guarded = true ∨ hasNone project = false
  · obtain ⟨next, hask, hnext⟩ : ∃ next, _ := exists_ensure_eq_ask hbusy
    rw [if_pos hbusy, hask, Client.carry, Program.expand, Program.trace_bind_iff]
    constructor
    · rintro ⟨first, second, outcome, rfl, hfirst, hsecond⟩
      obtain ⟨found, rfl, rfl⟩ := (Client.trace_make_of_request hrequest).mp hfirst
      obtain rfl : found = delivery := hlog _ rfl
      rw [hdelivery, hnext] at hsecond
      obtain ⟨rfl, rfl⟩ := Program.trace_done_iff.mp hsecond
      exact ⟨rfl, rfl⟩
    · rintro ⟨rfl, rfl⟩
      refine ⟨[⟨request, delivery⟩], [], .error error, rfl, ?_, ?_⟩
      · exact (Client.trace_make_of_request hrequest).mpr ⟨delivery, rfl, hdelivery.symm⟩
      · rw [hnext]
        exact .done _
  · obtain ⟨hopen, hnone⟩ := not_or.mp hbusy
    rw [if_neg hbusy, Bool.eq_false_iff.mpr hopen, ensure_of_idle (Bool.not_eq_false _ ▸ hnone)]
    exact Program.trace_done_iff

/-- A text is decoded as the identifier of a feature just if the value that it stands for
identifies one.  Where the cloud agrees to a listing and some usage of some role in it has any
other identifier, the listing is malformed, and a pass that it is sent to asks for nothing else
and has no statuses: it ends where it would without a listing, be it protected or not. -/
theorem halted_of_misnames :
    (∀ text id, FeatureId.codec.decode text = .ok id ↔
      ∃ value, Json.codec.decode text = .ok value ∧ FeatureId.Identifies value id) ∧
    ∀ {client : Client} {project : Project} {request : Request} {status : Nat} {body : Text},
      client.request (.listRoles project.id) = .ok request → Agrees status → Misnames body →
      ∃ error : Json.Error,
        (∀ outcome, (client.make (.listRoles project.id)).Trace
            [⟨request, .reply ⟨status, some body⟩⟩] outcome ↔
          outcome = .error (.malformed error)) ∧
        ∀ now guarded conditions log ensured,
          (∀ exchange ∈ log.head?, exchange.answer = .reply ⟨status, some body⟩) →
          ((client.carry (ensure now project guarded conditions)).Trace log ensured ↔
            if guarded = true ∨ hasNone project = false then
              log = [⟨request, .reply ⟨status, some body⟩⟩] ∧
                ensured = stopped now conditions (unread guarded (.malformed error))
            else log = [] ∧ ensured = cleared conditions) ∧
          ((client.carry (ensure now project guarded conditions)).Trace log ensured →
            ensured.statuses = none ∧ ∀ exchange ∈ log, exchange.question.method = .get) := by
  refine ⟨FeatureId.decode_eq_ok_iff, fun {client project request status body} hrequest hstatus
    hbody => ?_⟩
  obtain ⟨error, herror⟩ := exists_malformed_of_misnames hstatus hbody
  refine ⟨error, fun outcome => ?_, fun now guarded conditions log ensured hlog => ?_⟩
  · rw [Client.trace_make_iff_of_delivery hrequest, herror]
  · refine ⟨trace_carry_of_unlisted hrequest herror hlog, fun htrace => ?_⟩
    have hend := (trace_carry_of_unlisted hrequest herror hlog).mp htrace
    split at hend
    case isTrue =>
      obtain ⟨rfl, rfl⟩ := hend
      obtain ⟨url, hasks⟩ := Client.exists_asks_of_request hrequest
      exact ⟨rfl, List.forall_mem_singleton.mpr hasks.method_eq⟩
    case isFalse =>
      obtain ⟨rfl, rfl⟩ := hend
      exact ⟨rfl, List.forall_mem_nil _⟩

/-- A listing of one role, with a usage whose feature is identified by a number. -/
def numberedFeature : Text :=
  .ofString ("\x7b\"awsIamRoles\":[\x7b\"providerName\":\"AWS\",\"featureUsages\":" ++
    "[\x7b\"featureType\":\"DATA_LAKE\",\"featureId\":42\x7d]\x7d]\x7d")

theorem misnames_numberedFeature : Misnames numberedFeature := by
  unfold Misnames
  conv in (Document.ofText _).root => cbv
  refine ⟨_, _, _, _, _, .named .here, .item .here, .named (.there .here), .item .here,
    .named (.there .here), fun hnull => ?_, fun value hspells id hid => ?_⟩
  · cases Option.some.inj hnull.contents
  · obtain rfl := Option.some.inj hspells.contents
    cases hid

/-- Two roles are declared and the listing names a feature by its number. -/
theorem halted_numberedFeature :
    ∃ request error,
      (Client.mk "http://cloud" none).request (.listRoles "p") = .ok request ∧
      ∀ guarded, ((Client.mk "http://cloud" none).carry
          (ensure MemoryCloud.creationTime twoRoles guarded .empty)).Trace
            [⟨request, .reply ⟨200, some numberedFeature⟩⟩]
            (stopped MemoryCloud.creationTime .empty (unread guarded (.malformed error))) := by
  obtain ⟨request, hrequest⟩ : ∃ request,
      (Client.mk "http://cloud" none).request (.listRoles twoRoles.id) = .ok request :=
    ⟨_, by cbv⟩
  obtain ⟨error, -, hpass⟩ := halted_of_misnames.2 hrequest (by decide : Agrees 200)
    misnames_numberedFeature
  refine ⟨request, error, hrequest, fun guarded => ?_⟩
  refine (hpass MemoryCloud.creationTime guarded .empty _ _ ?_).1.mpr ?_
  · rintro exchange ⟨⟩
    rfl
  · rw [if_pos (.inr rfl)]
    exact ⟨rfl, rfl⟩

end Integrations

end CloudSteward
