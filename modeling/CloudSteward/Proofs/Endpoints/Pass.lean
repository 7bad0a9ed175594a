import CloudSteward.Proofs.Integrations.Report

/-!
# The calls of a pass over endpoints

Behind its listing a pass works through an agenda: first it creates the endpoints that are
`missing`, then it deletes those that are `undeclared`.  Both loops stop at the first call
that fails, and the second is not begun if the first has stopped, so the two together are
nothing but one list of calls made in order until one fails (`Attempted`).

`trace_sync_iff` says this of all answers at once, in both directions.  What is promised of
a pass is then read off `Attempted`: its calls are a front of the agenda, the whole of it
unless one failed, and the one that failed is the last (`inOrder_of_trace`).
-/

namespace CloudSteward

variable {exchanges : List Exchange}

/-! ## Calls made until one fails -/

/-- Calls are made one after the other until one fails, and this is the error of that one,
if there is any. -/
inductive Attempted : List Call → List Exchange → Except CloudError Unit → Prop where
  | finished : Attempted [] [] (.ok ())
  | refused {call : Call} {rest : List Call} (error : CloudError) :
      Attempted (call :: rest) [⟨call, .error error⟩] (.error error)
  | granted {call : Call} {rest : List Call} {exchanges : List Exchange}
      {verdict : Except CloudError Unit} (answer : call.Answer) :
      Attempted rest exchanges verdict →
        Attempted (call :: rest) (⟨call, .ok answer⟩ :: exchanges) verdict

namespace Attempted

variable {calls others : List Call} {verdict : Except CloudError Unit} {error : CloudError}

theorem questions_isPrefix (h : Attempted calls exchanges verdict) :
    exchanges.map Program.Exchange.question <+: calls := by
  induction h with
  | finished => exact List.prefix_rfl
  | refused error => exact List.cons_prefix_cons.mpr ⟨rfl, List.nil_prefix⟩
  | granted answer _ ih => exact List.cons_prefix_cons.mpr ⟨rfl, ih⟩

theorem nil_iff : Attempted [] exchanges verdict ↔ exchanges = [] ∧ verdict = .ok () := by
  constructor
  · rintro ⟨⟩
    exact ⟨rfl, rfl⟩
  · rintro ⟨rfl, rfl⟩
    exact .finished

/-- After the first call there are the others, unless it failed. -/
theorem cons_iff {call : Call} : Attempted (call :: calls) exchanges verdict ↔
    ∃ reply behind, exchanges = ⟨call, reply⟩ :: behind ∧
      match (reply : call.Reply) with
      | .error error => behind = [] ∧ verdict = .error error
      | .ok _ => Attempted calls behind verdict := by
  constructor
  · rintro (_ | ⟨error⟩ | ⟨answer, hbehind⟩)
    · exact ⟨.error error, [], rfl, rfl, rfl⟩
    · exact ⟨.ok answer, _, rfl, hbehind⟩
  · rintro ⟨reply, behind, rfl, hreply⟩
    cases reply with
    | error error =>
        obtain ⟨rfl, rfl⟩ := hreply
        exact .refused error
    | ok answer => exact .granted answer hreply

/-- If no error is left, then all calls were made. -/
theorem of_ok (h : Attempted calls exchanges (.ok ())) :
    exchanges.map Program.Exchange.question = calls ∧
      ∀ exchange ∈ exchanges, exchange.failed = false := by
  generalize hverdict : (Except.ok () : Except CloudError Unit) = verdict at h
  induction h with
  | finished => exact ⟨rfl, List.forall_mem_nil _⟩
  | refused error => cases hverdict
  | granted answer _ ih =>
      obtain ⟨hquestions, hfine⟩ := ih hverdict
      exact ⟨congrArg (_ :: ·) hquestions, List.forall_mem_cons.mpr ⟨rfl, hfine⟩⟩

/-- The call that left the error is the last one, and those before it went well. -/
theorem of_error (h : Attempted calls exchanges (.error error)) :
    ∃ before call, exchanges = before ++ [⟨call, .error error⟩] ∧
      ∀ exchange ∈ before, exchange.failed = false := by
  generalize hverdict : (Except.error error : Except CloudError Unit) = verdict at h
  induction h with
  | finished => cases hverdict
  | refused last =>
      obtain rfl := Except.error.inj hverdict
      exact ⟨[], _, rfl, List.forall_mem_nil _⟩
  | granted answer _ ih =>
      obtain ⟨before, call, rfl, hbefore⟩ := ih hverdict
      exact ⟨_ :: before, call, rfl, List.forall_mem_cons.mpr ⟨rfl, hbefore⟩⟩

/-- An error is left by a call that failed. -/
theorem verdict_eq_ok (h : Attempted calls exchanges verdict)
    (hfine : ∀ exchange ∈ exchanges, exchange.failed = false) : verdict = .ok () := by
  rcases verdict with error | ⟨⟩
  · obtain ⟨before, call, rfl, _⟩ := h.of_error
    cases hfine _ (List.mem_append_right before (List.mem_singleton_self _))
  · rfl

/-- Of two lists of calls, the second is begun when the first is done. -/
theorem append_iff : Attempted (calls ++ others) exchanges verdict ↔
    (∃ error, verdict = .error error ∧ Attempted calls exchanges (.error error)) ∨
      ∃ first second, exchanges = first ++ second ∧ Attempted calls first (.ok ()) ∧
        Attempted others second verdict := by
  constructor
  · intro h
    induction calls generalizing exchanges with
    | nil => exact .inr ⟨[], exchanges, rfl, .finished, h⟩
    | cons call rest ih =>
        cases h with
        | refused error => exact .inl ⟨error, rfl, .refused error⟩
        | granted answer hbehind =>
            rcases ih hbehind with ⟨error, rfl, hfirst⟩ | ⟨first, second, rfl, hfirst, hsecond⟩
            · exact .inl ⟨error, rfl, .granted answer hfirst⟩
            · exact .inr ⟨_ :: first, second, rfl, .granted answer hfirst, hsecond⟩
  · rintro (⟨error, rfl, hfirst⟩ | ⟨first, second, rfl, hfirst, hsecond⟩)
    · generalize hverdict : (Except.error error : Except CloudError Unit) = verdict at hfirst ⊢
      induction hfirst with
      | finished => cases hverdict
      | refused last => exact .refused last
      | granted answer _ ih => exact .granted answer (ih hverdict)
    · generalize hdone : (Except.ok () : Except CloudError Unit) = done at hfirst
      induction hfirst with
      | finished => exact hsecond
      | refused last => cases hdone
      | granted answer _ ih => exact .granted answer (ih hdone)

end Attempted

namespace Endpoints

variable {project : String} {desired remote endpoints : List Endpoint}

/-! ## The agenda -/

/-- The declared endpoints that have no id, or one that is not listed. -/
def missing (desired remote : List Endpoint) : List Endpoint :=
  desired.filter fun endpoint =>
    endpoint.endpointId = "" ∨ ∀ listed ∈ remote, listed.endpointId ≠ endpoint.endpointId

/-- The listed endpoints that have an id, and one that is not declared. -/
def undeclared (desired remote : List Endpoint) : List Endpoint :=
  remote.filter fun listed =>
    listed.endpointId ≠ "" ∧ ∀ endpoint ∈ desired, endpoint.endpointId ≠ listed.endpointId

/-- An endpoint is not known among others if it has no id, or one that they do not have. -/
theorem not_knownAmong_eq (endpoint : Endpoint) (others : List Endpoint) :
    (!knownAmong endpoint others) = decide (endpoint.endpointId = "" ∨
      ∀ other ∈ others, other.endpointId ≠ endpoint.endpointId) := by
  rw [Bool.eq_iff_iff, Bool.not_eq_true', ← Bool.not_eq_true, knownAmong_eq_true_iff,
    decide_eq_true_iff, not_and_or, not_not]
  simp only [not_exists, not_and]
  rfl

theorem toCreate_compute : (Diff.compute desired remote).toCreate = missing desired remote :=
  List.filter_congr fun endpoint _ => not_knownAmong_eq endpoint remote

/-- Of what is to be deleted, the endpoints without an id are passed over. -/
theorem filter_toDelete_compute :
    ((Diff.compute desired remote).toDelete.filter fun listed => listed.endpointId ≠ "") =
      undeclared desired remote := by
  show ((remote.filter _).filter _) = remote.filter _
  rw [List.filter_filter]
  refine List.filter_congr fun listed _ => ?_
  rw [not_knownAmong_eq]
  by_cases hid : listed.endpointId = "" <;> simp [hid]

/-- The calls that a pass means to make behind its listing. -/
def agenda (project : String) (desired remote : List Endpoint) : List Call :=
  (missing desired remote).map (Call.createEndpoint project) ++
    (undeclared desired remote).map fun listed => .deleteEndpoint project listed.endpointId

/-! ## What a pass asks -/

section Loops

variable {verdict : Except CloudError Unit}

theorem trace_createAll_iff : (createAll project endpoints).Trace exchanges verdict ↔
    Attempted (endpoints.map (Call.createEndpoint project)) exchanges verdict := by
  induction endpoints generalizing exchanges with
  | nil =>
      rw [List.map_nil, Attempted.nil_iff]
      exact Program.trace_done_iff
  | cons endpoint rest ih =>
      rw [List.map_cons, Attempted.cons_iff]
      refine Program.trace_perform_bind_iff.trans ?_
      refine exists_congr fun reply => exists_congr fun behind => and_congr_right fun _ => ?_
      cases reply with
      | error error => exact Program.trace_done_iff
      | ok created => exact ih

/-- Endpoints without an id are passed over. -/
theorem trace_deleteAll_iff : (deleteAll project endpoints).Trace exchanges verdict ↔
    Attempted ((endpoints.filter fun endpoint => endpoint.endpointId ≠ "").map fun endpoint =>
      .deleteEndpoint project endpoint.endpointId) exchanges verdict := by
  induction endpoints generalizing exchanges with
  | nil =>
      rw [List.filter_nil, List.map_nil, Attempted.nil_iff]
      exact Program.trace_done_iff
  | cons endpoint rest ih =>
      unfold deleteAll
      by_cases hid : endpoint.endpointId = ""
      · rw [if_pos hid, List.filter_cons_of_neg (by simpa using hid)]
        exact ih
      · rw [if_neg hid, List.filter_cons_of_pos (by simpa using hid), List.map_cons,
          Attempted.cons_iff]
        refine Program.trace_perform_bind_iff.trans ?_
        refine exists_congr fun reply => exists_congr fun behind => and_congr_right fun _ => ?_
        rcases reply with error | ⟨⟩
        · exact Program.trace_done_iff
        · exact ih

end Loops

/-- What comes of a pass whose calls left this error, or none. -/
def concluded : Except CloudError Unit → PassResult
  | .ok () => .ok
  | .error error => failure error

/-- With a listing at hand a pass works through its agenda. -/
theorem trace_listed_iff {result : PassResult} :
    Program.Trace ((createAll project (Diff.compute desired remote).toCreate).bind fun
      | .error error => .done (failure error)
      | .ok () => (deleteAll project (Diff.compute desired remote).toDelete).bind fun
        | .error error => .done (failure error)
        | .ok () => .done .ok) exchanges result ↔
      ∃ verdict, Attempted (agenda project desired remote) exchanges verdict ∧
        result = concluded verdict := by
  rw [Program.trace_bind_iff, toCreate_compute]
  simp only [trace_createAll_iff, agenda, Attempted.append_iff, ← filter_toDelete_compute]
  constructor
  · rintro ⟨creations, others, created, rfl, hcreations, hothers⟩
    rcases created with error | ⟨⟩
    · obtain ⟨rfl, rfl⟩ := Program.trace_done_iff.mp hothers
      rw [List.append_nil]
      exact ⟨_, .inl ⟨error, rfl, hcreations⟩, rfl⟩
    · obtain ⟨deletions, last, deleted, rfl, hdeletions, hlast⟩ :=
        Program.trace_bind_iff.mp hothers
      have hend : last = [] ∧ result = concluded deleted := by
        rcases deleted with error | ⟨⟩
        · exact Program.trace_done_iff.mp hlast
        · exact Program.trace_done_iff.mp hlast
      obtain ⟨rfl, rfl⟩ := hend
      rw [List.append_nil]
      exact ⟨_, .inr ⟨creations, deletions, rfl, hcreations, trace_deleteAll_iff.mp hdeletions⟩,
        rfl⟩
  · rintro ⟨verdict, ⟨error, rfl, hcreations⟩ | ⟨creations, deletions, rfl, hcreations, hdeletions⟩,
      rfl⟩
    · exact ⟨exchanges, [], .error error, (List.append_nil _).symm, hcreations, .done _⟩
    · refine ⟨creations, deletions, .ok (), rfl, hcreations, Program.trace_bind_iff.mpr
        ⟨deletions, [], verdict, (List.append_nil _).symm, trace_deleteAll_iff.mpr hdeletions, ?_⟩⟩
      rcases verdict with error | ⟨⟩
      · exact .done _
      · exact .done _

/-- A pass lists, and works through its agenda if there is a listing. -/
theorem trace_sync_iff {result : PassResult} :
    (sync project desired).Trace exchanges result ↔
      (∃ error, exchanges = [⟨.listEndpoints project, .error error⟩] ∧ result = failure error) ∨
        ∃ remote rest verdict, exchanges = ⟨.listEndpoints project, .ok remote⟩ :: rest ∧
          Attempted (agenda project desired remote) rest verdict ∧ result = concluded verdict := by
  refine Program.trace_perform_bind_iff.trans ?_
  constructor
  · rintro ⟨reply, rest, rfl, hrest⟩
    cases reply with
    | error error =>
        obtain ⟨rfl, rfl⟩ := Program.trace_done_iff.mp hrest
        exact .inl ⟨error, rfl, rfl⟩
    | ok remote =>
        obtain ⟨verdict, hattempted, rfl⟩ := trace_listed_iff.mp hrest
        exact .inr ⟨remote, rest, verdict, rfl, hattempted, rfl⟩
  · rintro (⟨error, rfl, rfl⟩ | ⟨remote, rest, verdict, rfl, hattempted, rfl⟩)
    · exact ⟨.error error, [], rfl, .done _⟩
    · exact ⟨.ok remote, rest, rfl, trace_listed_iff.mpr ⟨verdict, hattempted, rfl⟩⟩

/-! ## What is promised of a pass -/

/-- A pass is fine and no call failed, or the last call failed and the pass tells its error. -/
theorem outcome_of_trace {result : PassResult} (h : (sync project desired).Trace exchanges result) :
    (result = .ok ∧ ∀ exchange ∈ exchanges, exchange.failed = false) ∨
      ∃ before call error, exchanges = before ++ [⟨call, .error error⟩] ∧
        (∀ exchange ∈ before, exchange.failed = false) ∧ result = failure error := by
  rcases trace_sync_iff.mp h with ⟨error, rfl, rfl⟩ | ⟨remote, rest, verdict, rfl, hrest, rfl⟩
  · exact .inr ⟨[], _, error, rfl, List.forall_mem_nil _, rfl⟩
  · rcases verdict with error | ⟨⟩
    · obtain ⟨before, call, rfl, hbefore⟩ := hrest.of_error
      exact .inr ⟨_ :: before, call, error, rfl, List.forall_mem_cons.mpr ⟨rfl, hbefore⟩, rfl⟩
    · exact .inl ⟨rfl, List.forall_mem_cons.mpr ⟨rfl, hrest.of_ok.2⟩⟩

/-- The calls behind a listing are creations and then deletions, and both are a front of what
is to be done. -/
structure Carried (project : String) (desired remote : List Endpoint)
    (creations deletions : List Exchange) : Prop where
  creations_prefix : creations.map Program.Exchange.question <+:
    (missing desired remote).map (Call.createEndpoint project)
  deletions_prefix : deletions.map Program.Exchange.question <+:
    (undeclared desired remote).map fun listed => .deleteEndpoint project listed.endpointId
  all_created : deletions ≠ [] →
    creations.map Program.Exchange.question =
        (missing desired remote).map (Call.createEndpoint project) ∧
      ∀ exchange ∈ creations, exchange.failed = false
  all_done : (∀ exchange ∈ creations ++ deletions, exchange.failed = false) →
    creations.map Program.Exchange.question =
        (missing desired remote).map (Call.createEndpoint project) ∧
      deletions.map Program.Exchange.question =
        (undeclared desired remote).map fun listed => .deleteEndpoint project listed.endpointId

theorem exists_carried_of_attempted {verdict : Except CloudError Unit}
    (h : Attempted (agenda project desired remote) exchanges verdict) :
    ∃ creations deletions, exchanges = creations ++ deletions ∧
      Carried project desired remote creations deletions := by
  rcases Attempted.append_iff.mp h with
    ⟨error, rfl, hcreations⟩ | ⟨creations, deletions, rfl, hcreations, hdeletions⟩
  · refine ⟨exchanges, [], (List.append_nil _).symm, {
      creations_prefix := hcreations.questions_isPrefix
      deletions_prefix := List.nil_prefix
      all_created := fun hne => absurd rfl hne
      all_done := fun hfine => ?_ }⟩
    rw [List.append_nil] at hfine
    cases hcreations.verdict_eq_ok hfine
  · obtain ⟨hall, hfine⟩ := hcreations.of_ok
    refine ⟨creations, deletions, rfl, {
      creations_prefix := hcreations.questions_isPrefix
      deletions_prefix := hdeletions.questions_isPrefix
      all_created := fun _ => ⟨hall, hfine⟩
      all_done := fun hdone => ⟨hall, ?_⟩ }⟩
    obtain rfl := hdeletions.verdict_eq_ok (List.forall_mem_append.mp hdone).2
    exact hdeletions.of_ok.1

/-- What is promised of the calls, the result and the conditions of a pass. -/
structure InOrder (project : String) (desired : List Endpoint) (conditions : Conditions)
    (exchanges : List Exchange) (value : PassResult × Conditions) : Prop where
  lists_once : ∃ listing rest, exchanges = ⟨.listEndpoints project, listing⟩ :: rest ∧
    (∀ error, listing = .error error → rest = []) ∧
    ∀ remote, listing = .ok remote → ∃ creations deletions, rest = creations ++ deletions ∧
      Carried project desired remote creations deletions
  stops : ∀ before exchange behind, exchanges = before ++ exchange :: behind →
    exchange.failed = true → behind = []
  fine : value.1.isOk = true ↔ ∀ exchange ∈ exchanges, exchange.failed = false
  tells : value.1.isOk = false → ∃ before call error,
    exchanges = before ++ [⟨call, .error error⟩] ∧
      value.1 = .terminate .privateEndpointsNotReady error.text ∧ value.1.retryable = true
  spares : ∀ owner id, .deleteEndpoint owner id ∈ exchanges.map Program.Exchange.question →
    id ≠ "" ∧ ∀ endpoint ∈ desired, endpoint.endpointId ≠ id
  other_conditions : value.2.without .privateEndpointReady =
    conditions.without .privateEndpointReady
  condition : value.2.isTrue .privateEndpointReady = value.1.isOk

/-- If all calls but the last went well, nothing follows one that failed. -/
theorem eq_nil_of_failed {front before behind : List Exchange} {last exchange : Exchange}
    (hfine : ∀ exchange ∈ front, exchange.failed = false)
    (hsplit : front ++ [last] = before ++ exchange :: behind) (hfailed : exchange.failed = true) :
    behind = [] := by
  rcases List.eq_nil_or_concat behind with hnone | ⟨init, final, rfl⟩
  · exact hnone
  · rw [List.concat_eq_append, ← List.cons_append, ← List.append_assoc] at hsplit
    have hfront : front = before ++ exchange :: init := (List.append_inj' hsplit rfl).1
    have hmem : exchange ∈ front := hfront ▸ List.mem_append_right _ List.mem_cons_self
    rw [hfine exchange hmem] at hfailed
    cases hfailed

/-- Nobody who declares an endpoint loses it, and the collection is never addressed. -/
theorem spared_of_trace {result : PassResult} (h : (sync project desired).Trace exchanges result)
    {owner id : String}
    (hcall : .deleteEndpoint owner id ∈ exchanges.map Program.Exchange.question) :
    id ≠ "" ∧ ∀ endpoint ∈ desired, endpoint.endpointId ≠ id := by
  rcases trace_sync_iff.mp h with ⟨error, rfl, _⟩ | ⟨remote, rest, verdict, rfl, hrest, _⟩
  · simp at hcall
  · have hagenda : .deleteEndpoint owner id ∈ agenda project desired remote := by
      rcases List.mem_cons.mp hcall with heq | hbehind
      · cases heq
      · exact hrest.questions_isPrefix.subset hbehind
    rcases List.mem_append.mp hagenda with hcreation | hdeletion
    · obtain ⟨endpoint, _, heq⟩ := List.mem_map.mp hcreation
      cases heq
    · obtain ⟨listed, hlisted, heq⟩ := List.mem_map.mp hdeletion
      obtain ⟨_, rfl⟩ := Call.deleteEndpoint.inj heq
      exact of_decide_eq_true (List.mem_filter.mp hlisted).2

/-- Whatever the cloud answers: a pass lists once; then it creates, in the declared order, a
front of the declared endpoints whose id is empty or not listed; then, if all of these calls
went well, it deletes, in the listed order, a front of the listed endpoints with an id that is
not declared; and it stops behind the first call that fails.  It is fine exactly if no call
failed, and tells the last error otherwise; and it changes its own condition only. -/
theorem inOrder_of_trace {now : Moment} {conditions : Conditions} {value : PassResult × Conditions}
    (h : (ensure now project desired conditions).Trace exchanges value) :
    InOrder project desired conditions exchanges value := by
  obtain ⟨result, hsync, rfl⟩ := Program.trace_map_iff.mp h
  have houtcome := outcome_of_trace hsync
  refine {
    lists_once := ?_
    stops := ?_
    fine := ?_
    tells := ?_
    spares := fun owner id => spared_of_trace hsync
    other_conditions := Conditions.without_publish
    condition := Conditions.isTrue_publish_self }
  · rcases trace_sync_iff.mp hsync with ⟨error, rfl, _⟩ | ⟨remote, rest, verdict, rfl, hrest, _⟩
    · refine ⟨.error error, [], rfl, fun _ _ => rfl, ?_⟩
      rintro remote ⟨⟩
    · refine ⟨.ok remote, rest, rfl, ?_, ?_⟩
      · rintro error ⟨⟩
      · rintro other ⟨⟩
        exact exists_carried_of_attempted hrest
  · rintro before exchange behind hsplit hfailed
    rcases houtcome with ⟨_, hfine⟩ | ⟨front, call, error, rfl, hfine, _⟩
    · rw [hsplit] at hfine
      rw [hfine exchange (List.mem_append_right _ List.mem_cons_self)] at hfailed
      cases hfailed
    · exact eq_nil_of_failed hfine hsplit hfailed
  · rcases houtcome with ⟨rfl, hfine⟩ | ⟨front, call, error, rfl, _, rfl⟩
    · exact iff_of_true rfl hfine
    · refine iff_of_false Bool.false_ne_true fun hfine => ?_
      cases hfine _ (List.mem_append_right front (List.mem_singleton_self _))
  · intro hresult
    rcases houtcome with ⟨rfl, _⟩ | ⟨front, call, error, rfl, _, rfl⟩
    · cases hresult
    · exact ⟨front, call, error, rfl, rfl, rfl⟩

/-- Two endpoints that are not listed below. -/
def twoDeclared : List Endpoint :=
  [⟨"a", "AWS", "DATA_LAKE"⟩, ⟨"b", "AWS", "DATA_LAKE"⟩]

/-- An endpoint without an id, and one that is not declared above. -/
def staleListing : List Endpoint :=
  [⟨"", "AWS", "DATA_LAKE"⟩, ⟨"old", "AWS", "DATA_LAKE"⟩]

theorem agenda_twoDeclared : agenda "p" twoDeclared staleListing =
    [.createEndpoint "p" ⟨"a", "AWS", "DATA_LAKE"⟩, .createEndpoint "p" ⟨"b", "AWS", "DATA_LAKE"⟩,
      .deleteEndpoint "p" "old"] := by
  decide

/-- The second of the missing endpoints cannot be created, and so the old one stays. -/
theorem inOrder_of_refusal : ∃ exchanges value,
    (ensure MemoryCloud.creationTime "p" twoDeclared .empty).Trace exchanges value ∧
      InOrder "p" twoDeclared .empty exchanges value ∧
      exchanges.map Program.Exchange.question = [.listEndpoints "p",
        .createEndpoint "p" ⟨"a", "AWS", "DATA_LAKE"⟩,
        .createEndpoint "p" ⟨"b", "AWS", "DATA_LAKE"⟩] ∧
      value.1 = .terminate .privateEndpointsNotReady "not found: b" := by
  have hattempted : Attempted (agenda "p" twoDeclared staleListing)
      [⟨.createEndpoint "p" ⟨"a", "AWS", "DATA_LAKE"⟩, .ok ⟨"a", "AWS", "DATA_LAKE"⟩⟩,
        ⟨.createEndpoint "p" ⟨"b", "AWS", "DATA_LAKE"⟩, .error (.notFound "b")⟩]
      (.error (.notFound "b")) := by
    rw [agenda_twoDeclared]
    exact .granted _ (.refused _)
  have hsync := trace_sync_iff.mpr (.inr ⟨staleListing, _, _, rfl, hattempted, rfl⟩)
  have htrace : (ensure MemoryCloud.creationTime "p" twoDeclared .empty).Trace _ _ :=
    Program.trace_map_iff.mpr ⟨_, hsync, rfl⟩
  exact ⟨_, _, htrace, inOrder_of_trace htrace, rfl, rfl⟩

end Endpoints

end CloudSteward
