import CloudSteward.Proofs.Conditions
import CloudSteward.Proofs.Integrations.Addressing
import CloudSteward.Proofs.Integrations.Gate

/-!
# What a pass reports is what happened

The result of a pass is read off the texts and phases of the statuses that are left, and
not off the replies.  That it still tells what happened has three reasons: linking hands
over statuses without an error (`error_eq_of_mem_statuses`), every error has a text
(`CloudError.text_ne_empty`), and a step whose call failed keeps the status
(`Stepped.hasError_iff`).  So some status has an error exactly if some call failed
(`hasError_iff_of_trace`), and `faithful_of_trace` puts this together with the ways in
which a pass can end before it makes a step.
-/

namespace CloudSteward

theorem CloudError.text_ne_empty (error : CloudError) : error.text ≠ "" := by
  have hfront {front : String} (hne : front ≠ "") (back : String) : front ++ back ≠ "" :=
    fun hempty => hne (String.append_eq_empty_iff.mp hempty).1
  cases error with
  | transport fault => exact hfront (by decide) _
  | api status code detail =>
      exact hfront (hfront (hfront (hfront (hfront (by decide) _) _) _) _) _
  | notFound what => exact hfront (by decide) _
  | malformed error => exact hfront (by decide) _

namespace Integrations

open Linking MemoryCloud

variable {now : Moment} {project : Project} {guarded : Bool} {conditions : Conditions}
  {exchanges : List Exchange} {ensured : Ensured}

/-! ## Statuses with an error -/

/-- Linking clears the errors of earlier passes. -/
theorem error_eq_of_mem_statuses {desired : List Integration} {remote : List Role}
    {status : Status} (h : status ∈ statuses desired remote) : status.error = "" := by
  rcases mem_statuses_cases h with hplaced | ⟨role, _, rfl⟩
  · obtain ⟨integration, _, _, _, rfl | ⟨role, _, _, earlier, rfl⟩⟩ :=
      exists_link_of_mem_placed hplaced
    · rfl
    · rfl
  · rfl

/-- A status ends a step with an error exactly if the call of the step failed. -/
theorem Stepped.hasError_iff {owner : String} {status : Status} {own : List Exchange}
    {output : Option Status} (h : Stepped owner status own output) (hsound : status.error = "") :
    (∃ after ∈ output, after.hasError = true) ↔ ∃ exchange ∈ own, exchange.failed = true := by
  -- A call that failed leaves a text that is not empty; one that succeeded clears it, and
  -- after a removal there is no status left.
  have hfailed (phase : Phase) (error : CloudError) :
      (status.failed phase error.text).hasError = true :=
    decide_eq_true error.text_ne_empty
  have hlinked (role : Role) : (status.linked role).hasError = false :=
    decide_eq_false (not_not_intro rfl)
  cases h.ended with
  | rested => simp [Status.hasError, hsound]
  | linked role _ hreturned => simp [hlinked, failed_of_returned hreturned]
  | failed phase error hfail => simp [hfailed, hfail]
  | removed _ hremoves => simp [hremoves.2]

/-- Some status that a run leaves has an error exactly if some call of the run failed. -/
theorem hasError_iff_of_trace {owner : String} {statuses outputs : List Status}
    (h : (stepAll owner statuses).Trace exchanges outputs)
    (hsound : ∀ status ∈ statuses, status.error = "") :
    (∃ output ∈ outputs, output.hasError = true) ↔
      ∃ exchange ∈ exchanges, exchange.failed = true := by
  induction statuses generalizing exchanges outputs with
  | nil =>
      obtain ⟨rfl, rfl⟩ := Program.trace_done_iff.mp h
      simp
  | cons status rest ih =>
      obtain ⟨own, behind, output, others, rfl, rfl, hstep, hrest⟩ := trace_stepAll_cons_iff.mp h
      obtain ⟨hfirst, hothers⟩ := List.forall_mem_cons.mp hsound
      simp only [List.mem_append, Option.mem_toList, or_and_right, exists_or]
      exact or_congr ((trace_step hstep).hasError_iff hfirst) (ih hrest hothers)

/-! ## Results -/

/-- Whether one of the calls that create, authorize or remove roles failed. -/
def Mishap (exchanges : List Exchange) : Prop :=
  ∃ exchange ∈ exchanges, changesRoles exchange.question.operation = true ∧
    exchange.failed = true

/-- What the result and the conditions of a pass tell of its calls. -/
structure Faithful (project : Project) (conditions : Conditions) (exchanges : List Exchange)
    (ensured : Ensured) : Prop where
  terminated : ∀ statuses, ensured.statuses = some statuses →
    ((ensured.result.isTerminated = true ∧ ensured.result.retryable = true ∧
        ensured.result.reason = some .cloudIntegrationsNotReady) ↔ Mishap exchanges)
  fine : ∀ statuses, ensured.statuses = some statuses →
    (ensured.result.isOk = true ↔ (∀ exchange ∈ exchanges, exchange.failed = false) ∧
      ∀ status ∈ statuses, status.phase = .authorized)
  in_progress : ∀ statuses, ensured.statuses = some statuses →
    (ensured.result.isInProgress = true ↔ ¬Mishap exchanges ∧
      ∃ status ∈ statuses, status.phase ≠ .authorized)
  absent : ensured.conditions.get? .cloudProviderIntegrationReady = none ↔
    ensured.result.isOk = true ∧ ensured.statuses = none ∧ hasNone project = true
  present : ∀ condition, ensured.conditions.get? .cloudProviderIntegrationReady = some condition →
    condition.status = ensured.result.isOk ∧
      (ensured.result.isOk = false → condition.reason = ensured.result.reason.map Reason.text ∧
        condition.message = some ensured.result.message)
  other_conditions : ensured.conditions.without .cloudProviderIntegrationReady =
    conditions.without .cloudProviderIntegrationReady

/-- The calls of a step are those that change roles. -/
theorem StepCall.changesRoles {owner : String} {call : Call} (h : StepCall owner call) :
    changesRoles call.operation = true := by
  cases h <;> rfl

/-- After the listing, the calls that fail are the mishaps of a pass. -/
theorem mishap_iff_of_trace {owner : String} {statuses outputs : List Status} {remote : List Role}
    (h : (stepAll owner statuses).Trace exchanges outputs) :
    Mishap (⟨.listRoles project.id, .ok remote⟩ :: exchanges) ↔
      ∃ exchange ∈ exchanges, exchange.failed = true := by
  constructor
  · rintro ⟨exchange, hmem, hchanges, hfailed⟩
    -- The listing succeeded, and it changes no roles anyway.
    rcases List.mem_cons.mp hmem with rfl | hrest
    · cases hchanges
    · exact ⟨exchange, hrest, hfailed⟩
  · rintro ⟨exchange, hmem, hfailed⟩
    exact ⟨exchange, List.mem_cons_of_mem _ hmem,
      (stepCall_of_trace h exchange hmem).changesRoles, hfailed⟩

/-- The three ways to sum up some statuses. -/
theorem ofStatuses_cases (statuses : List Status) :
    (Progress.ofStatuses statuses = .failed ∧ ∃ status ∈ statuses, status.hasError = true) ∨
      (Progress.ofStatuses statuses = .pending ∧
        (¬∃ status ∈ statuses, status.hasError = true) ∧
        ∃ status ∈ statuses, status.phase ≠ .authorized) ∨
      (Progress.ofStatuses statuses = .allAuthorized ∧
        (¬∃ status ∈ statuses, status.hasError = true) ∧
        ∀ status ∈ statuses, status.phase = .authorized) := by
  unfold Progress.ofStatuses
  by_cases herror : statuses.any Status.hasError = true
  · exact .inl ⟨if_pos herror, List.any_eq_true.mp herror⟩
  · rw [if_neg herror]
    have hnone : ¬∃ status ∈ statuses, status.hasError = true :=
      fun h => herror (List.any_eq_true.mpr h)
    by_cases hphases : (statuses.all fun status => status.phase = .authorized) = true
    · exact .inr (.inr ⟨if_pos hphases, hnone, by simpa using hphases⟩)
    · exact .inr (.inl ⟨if_neg hphases, hnone, by simpa using hphases⟩)

/-- The result of some statuses is a failure, a wait or a success. -/
theorem result_aligned_cases (now : Moment) (project : Project) (conditions : Conditions)
    (statuses : List Status) :
    ((aligned now project conditions statuses).result =
        .terminate .cloudIntegrationsNotReady Progress.notSynchronized ∧
        ∃ status ∈ statuses, status.hasError = true) ∨
      ((aligned now project conditions statuses).result =
          .inProgress .cloudIntegrationsNotReady Progress.notAuthorized ∧
        (¬∃ status ∈ statuses, status.hasError = true) ∧
        ∃ status ∈ statuses, status.phase ≠ .authorized) ∨
      ((aligned now project conditions statuses).result.outcome = .ok ∧
        (¬∃ status ∈ statuses, status.hasError = true) ∧
        ∀ status ∈ statuses, status.phase = .authorized) := by
  unfold aligned Progress.publish
  rcases ofStatuses_cases statuses with ⟨hsum, hrest⟩ | ⟨hsum, hrest⟩ | ⟨hsum, hrest⟩
  · exact .inl ⟨by rw [hsum]; rfl, hrest⟩
  · exact .inr (.inl ⟨by rw [hsum]; rfl, hrest⟩)
  · exact .inr (.inr ⟨by rw [hsum]; cases project.spec.usesAccessRoles <;> rfl, hrest⟩)

theorem failed_aligned_iff {statuses : List Status} :
    ((aligned now project conditions statuses).result.isTerminated = true ∧
      (aligned now project conditions statuses).result.retryable = true ∧
      (aligned now project conditions statuses).result.reason = some .cloudIntegrationsNotReady) ↔
        ∃ status ∈ statuses, status.hasError = true := by
  rcases result_aligned_cases now project conditions statuses with
    ⟨hresult, hfailed⟩ | ⟨hresult, hfine, _⟩ | ⟨hresult, hfine, _⟩
  · exact iff_of_true (by rw [hresult]; exact ⟨rfl, rfl, rfl⟩) hfailed
  · exact iff_of_false (by rw [hresult]; exact fun h => Bool.false_ne_true h.1) hfine
  · exact iff_of_false (by simp [PassResult.isTerminated, hresult]) hfine

theorem isInProgress_aligned_iff {statuses : List Status} :
    (aligned now project conditions statuses).result.isInProgress = true ↔
      (¬∃ status ∈ statuses, status.hasError = true) ∧
        ∃ status ∈ statuses, status.phase ≠ .authorized := by
  rcases result_aligned_cases now project conditions statuses with
    ⟨hresult, hfailed⟩ | ⟨hresult, hpending⟩ | ⟨hresult, _, hfine⟩
  · exact iff_of_false (by rw [hresult]; exact Bool.false_ne_true) fun h => h.1 hfailed
  · exact iff_of_true (by rw [hresult]; rfl) hpending
  · refine iff_of_false (by simp [PassResult.isInProgress, hresult]) ?_
    rintro ⟨_, status, hmem, hphase⟩
    exact hphase (hfine status hmem)

theorem without_aligned {statuses : List Status} :
    (aligned now project conditions statuses).conditions.without .cloudProviderIntegrationReady =
      conditions.without .cloudProviderIntegrationReady := by
  unfold aligned Progress.publish
  cases Progress.ofStatuses statuses with
  | failed => exact Conditions.without_publish
  | pending => exact Conditions.without_publish
  | allAuthorized => exact Conditions.without_set

/-- The result of some statuses, and the condition that goes with it. -/
theorem says_aligned (statuses : List Status) :
    (aligned now project conditions statuses).conditions.Says .cloudProviderIntegrationReady
      (aligned now project conditions statuses).result.isOk
      ((aligned now project conditions statuses).result.reason.map Reason.text)
      (if (aligned now project conditions statuses).result.isOk then
        Conditions.shown (if project.spec.usesAccessRoles then Progress.deprecationNotice else "")
      else some (aligned now project conditions statuses).result.message) := by
  rw [reason_aligned, isOk_aligned]
  unfold aligned Progress.publish
  cases Progress.ofStatuses statuses with
  | failed => exact Conditions.says_publish_self
  | pending => exact Conditions.says_publish_self
  | allAuthorized => exact Conditions.says_set_self

theorem present_of_says {kind : ConditionKind} {result : PassResult} {shown : Option String}
    (h : conditions.Says kind result.isOk (result.reason.map Reason.text) shown)
    (hshown : result.isOk = false → shown = some result.message) :
    ∀ condition, conditions.get? kind = some condition →
      condition.status = result.isOk ∧
        (result.isOk = false → condition.reason = result.reason.map Reason.text ∧
          condition.message = some result.message) := by
  intro condition hcondition
  obtain ⟨said, hsaid, hstatus, hreason, hmessage⟩ := h
  obtain rfl := Option.some.inj (hsaid.symm.trans hcondition)
  exact ⟨hstatus, fun hfalse => ⟨hreason, hmessage.trans (hshown hfalse)⟩⟩

/-- A pass that stops early says why, and nothing else. -/
theorem faithful_stopped {result : PassResult} (hresult : result.isOk = false) :
    Faithful project conditions exchanges (stopped now conditions result) where
  terminated _ h := by cases h
  fine _ h := by cases h
  in_progress _ h := by cases h
  absent := iff_of_false Conditions.says_publish_self.get?_ne_none
    fun h => Bool.false_ne_true (hresult.symm.trans h.1)
  present := present_of_says (Conditions.says_publish_of_not_isOk hresult) fun _ => rfl
  other_conditions := Conditions.without_publish

/-- A project without integrations says nothing about them. -/
theorem faithful_cleared (hnone : hasNone project = true) :
    Faithful project conditions exchanges (cleared conditions) where
  terminated _ h := by cases h
  fine _ h := by cases h
  in_progress _ h := by cases h
  absent := iff_of_true Conditions.get?_unset_self ⟨rfl, rfl, hnone⟩
  present condition h := by
    rw [show (cleared conditions).conditions.get? .cloudProviderIntegrationReady = none from
      Conditions.get?_unset_self] at h
    cases h
  other_conditions := Conditions.without_unset

/-- What a pass says that drove some statuses is what their calls came to. -/
theorem faithful_aligned {desired : List Integration} {remote : List Role}
    {statuses : List Status} (h : (sync project.id desired remote).Trace exchanges statuses) :
    Faithful project conditions (⟨.listRoles project.id, .ok remote⟩ :: exchanges)
      (aligned now project conditions statuses) := by
  have hmishap : Mishap (⟨.listRoles project.id, .ok remote⟩ :: exchanges) ↔
      ∃ exchange ∈ exchanges, exchange.failed = true := mishap_iff_of_trace h
  have herrors := hasError_iff_of_trace h fun _ hmem => error_eq_of_mem_statuses hmem
  have hcalls : (∀ exchange ∈ (⟨.listRoles project.id, .ok remote⟩ : Exchange) :: exchanges,
      exchange.failed = false) ↔ ¬∃ status ∈ statuses, status.hasError = true := by
    rw [herrors, List.forall_mem_cons]
    simp [Program.Exchange.failed]
  have hsays : (aligned now project conditions statuses).conditions.Says _ _ _ _ :=
    says_aligned statuses
  exact
    { terminated := by
        rintro _ ⟨⟩
        rw [failed_aligned_iff, herrors, hmishap]
      fine := by
        rintro _ ⟨⟩
        rw [isOk_aligned_iff, hcalls]
        simp [Status.hasError, forall_and]
      in_progress := by
        rintro _ ⟨⟩
        rw [isInProgress_aligned_iff, herrors, hmishap]
      absent := iff_of_false hsays.get?_ne_none fun h => by cases h.2.1
      present := present_of_says hsays fun hfalse => if_neg (by simp [hfalse])
      other_conditions := without_aligned }

/-- Whatever the cloud replies, the result of a pass and what it publishes agree with what
happened. -/
theorem faithful_of_trace
    (h : (ensure now project guarded conditions).Trace exchanges ensured) :
    Faithful project conditions exchanges ensured := by
  cases trace_ensure h with
  | idle _ hnone => exact faithful_cleared hnone
  | unread error => exact faithful_stopped (isOk_unread guarded error)
  | undecided remote error => exact faithful_stopped rfl
  | refused remote => exact faithful_stopped rfl
  | cleared remote _ hnone => exact faithful_cleared hnone
  | aligned remote _ _ hsync => exact faithful_aligned hsync

/-- One creation that is refused makes the pass fail, although the next one succeeds. -/
theorem faithful_after_refused_creation :
    ∃ exchanges ensured, (ensure creationTime twoRoles false .empty).Trace exchanges ensured ∧
      ensured.statuses.isSome = true ∧ ensured.result.isTerminated = true ∧
      Faithful twoRoles .empty exchanges ensured := by
  obtain ⟨exchanges, htrace, -⟩ := execution_run (ensure creationTime twoRoles false .empty)
    (MemoryCloud.empty.orderFailure .createRole "denied")
  have hsome : ((MemoryCloud.empty.orderFailure .createRole "denied").run
      (ensure creationTime twoRoles false .empty)).1.statuses.isSome = true := by
    decide +kernel
  have hfailed : ((MemoryCloud.empty.orderFailure .createRole "denied").run
      (ensure creationTime twoRoles false .empty)).1.result.isTerminated = true := by
    decide +kernel
  exact ⟨exchanges, _, htrace, hsome, hfailed, faithful_of_trace htrace⟩

end Integrations

end CloudSteward
