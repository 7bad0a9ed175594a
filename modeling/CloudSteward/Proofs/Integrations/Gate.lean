import CloudSteward.Proofs.Conditions
import CloudSteward.Proofs.Integrations.Soundness
import CloudSteward.Proofs.Ownership

/-!
# Deletion protection of a pass

A protected pass lists the roles first, and once.  It changes a role only after a
listing that shows that the roles are owned, and otherwise it ends there: without a
status, with nothing said but in the condition about integrations.  Nothing is
assumed of the cloud, so this holds for all replies.
-/

namespace CloudSteward.Integrations

open Linking MemoryCloud Ownership

variable {now : Moment} {project : Project} {conditions : Conditions}
  {exchanges : List Exchange} {ensured : Ensured}

/-- Whether calls of a kind create, authorize or remove roles. -/
def changesRoles : Operation → Bool
  | .createRole | .authorizeRole | .deauthorizeRole => true
  | _ => false

/-- How a pass ends that protection has stopped. -/
structure Refused (conditions : Conditions) (ensured : Ensured) : Prop where
  terminated : ensured.result.isTerminated = true
  parked : ensured.result.retryable = false
  reason : ensured.result.reason = some .deletionProtection
  no_statuses : ensured.statuses = none
  other_conditions : ensured.conditions.without .cloudProviderIntegrationReady =
    conditions.without .cloudProviderIntegrationReady
  condition : ensured.conditions.Says .cloudProviderIntegrationReady false
    (some Reason.deletionProtection.text) (some refused.message)

theorem refused_stopped (now : Moment) (conditions : Conditions) :
    Refused conditions (stopped now conditions refused) where
  terminated := rfl
  parked := rfl
  reason := rfl
  no_statuses := rfl
  other_conditions := Conditions.without_set
  condition := Conditions.says_set_self

theorem changesRoles_listRoles {reply : Call.Reply (.listRoles project.id)} {rest : List Exchange}
    (h : ∃ exchange ∈ (⟨.listRoles project.id, reply⟩ : Exchange) :: rest,
      changesRoles exchange.question.operation = true) :
    ∃ exchange ∈ rest, changesRoles exchange.question.operation = true := by
  obtain ⟨exchange, hmem, hchanges⟩ := h
  rcases List.mem_cons.mp hmem with rfl | hrest
  · cases hchanges
  · exact ⟨exchange, hrest, hchanges⟩

theorem StepCall.operation_ne_listRoles {owner : String} {call : Call} (h : StepCall owner call) :
    call.operation ≠ .listRoles := by
  cases h <;> simp [Call.operation]

/-- A protected pass begins with a listing, and what follows is one of three things:
nothing, as the roles were not listed or what is on record cannot be read; a refusal,
as the roles are not owned; or, as they are, any number of steps. -/
theorem course_of_guarded (h : (ensure now project true conditions).Trace exchanges ensured) :
    ∃ reply rest, exchanges = ⟨.listRoles project.id, reply⟩ :: rest ∧
      ((rest = [] ∧ ∀ remote snapshot, reply = .ok remote →
          project.metadata.applied ProjectSpec.codec ≠ .ok snapshot) ∨
        (∃ remote snapshot, reply = .ok remote ∧
          project.metadata.applied ProjectSpec.codec = .ok snapshot ∧
          ¬Owned (recorded snapshot) project.spec.declared remote ∧
          rest = [] ∧ Refused conditions ensured) ∨
        ∃ remote snapshot, reply = .ok remote ∧
          project.metadata.applied ProjectSpec.codec = .ok snapshot ∧
          Owned (recorded snapshot) project.spec.declared remote ∧
          ∀ exchange ∈ rest, StepCall project.id exchange.question) := by
  cases trace_ensure h with
  | idle hopen => cases hopen
  | unread error =>
      exact ⟨_, [], rfl, .inl ⟨rfl, fun _ _ hreply => by cases hreply⟩⟩
  | undecided remote error hpermits =>
      refine ⟨_, [], rfl, .inl ⟨rfl, fun other snapshot hreply happlied => ?_⟩⟩
      obtain rfl := Except.ok.inj hreply
      unfold permitsProject at hpermits
      rw [happlied] at hpermits
      cases hpermits
  | refused remote hpermits =>
      obtain ⟨snapshot, happlied, howned⟩ := permitsProject_eq_ok_iff.mp hpermits
      have hnot : ¬Owned (recorded snapshot) project.spec.declared remote :=
        fun hyes => Bool.false_ne_true (howned.mpr hyes)
      exact ⟨_, [], rfl, .inr (.inl ⟨remote, snapshot, rfl, happlied, hnot, rfl,
        refused_stopped now conditions⟩)⟩
  | cleared remote hpermits _ =>
      obtain ⟨snapshot, happlied, howned⟩ := permitsProject_eq_ok_iff.mp hpermits
      exact ⟨_, [], rfl, .inr (.inr ⟨remote, snapshot, rfl, happlied, howned.mp rfl,
        fun _ hmem => absurd hmem List.not_mem_nil⟩)⟩
  | @aligned remote rest statuses hpermits _ hsync =>
      obtain ⟨snapshot, happlied, howned⟩ := permitsProject_eq_ok_iff.mp hpermits
      exact ⟨_, rest, rfl, .inr (.inr ⟨remote, snapshot, rfl, happlied, howned.mp rfl,
        stepCall_of_trace hsync⟩)⟩

/-- Whatever the cloud replies, a protected pass lists the roles first and only once,
changes roles only if what is on record can be read and the listed roles are owned,
and ends with a refusal right after the listing if they are not. -/
theorem guarded_pass_gate (h : (ensure now project true conditions).Trace exchanges ensured) :
    ∃ reply rest, exchanges = ⟨.listRoles project.id, reply⟩ :: rest ∧
      (∀ exchange ∈ rest, exchange.question.operation ≠ .listRoles) ∧
      ((∃ exchange ∈ exchanges, changesRoles exchange.question.operation = true) →
        ∃ remote snapshot, reply = .ok remote ∧
          project.metadata.applied ProjectSpec.codec = .ok snapshot ∧
          Owned (recorded snapshot) project.spec.declared remote) ∧
      ∀ remote snapshot, reply = .ok remote →
        project.metadata.applied ProjectSpec.codec = .ok snapshot →
        ¬Owned (recorded snapshot) project.spec.declared remote →
          rest = [] ∧ Refused conditions ensured := by
  obtain ⟨reply, rest, rfl, hcourse⟩ := course_of_guarded h
  refine ⟨reply, rest, rfl, ?_, ?_, ?_⟩
  · rcases hcourse with ⟨rfl, _⟩ | ⟨_, _, _, _, _, rfl, _⟩ | ⟨_, _, _, _, _, hsteps⟩
    · exact fun _ hmem => absurd hmem List.not_mem_nil
    · exact fun _ hmem => absurd hmem List.not_mem_nil
    · exact fun exchange hmem => (hsteps exchange hmem).operation_ne_listRoles
  · intro hchanges
    obtain ⟨exchange, hmem, _⟩ := changesRoles_listRoles hchanges
    rcases hcourse with ⟨rfl, _⟩ | ⟨_, _, _, _, _, rfl, _⟩ |
      ⟨remote, snapshot, hreply, happlied, howned, _⟩
    · cases hmem
    · cases hmem
    · exact ⟨remote, snapshot, hreply, happlied, howned⟩
  · intro remote snapshot hreply happlied hnot
    rcases hcourse with ⟨_, hunread⟩ | ⟨_, _, _, _, _, hrest, hrefused⟩ |
      ⟨other, known, hlisted, hread, howned, _⟩
    · exact absurd happlied (hunread remote snapshot hreply)
    · exact ⟨hrest, hrefused⟩
    · obtain rfl := Except.ok.inj (hlisted.symm.trans hreply)
      obtain rfl := Except.ok.inj (hread.symm.trans happlied)
      exact absurd howned hnot

/-- A left over role that nobody declared stops the protected pass over the mixed cloud. -/
theorem mixed_pass_refused :
    ∃ ensured, (ensure creationTime twoRoles true .empty).Trace
        [⟨.listRoles "p", .ok (mixedCloud.rolesOf "p")⟩] ensured ∧ Refused .empty ensured := by
  have hpermits : permitsProject true twoRoles (mixedCloud.rolesOf "p") = .ok false := by cbv
  have htrace : (ensure creationTime twoRoles true .empty).Trace
      [⟨.listRoles "p", .ok (mixedCloud.rolesOf "p")⟩]
      (stopped creationTime .empty refused) := by
    unfold ensure ensureGuarded Call.make
    rw [if_pos rfl]
    refine Program.trace_perform_bind_iff.mpr ⟨.ok (mixedCloud.rolesOf "p"), [], rfl, ?_⟩
    simp only [hpermits]
    exact .done _
  obtain ⟨snapshot, happlied, howned⟩ := permitsProject_eq_ok_iff.mp hpermits
  have hnot : ¬Owned (recorded snapshot) twoRoles.spec.declared (mixedCloud.rolesOf "p") :=
    fun hyes => Bool.false_ne_true (howned.mpr hyes)
  obtain ⟨reply, rest, heq, _, _, hgate⟩ := guarded_pass_gate htrace
  obtain ⟨hfirst, hrest⟩ := List.cons_eq_cons.mp heq
  obtain rfl : reply = .ok (mixedCloud.rolesOf "p") := by
    cases hfirst
    rfl
  exact ⟨_, htrace, (hgate _ snapshot rfl happlied hnot).2⟩

end CloudSteward.Integrations
