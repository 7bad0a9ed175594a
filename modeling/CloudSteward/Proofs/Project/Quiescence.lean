import CloudSteward.Proofs.Applied
import CloudSteward.Proofs.Integrations.Gate
import CloudSteward.Proofs.Integrations.Rest
import CloudSteward.Proofs.Project.Pass

/-!
# Passes come to rest

After a pass over a project that is fine, passes that nobody disturbs are fine as well,
change no role, and from the second of them on give the project back as it was.

The invariant is `Converged`: what a pass that is fine leaves behind, whatever was there
before (`converged_of_isOk`).  A pass over a converged project is determined
(`run_reconcile`): it only lists the roles, finds everything declared by its identifier,
and gives back the project `rested`.  That is again what a pass that is fine leaves
behind, so the invariant is kept; and resting twice is resting once, as conditions keep
their times, and the record is the same text again.
-/

namespace CloudSteward.Project

open Integrations Linking MemoryCloud Ownership

variable {now : Moment} {guarded : Bool} {project : Project} {cloud after : MemoryCloud}
  {first : Reconciled Project}

/-! ## What a pass that is fine leaves behind -/

/-- A project on whose behalf nothing is left to do, in a cloud without ordered failures. -/
structure Converged (project : Project) (cloud : MemoryCloud) : Prop where
  reachable : cloud.Reachable
  calm : cloud.failures = []
  active : project.metadata.isSkipped = false
  identified : project.id ≠ ""
  recorded : project.metadata.setApplied ProjectSpec.codec project.spec = project.metadata
  ready : project.status.conditions.Says .ready true none none
  /-- Nothing is declared or recorded, or the cloud has what is declared and the
  condition about integrations says so. -/
  settled : hasNone project = true ∨
    (Realized cloud project.id project.spec.declared project.status.integrations ∧
      project.status.conditions.Says .cloudProviderIntegrationReady true none
        (Conditions.shown (notice project)))

theorem hasNone_iff :
    hasNone project = true ↔ project.spec.declared = [] ∧ project.status.integrations = [] := by
  unfold hasNone
  rw [Bool.and_eq_true, List.isEmpty_iff, List.isEmpty_iff]

/-- A converged project that declares nothing records nothing. -/
theorem Converged.hasNone_iff_declared (h : Converged project cloud) :
    hasNone project = true ↔ project.spec.declared = [] := by
  constructor
  · intro hnone
    exact (hasNone_iff.mp hnone).1
  · intro hdeclared
    rcases h.settled with hnone | ⟨hrealized, _⟩
    · exact hnone
    · have hentries := hrealized.entries
      rw [hdeclared, List.forall₂_nil_left_iff] at hentries
      exact hasNone_iff.mpr ⟨hdeclared, hentries⟩

/-- The conditions of a project after a pass that is fine say that it is ready. -/
theorem publish_ready {conditions : Conditions} {result : PassResult} (hok : result.isOk = true) :
    conditions.publish now .ready result = conditions.set now .ready true none none := by
  have hmessage : result.message = "" := by
    unfold PassResult.isOk at hok
    unfold PassResult.message
    split at hok
    case h_1 hdone => rw [hdone]
    case h_2 => cases hok
  unfold Conditions.publish
  rw [if_pos hok, hmessage]
  rfl

/-- A pass that is fine leaves a converged project behind. -/
theorem converged_of_isOk (hreachable : cloud.Reachable)
    (hactive : project.metadata.isSkipped = false)
    (hpass : cloud.Execution (project.reconcile now guarded) first after)
    (hok : first.result.isOk = true) (hcalm : after.failures = []) :
    Converged first.resource after := by
  obtain ⟨exchanges, htrace, hanswers⟩ := hpass
  have hreached : after.Reachable := hreachable.reconcile ⟨exchanges, htrace, hanswers⟩
  rcases trace_reconcile htrace with
    ⟨hskipped, _, _⟩ | ⟨_, _, _, rfl⟩ | ⟨_, hid, ensured, hensure, rfl⟩
  · exact absurd (hskipped.symm.trans hactive) (by decide)
  · cases hok
  · have hok : ensured.result.isOk = true := hok
    have hmetadata : (Project.after now project ensured).resource.metadata =
        project.metadata.setApplied ProjectSpec.codec project.spec := if_pos hok
    have hconditions : (Project.after now project ensured).resource.status.conditions =
        ensured.conditions.set now .ready true none none := publish_ready hok
    refine ⟨hreached, hcalm, ?_, hid, ?_, ?_, ?_⟩
    · rw [hmetadata, Metadata.isSkipped_setApplied, hactive]
    · rw [hmetadata]
      exact Metadata.setApplied_setApplied
    · rw [hconditions]
      exact Conditions.says_set_self
    · -- A pass that clears keeps the recorded integrations, of which there are none.
      rcases cases_of_isOk hreachable ⟨exchanges, hensure, hanswers⟩ hok with
        ⟨hnone, _, rfl⟩ | ⟨_, outputs, rfl, hrealized⟩
      · exact .inl (hasNone_iff.mpr (hasNone_iff.mp hnone))
      · refine .inr ⟨hrealized, ?_⟩
        rw [hconditions, Conditions.says_set_of_ne_iff (by decide), conditions_aligned hok]
        exact Conditions.says_set_self

/-! ## A pass over a converged project -/

/-- What a pass gives back of a converged project: without integrations the condition
about them is dropped, and otherwise they are linked anew. -/
def rested (project : Project) (remote : List Role) : Project :=
  if project.spec.declared = [] then
    { project with
      status := { project.status with
        conditions := project.status.conditions.unset .cloudProviderIntegrationReady } }
  else
    { project with
      status := { project.status with integrations := matched project.spec.declared remote } }

theorem rested_rested (project : Project) (remote : List Role) :
    (project.rested remote).rested remote = project.rested remote := by
  unfold rested
  by_cases hdeclared : project.spec.declared = []
  · simp only [hdeclared, if_true, Conditions.unset_unset]
  · simp only [hdeclared, if_false]

/-- Protection permits a pass over a converged project. -/
theorem Converged.permits (h : Converged project cloud) (guarded : Bool) :
    permitsProject guarded project (cloud.rolesOf project.id) = .ok true := by
  cases guarded with
  | false => rfl
  | true =>
      have happlied : project.metadata.applied ProjectSpec.codec = .ok (some project.spec) := by
        rw [← h.recorded]
        exact applied_setApplied project.metadata project.spec
      refine permitsProject_eq_ok_iff.mpr ⟨_, happlied, iff_of_true rfl (.inr (.inr ?_))⟩
      intro integration hdeclared
      rcases h.settled with hnone | ⟨hrealized, _⟩
      · rw [(hasNone_iff.mp hnone).1] at hdeclared
        exact absurd hdeclared List.not_mem_nil
      · obtain ⟨role, hrole, hmatch⟩ :=
          (hrealized.same_identifiers (identifier integration)).mpr ⟨integration, hdeclared, rfl⟩
        exact ⟨hrealized.complete integration hdeclared, role, hrole,
          (hrealized.usable role hrole).1, hmatch⟩

/-- What a pass over the integrations of a converged project leaves behind. -/
def settledEnsured (now : Moment) (project : Project) (remote : List Role) : Ensured :=
  if hasNone project then cleared project.status.conditions
  else aligned now project project.status.conditions (matched project.spec.declared remote)

/-- Such a pass makes no call but a listing. -/
theorem run_ensure (h : Converged project cloud) (now : Moment) (guarded : Bool) :
    ∃ calls, (∀ operation ∈ calls, changesRoles operation = false) ∧
      cloud.run (ensure now project guarded project.status.conditions) =
        (settledEnsured now project (cloud.rolesOf project.id),
          { cloud with log := cloud.log ++ calls }) := by
  have hlist : ∀ operation ∈ [Operation.listRoles], changesRoles operation = false :=
    List.forall_mem_singleton.mpr rfl
  -- With integrations, all of them are linked, so the pass drives statuses that rest.
  have halign (hnone : ¬hasNone project = true) :
      align now project project.status.conditions (cloud.rolesOf project.id) =
        .done (settledEnsured now project (cloud.rolesOf project.id)) := by
    rcases h.settled with hyes | ⟨hrealized, _⟩
    · exact absurd hyes hnone
    · unfold settledEnsured
      rw [if_neg hnone, align_of_realized hrealized]
  by_cases hnone : hasNone project = true
  · have hclear : settledEnsured now project (cloud.rolesOf project.id) =
        cleared project.status.conditions := if_pos hnone
    cases guarded with
    | true =>
        refine ⟨[.listRoles], hlist, ?_⟩
        show cloud.run (ensureGuarded now project project.status.conditions) = _
        unfold ensureGuarded
        rw [Program.bind_eq_bind, run_listRoles_bind h.calm]
        simp only [h.permits true]
        rw [if_pos hnone, hclear]
        rfl
    | false =>
        refine ⟨[], List.forall_mem_nil _, ?_⟩
        show cloud.run (ensureOpen now project project.status.conditions) = _
        unfold ensureOpen
        rw [if_pos hnone, hclear, List.append_nil]
        rfl
  · refine ⟨[.listRoles], hlist, ?_⟩
    rw [run_ensure_of_permits h.calm (h.permits guarded) (Bool.not_eq_true _ ▸ hnone),
      halign hnone]
    rfl

theorem isOk_settledEnsured (h : Converged project cloud) (now : Moment) :
    (settledEnsured now project (cloud.rolesOf project.id)).result.isOk = true := by
  unfold settledEnsured
  rcases h.settled with hnone | ⟨hrealized, _⟩
  · rw [if_pos hnone]
    rfl
  · by_cases hnone : hasNone project = true
    · rw [if_pos hnone]
      rfl
    · rw [if_neg hnone]
      exact isOk_aligned_iff.mpr (authorized_of_mem_matched hrealized)

/-- The conditions say already what the pass publishes, and the record is what the pass
records. -/
theorem after_settledEnsured (h : Converged project cloud) (now : Moment) :
    (Project.after now project (settledEnsured now project (cloud.rolesOf project.id))).resource =
      project.rested (cloud.rolesOf project.id) := by
  have hok := isOk_settledEnsured h now
  unfold Project.after
  simp only
  rw [if_pos hok, publish_ready hok, h.recorded]
  unfold rested
  by_cases hnone : hasNone project = true
  · have hready : (project.status.conditions.unset .cloudProviderIntegrationReady).Says .ready true
        none none := (Conditions.says_unset_of_ne_iff (by decide)).mpr h.ready
    have hcleared : settledEnsured now project (cloud.rolesOf project.id) =
        cleared project.status.conditions := if_pos hnone
    rw [if_pos (h.hasNone_iff_declared.mp hnone), hcleared]
    unfold cleared
    rw [Conditions.set_eq_self hready]
    rfl
  · have hsaid : project.status.conditions.Says .cloudProviderIntegrationReady true none
        (Conditions.shown (notice project)) := by
      rcases h.settled with hyes | ⟨_, hsays⟩
      · exact absurd hyes hnone
      · exact hsays
    have haligned : settledEnsured now project (cloud.rolesOf project.id) =
        aligned now project project.status.conditions
          (matched project.spec.declared (cloud.rolesOf project.id)) := if_neg hnone
    rw [haligned] at hok
    have hconditions : (aligned now project project.status.conditions
        (matched project.spec.declared (cloud.rolesOf project.id))).conditions =
        project.status.conditions := by
      rw [conditions_aligned hok]
      exact Conditions.set_eq_self hsaid
    rw [if_neg (mt h.hasNone_iff_declared.mpr hnone), haligned, hconditions,
      Conditions.set_eq_self h.ready]
    rfl

/-- A pass over a converged project is fine, only lists roles, and lets it rest. -/
theorem run_reconcile (h : Converged project cloud) (now : Moment) (guarded : Bool) :
    ∃ calls result, (∀ operation ∈ calls, changesRoles operation = false) ∧
      result.isOk = true ∧
      cloud.run (project.reconcile now guarded) =
        ({ resource := project.rested (cloud.rolesOf project.id), result },
          { cloud with log := cloud.log ++ calls }) := by
  obtain ⟨calls, hcalls, hrun⟩ := run_ensure h now guarded
  refine ⟨calls, (settledEnsured now project (cloud.rolesOf project.id)).result, hcalls,
    isOk_settledEnsured h now, ?_⟩
  have hactive : ¬project.metadata.isSkipped = true := by
    rw [h.active]
    decide
  unfold reconcile
  rw [if_neg hactive, if_neg h.identified, Program.bind_eq_bind, run_bind, hrun,
    ← after_settledEnsured h now]
  rfl

/-- The invariant is kept by the pass. -/
theorem Converged.reconcile (h : Converged project cloud) (now : Moment) (guarded : Bool) :
    Converged (cloud.run (project.reconcile now guarded)).1.resource
      (cloud.run (project.reconcile now guarded)).2 := by
  have hpass := execution_run (project.reconcile now guarded) cloud
  obtain ⟨calls, result, _, hok, hrun⟩ := run_reconcile h now guarded
  refine converged_of_isOk h.reachable h.active hpass ?_ ?_
  · rw [hrun]
    exact hok
  · rw [hrun]
    exact h.calm

/-! ## Pass after pass -/

/-- Some passes over a project, each over what the one before gave back, during which
nobody else touches the project or the cloud and no failure is ordered. -/
inductive Undisturbed (guarded : Bool) (project : Project) (cloud : MemoryCloud) :
    Nat → Project → MemoryCloud → Prop where
  | none : Undisturbed guarded project cloud 0 project cloud
  | next {count : Nat} {given : Project} {before : MemoryCloud} (now : Moment) :
      Undisturbed guarded project cloud count given before →
        Undisturbed guarded project cloud (count + 1)
          (before.run (given.reconcile now guarded)).1.resource
          (before.run (given.reconcile now guarded)).2

/-- How a pass goes over a project that nothing is to be done for: it is fine, and
creates, authorizes and removes nothing. -/
structure Quiet (guarded : Bool) (now : Moment) (project : Project) (cloud : MemoryCloud) :
    Prop where
  fine : (cloud.run (project.reconcile now guarded)).1.result.isOk = true
  calls : ∃ calls, (cloud.run (project.reconcile now guarded)).2.log = cloud.log ++ calls ∧
    ∀ operation ∈ calls, changesRoles operation = false

theorem Converged.quiet (h : Converged project cloud) (guarded : Bool) (now : Moment) :
    Quiet guarded now project cloud := by
  obtain ⟨calls, result, hcalls, hok, hrun⟩ := run_reconcile h now guarded
  refine ⟨?_, calls, ?_, hcalls⟩
  · rw [hrun]
    exact hok
  · rw [hrun]

/-- What one pass gave back, the next one gives back again. -/
theorem Converged.resource_eq (h : Converged project cloud) (now later : Moment)
    (guarded : Bool) {given : Reconciled Project} {before : MemoryCloud}
    (hgiven : cloud.run (project.reconcile now guarded) = (given, before)) :
    (before.run (given.resource.reconcile later guarded)).1.resource = given.resource := by
  obtain ⟨calls, result, _, _, hrun⟩ := run_reconcile h now guarded
  obtain ⟨rfl, rfl⟩ := Prod.mk.inj (hgiven.symm.trans hrun)
  have hkept := h.reconcile now guarded
  rw [hrun] at hkept
  obtain ⟨_, _, _, _, hagain⟩ := run_reconcile hkept later guarded
  have hid : (project.rested (cloud.rolesOf project.id)).id = project.id := by
    unfold rested
    split <;> rfl
  rw [hagain]
  -- The first pass has changed the log only, so the second one finds the same roles.
  calc (project.rested (cloud.rolesOf project.id)).rested
        (cloud.rolesOf (project.rested (cloud.rolesOf project.id)).id)
      = (project.rested (cloud.rolesOf project.id)).rested (cloud.rolesOf project.id) := by
        rw [hid]
    _ = project.rested (cloud.rolesOf project.id) := rested_rested project _

/-- A project that is left alone comes back as it is, without a call. -/
theorem run_reconcile_of_isSkipped (hskipped : project.metadata.isSkipped = true) (now : Moment)
    (guarded : Bool) (cloud : MemoryCloud) :
    cloud.run (project.reconcile now guarded) = (.skipped project, cloud) := by
  unfold reconcile
  rw [if_pos hskipped]
  rfl

theorem quiet_of_isSkipped (hskipped : project.metadata.isSkipped = true) (guarded : Bool)
    (now : Moment) : Quiet guarded now project cloud := by
  have hrun : cloud.run (project.reconcile now guarded) = (.skipped project, cloud) :=
    run_reconcile_of_isSkipped hskipped now guarded cloud
  refine ⟨?_, [], ?_, List.forall_mem_nil _⟩
  · rw [hrun]
    rfl
  · rw [hrun, List.append_nil]

theorem Undisturbed.converged {count : Nat} {given : Project} {before : MemoryCloud}
    (hlater : Undisturbed guarded project cloud count given before)
    (h : Converged project cloud) : Converged given before := by
  induction hlater with
  | none => exact h
  | next now _ ih => exact ih.reconcile now guarded

theorem Undisturbed.eq_of_isSkipped {count : Nat} {given : Project} {before : MemoryCloud}
    (hlater : Undisturbed guarded project cloud count given before)
    (hskipped : project.metadata.isSkipped = true) : given = project ∧ before = cloud := by
  induction hlater with
  | none => exact ⟨rfl, rfl⟩
  | next now _ ih =>
      obtain ⟨rfl, rfl⟩ := ih
      rw [run_reconcile_of_isSkipped hskipped]
      exact ⟨rfl, rfl⟩

/-- If a pass over a project is fine and leaves no ordered failure, then so is every later
pass that nobody disturbs; none of them creates, authorizes or removes a role, and from
the second one on they give the project back as it was. -/
theorem quiet_after_isOk (hreachable : cloud.Reachable)
    (hpass : cloud.Execution (project.reconcile now guarded) first after)
    (hok : first.result.isOk = true) (hcalm : after.failures = [])
    {count : Nat} {given : Project} {before : MemoryCloud}
    (hlater : Undisturbed guarded first.resource after count given before) (next : Moment) :
    Quiet guarded next given before ∧
      (0 < count → (before.run (given.reconcile next guarded)).1.resource = given) := by
  by_cases hactive : project.metadata.isSkipped = false
  · have hconverged : Converged first.resource after :=
      converged_of_isOk hreachable hactive hpass hok hcalm
    refine ⟨(hlater.converged hconverged).quiet guarded next, fun hcount => ?_⟩
    cases hlater with
    | none => exact absurd hcount (Nat.lt_irrefl 0)
    | next now hearlier => exact (hearlier.converged hconverged).resource_eq now next guarded rfl
  · have hskipped : project.metadata.isSkipped = true := Bool.not_eq_false _ ▸ hactive
    obtain ⟨exchanges, htrace, _⟩ := hpass
    rcases trace_reconcile htrace with ⟨_, _, rfl⟩ | ⟨hnot, _⟩ | ⟨hnot, _⟩
    · obtain ⟨rfl, rfl⟩ := hlater.eq_of_isSkipped hskipped
      refine ⟨quiet_of_isSkipped hskipped guarded next, fun _ => ?_⟩
      exact congrArg (fun ran => ran.1.resource)
        (run_reconcile_of_isSkipped hskipped next guarded before)
    · exact absurd hnot hactive
    · exact absurd hnot hactive

/-- After the pass over the mixed cloud, which links, claims and removes roles, the next one
has nothing to do, and the third gives the project back. -/
theorem quiet_after_mixed_pass :
    ∃ first after given before,
      mixedCloud.Execution (twoRoles.reconcile creationTime false) first after ∧
      first.result.isOk = true ∧ after.failures = [] ∧
      Undisturbed false first.resource after 1 given before ∧
      Quiet false authorizationTime given before ∧
      (before.run (given.reconcile authorizationTime false)).1.resource = given := by
  have hpass := execution_run (twoRoles.reconcile creationTime false) mixedCloud
  have hok : (mixedCloud.run (twoRoles.reconcile creationTime false)).1.result.isOk = true := by
    cbv
  have hcalm : (mixedCloud.run (twoRoles.reconcile creationTime false)).2.failures = [] := by
    cbv
  generalize mixedCloud.run (twoRoles.reconcile creationTime false) = ran at hpass hok hcalm
  have hnone : Undisturbed false ran.1.resource ran.2 0 ran.1.resource ran.2 := .none
  have hnext := hnone.next creationTime
  obtain ⟨hquiet, hsame⟩ := quiet_after_isOk reachable_mixedCloud hpass hok hcalm hnext
    authorizationTime
  exact ⟨_, _, _, _, hpass, hok, hcalm, hnext, hquiet, hsame (by decide)⟩

end CloudSteward.Project
