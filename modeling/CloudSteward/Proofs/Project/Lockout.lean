import CloudSteward.Proofs.Ownership
import CloudSteward.Proofs.Project.Pass

/-!
# When protection locks the operator out

The record of what was applied is written only after a pass that is fine.  A
protected pass that was permitted and failed half way may therefore have made roles
visible that no record knows, and the next pass may be refused because of them:
`permitted_then_refused` is such a run.

`refused_iff_lockedOut` says exactly when this happens.  Two states are kept by all
passes: either every declared integration has its role (`Covered`), and then nothing
is ever refused, or the record is still that of the start and every visible role is
on record or declared (`Familiar`).
-/

namespace CloudSteward.Project

open Integrations Linking MemoryCloud Ownership

/-! ## What passes keep -/

/-- Every declared integration has a role with its identifier. -/
def Covered (cloud : MemoryCloud) (project : String) (desired : List Integration) : Prop :=
  ∀ integration ∈ desired, integration.arn ≠ "" ∧
    ∃ role ∈ cloud.rolesOf project, identifier role = identifier integration

/-- Every visible role has the identifier of a known integration. -/
def Familiar (cloud : MemoryCloud) (project : String) (known : List Integration) : Prop :=
  ∀ role ∈ cloud.rolesOf project, role.arn ≠ "" →
    ∃ integration ∈ known, identifier integration = identifier role

section Ensure

variable {cloud after : MemoryCloud} {now : Moment} {project : Project} {guarded : Bool}
  {conditions : Conditions} {ensured : Ensured} {known : List Integration}

/-- A covered project stays covered, as nobody acts on declared roles. -/
theorem Covered.ensure (h : Covered cloud project.id project.spec.declared)
    (hreachable : cloud.Reachable)
    (hpass : cloud.Execution (ensure now project guarded conditions) ensured after) :
    Covered after project.id project.spec.declared := by
  intro integration hintegration
  obtain ⟨harn, role, hrole, hmatch⟩ := h integration hintegration
  refine ⟨harn, role, ?_, hmatch⟩
  rcases ensure_cases hpass with ⟨hsame, _⟩ | ⟨middle, outputs, hsame, _, _, hrun, _⟩
  · rw [hsame.rolesOf_eq]
    exact hrole
  · have hvisible : role.arn ≠ "" := by
      rw [← Role.identifier_ne_empty_iff, hmatch]
      exact Integration.identifier_ne_empty_iff.mpr harn
    refine mem_of_execution hrun (hsame.rolesOf_eq project.id ▸ hrole) ?_
    exact acting_roleId_ne (hreachable.regular project.id) hrole hvisible
      ⟨integration, hintegration, hmatch.symm⟩

/-- After a pass that is fine the project is covered. -/
theorem covered_of_isOk (hreachable : cloud.Reachable)
    (hpass : cloud.Execution (Integrations.ensure now project guarded conditions) ensured after)
    (hok : ensured.result.isOk = true) : Covered after project.id project.spec.declared := by
  rcases cases_of_isOk hreachable hpass hok with ⟨hnone, _, _⟩ | ⟨_, outputs, _, hrealized⟩
  · have hempty : project.spec.declared = [] := by
      unfold hasNone at hnone
      exact List.isEmpty_iff.mp (Bool.and_eq_true_iff.mp hnone).1
    rw [hempty]
    exact fun _ hintegration => absurd hintegration List.not_mem_nil
  · intro integration hintegration
    exact ⟨hrealized.complete integration hintegration,
      (hrealized.same_identifiers _).mpr ⟨integration, hintegration, rfl⟩⟩

/-- A pass makes only declared roles visible. -/
theorem Familiar.ensure (h : Familiar cloud project.id known) (hreachable : cloud.Reachable)
    (hdeclared : ∀ integration ∈ project.spec.declared, integration ∈ known)
    (hpass : cloud.Execution (Integrations.ensure now project guarded conditions) ensured after) :
    Familiar after project.id known := by
  intro role hrole hvisible
  rcases ensure_cases hpass with ⟨hsame, _⟩ | ⟨middle, outputs, hsame, _, _, hrun, _⟩
  · rw [hsame.rolesOf_eq] at hrole
    exact h role hrole hvisible
  · rcases mem_before_or_of_execution hrun hrole with
      hbefore | ⟨_, harn⟩ | ⟨status, hstatus, hmove, hprovider, harn⟩
    · rw [hsame.rolesOf_eq] at hbefore
      exact h role hbefore hvisible
    · exact absurd harn hvisible
    · rcases mem_statuses_cases hstatus with hplaced | ⟨other, _, rfl⟩
      · obtain ⟨integration, hintegration, hplacement⟩ :=
          exists_left_of_forall₂ (forall₂_placement (hreachable.regular project.id).named) hplaced
        refine ⟨integration, hdeclared integration hintegration, ?_⟩
        rw [Role.identifier_eq, hprovider, harn, hplacement.provider_eq, hplacement.arn_eq]
        rfl
      · simp at hmove

end Ensure

/-! ## Refusals -/

/-- The integrations that the record of a project stands for, if it can be read. -/
def lastApplied (project : Project) : List Integration :=
  match project.metadata.applied ProjectSpec.codec with
  | .ok snapshot => recorded snapshot
  | .error _ => []

/-- What locks a project out: seen from the cloud at the start, some declared roles
have become visible that are not on record, while others are still missing. -/
structure LockedOut (project : Project) (start current : MemoryCloud) : Prop where
  ahead : ∃ role ∈ current.rolesOf project.id, role.arn ≠ "" ∧
    (∃ integration ∈ project.spec.declared, identifier integration = identifier role) ∧
    (∀ integration ∈ project.lastApplied, identifier integration ≠ identifier role) ∧
    ∀ old ∈ start.rolesOf project.id, identifier old ≠ identifier role
  behind : ∃ integration ∈ project.spec.declared, integration.arn = "" ∨
    ∀ role ∈ current.rolesOf project.id, identifier role ≠ identifier integration

theorem not_covered_iff {cloud : MemoryCloud} {project : String} {desired : List Integration} :
    ¬Covered cloud project desired ↔ ∃ integration ∈ desired, integration.arn = "" ∨
      ∀ role ∈ cloud.rolesOf project, identifier role ≠ identifier integration := by
  unfold Covered
  push Not
  refine exists_congr fun integration => and_congr_right fun _ => ?_
  rw [or_iff_not_imp_left]

/-- What is true of a project and a cloud after some passes, if the first of them was
permitted: the project is covered, or its record is the old one and says nothing of
roles that became visible since. -/
def Progressed (project : Project) (start : MemoryCloud) (later : Project)
    (current : MemoryCloud) : Prop :=
  Covered current project.id project.spec.declared ∨
    (later.metadata = project.metadata ∧
      Familiar start project.id project.lastApplied ∧
      Familiar current project.id (project.lastApplied ++ project.spec.declared))

section Passes

variable {cloud before after : MemoryCloud} {now : Moment} {project later : Project}
  {exchanges : List Exchange} {reconciled : Reconciled Project} {known current : List Integration}

/-- Without visible roles every role is familiar, so two cases remain of the three. -/
theorem owned_iff {id : String} :
    Owned known current (cloud.rolesOf id) ↔
      Familiar cloud id known ∨ Covered cloud id current := by
  constructor
  · rintro (hnone | hknown | hpresent)
    · exact .inl fun role hrole hvisible => absurd (hnone role hrole) hvisible
    · exact .inl hknown
    · refine .inr fun integration hintegration => ?_
      obtain ⟨harn, role, hrole, _, hmatch⟩ := hpresent integration hintegration
      exact ⟨harn, role, hrole, hmatch⟩
  · rintro (hknown | hcovered)
    · exact .inr (.inl hknown)
    · refine .inr (.inr fun integration hintegration => ?_)
      obtain ⟨harn, role, hrole, hmatch⟩ := hcovered integration hintegration
      have hid : identifier role ≠ "" := hmatch ▸ Integration.identifier_ne_empty_iff.mpr harn
      exact ⟨harn, role, hrole, Role.identifier_ne_empty_iff.mp hid, hmatch⟩

theorem Familiar.append_left {id : String} (h : Familiar cloud id known) :
    Familiar cloud id (known ++ current) := by
  intro role hrole hvisible
  obtain ⟨integration, hmem, hmatch⟩ := h role hrole hvisible
  exact ⟨integration, List.mem_append_left _ hmem, hmatch⟩

theorem lastApplied_eq {snapshot : Option ProjectSpec}
    (h : project.metadata.applied ProjectSpec.codec = .ok snapshot) :
    project.lastApplied = recorded snapshot := by
  unfold lastApplied
  rw [h]

/-- A permitted pass starts from a project that has progressed. -/
theorem progressed_of_permits
    (hpermitted : permitsProject true project (cloud.rolesOf project.id) = .ok true) :
    Progressed project cloud project cloud := by
  obtain ⟨snapshot, happlied, howned⟩ := permitsProject_eq_ok_iff.mp hpermitted
  rcases owned_iff.mp (howned.mp rfl) with hfamiliar | hcovered
  · rw [← lastApplied_eq happlied] at hfamiliar
    exact .inr ⟨rfl, hfamiliar, hfamiliar.append_left⟩
  · exact .inl hcovered

theorem Progressed.of_sameRoles {next : Project} (h : Progressed project cloud later before)
    (hsame : before.SameRoles after) (hmetadata : next.metadata = later.metadata) :
    Progressed project cloud next after := by
  unfold Progressed Covered Familiar at *
  rw [hsame.rolesOf_eq project.id, hmetadata]
  exact h

/-- Every protected pass keeps what was reached. -/
theorem Progressed.reconcile (h : Progressed project cloud later before)
    (hspec : later.spec = project.spec) (hid : later.id = project.id)
    (hreachable : before.Reachable)
    (hpass : before.Execution (later.reconcile now true) reconciled after) :
    Progressed project cloud reconciled.resource after := by
  obtain ⟨exchanges, htrace, hanswers⟩ := hpass
  rcases trace_reconcile htrace with
    ⟨_, rfl, rfl⟩ | ⟨_, _, rfl, rfl⟩ | ⟨_, _, ensured, hensure, rfl⟩
  · exact h.of_sameRoles hanswers.sameRoles rfl
  · exact h.of_sameRoles hanswers.sameRoles rfl
  · have hpass : before.Execution (ensure now later true later.status.conditions) ensured after :=
      ⟨exchanges, hensure, hanswers⟩
    unfold Progressed at h ⊢
    rw [← hspec, ← hid] at h ⊢
    rcases h with hcovered | ⟨hmetadata, hstart, hfamiliar⟩
    · exact .inl (hcovered.ensure hreachable hpass)
    · by_cases hok : ensured.result.isOk = true
      · exact .inl (covered_of_isOk hreachable hpass hok)
      · -- A pass that is not fine leaves the record as it is.
        refine .inr ⟨?_, hstart, ?_⟩
        · rw [← hmetadata]
          exact if_neg hok
        · exact hfamiliar.ensure hreachable (fun _ => List.mem_append_right _) hpass

theorem progressed_of_passes (hreachable : cloud.Reachable)
    (hpermitted : permitsProject true project (cloud.rolesOf project.id) = .ok true)
    (hpasses : project.Passes true cloud later before) :
    later.spec = project.spec ∧ later.id = project.id ∧
      Progressed project cloud later before := by
  induction hpasses with
  | none => exact ⟨rfl, rfl, progressed_of_permits hpermitted⟩
  | @next now earlier middle after reconciled hearlier hpass ih =>
      obtain ⟨hspec, hid, hprogressed⟩ := ih
      obtain ⟨exchanges, htrace, hanswers⟩ := hpass
      obtain ⟨hspec_next, hid_next⟩ := spec_eq_of_reconcile htrace
      exact ⟨hspec_next.trans hspec, hid_next.trans hid, hprogressed.reconcile hspec hid
        (hreachable.passes hearlier) ⟨exchanges, htrace, hanswers⟩⟩

/-- A project is locked out if its roles are not owned and the record is the old one. -/
theorem Progressed.lockedOut_iff (h : Progressed project cloud later before) :
    LockedOut project cloud before ↔ later.metadata = project.metadata ∧
      ¬Owned project.lastApplied project.spec.declared (before.rolesOf project.id) := by
  rw [owned_iff, not_or, not_covered_iff]
  constructor
  · rintro ⟨⟨role, hrole, hvisible, _, hunknown, _⟩, hbehind⟩
    rcases h with hcovered | ⟨hmetadata, _, _⟩
    · exact absurd hcovered (not_covered_iff.mpr hbehind)
    · refine ⟨hmetadata, fun hfamiliar => ?_, hbehind⟩
      obtain ⟨integration, hintegration, hmatch⟩ := hfamiliar role hrole hvisible
      exact hunknown integration hintegration hmatch
  · rintro ⟨_, hnot, hbehind⟩
    rcases h with hcovered | ⟨_, hstart, hfamiliar⟩
    · exact absurd hcovered (not_covered_iff.mpr hbehind)
    · refine ⟨?_, hbehind⟩
      unfold Familiar at hnot
      push Not at hnot
      obtain ⟨role, hrole, hvisible, hunknown⟩ := hnot
      refine ⟨role, hrole, hvisible, ?_, hunknown, ?_⟩
      · obtain ⟨integration, hintegration, hmatch⟩ := hfamiliar role hrole hvisible
        rcases List.mem_append.mp hintegration with hrecorded | hdeclared
        · exact absurd hmatch (hunknown integration hrecorded)
        · exact ⟨integration, hdeclared, hmatch⟩
      · -- A role that was visible at the start is on record.
        intro old hold hsame
        have hid : identifier old ≠ "" := hsame ▸ Role.identifier_ne_empty_iff.mpr hvisible
        obtain ⟨integration, hintegration, hmatch⟩ :=
          hstart old hold (Role.identifier_ne_empty_iff.mp hid)
        exact hunknown integration hintegration (hmatch.trans hsame)

theorem reason_aligned_ne {conditions : Conditions} (statuses : List Status) :
    (aligned now later conditions statuses).result.reason ≠ some .deletionProtection := by
  rw [reason_aligned]
  cases Progress.ofStatuses statuses <;> decide

/-- Protection denies a pass over a project that has progressed exactly if the project is
locked out. -/
theorem Progressed.denied_iff (h : Progressed project cloud later before)
    (hspec : later.spec = project.spec) (hid : later.id = project.id) {permitted : Bool}
    (hpermits : permitsProject true later (before.rolesOf later.id) = .ok permitted) :
    permitted = false ↔ LockedOut project cloud before := by
  obtain ⟨snapshot, happlied, howned⟩ := permitsProject_eq_ok_iff.mp hpermits
  -- With the old record, the pass decides as the record of the start says.
  have hdecides (hmetadata : later.metadata = project.metadata) :
      permitted = true ↔
        Owned project.lastApplied later.spec.declared (before.rolesOf later.id) := by
    rw [hmetadata] at happlied
    rwa [lastApplied_eq happlied]
  rw [h.lockedOut_iff, ← hid, ← hspec]
  constructor
  · rintro rfl
    rcases h with hcovered | ⟨hmetadata, _, _⟩
    · rw [← hid, ← hspec] at hcovered
      exact absurd (howned.mpr (owned_iff.mpr (.inr hcovered))) Bool.false_ne_true
    · exact ⟨hmetadata, mt (hdecides hmetadata).mpr Bool.false_ne_true⟩
  · rintro ⟨hmetadata, hnot⟩
    exact Bool.eq_false_iff.mpr (mt (hdecides hmetadata).mp hnot)

/-- A pass over a project that has progressed is refused if and only if the roles were
listed and the project is locked out. -/
theorem Progressed.refused_iff (h : Progressed project cloud later before)
    (hspec : later.spec = project.spec) (hid : later.id = project.id)
    {snapshot : Option ProjectSpec}
    (hreadable : project.metadata.applied ProjectSpec.codec = .ok snapshot)
    {ensured : Ensured} {conditions : Conditions}
    (htrace : (ensure now later true conditions).Trace exchanges ensured)
    (hanswers : before.Answers exchanges after) :
    ensured.result.reason = some .deletionProtection ↔
      (∃ remote, (⟨.listRoles project.id, .ok remote⟩ : Exchange) ∈ exchanges) ∧
        LockedOut project cloud before := by
  have hpermitted (hpermits : permitsProject true later (before.rolesOf later.id) = .ok true) :
      ¬LockedOut project cloud before :=
    fun hlocked => Bool.false_ne_true ((h.denied_iff hspec hid hpermits).mpr hlocked).symm
  rw [← hid]
  cases trace_ensure htrace with
  | idle hopen => cases hopen
  | unread error =>
      have hreason : (stopped now conditions (unread true error)).result.reason =
        some .internal := rfl
      simp [hreason]
  | undecided remote error hpermits =>
      have hreason : (stopped now conditions (undecided error)).result.reason =
        some .internal := rfl
      refine iff_of_false (by simp [hreason]) ?_
      rintro ⟨_, hlocked⟩
      -- A record that can be read was replaced by one that cannot.
      unfold permitsProject at hpermits
      rw [(h.lockedOut_iff.mp hlocked).1, hreadable] at hpermits
      cases hpermits
  | refused remote hpermits =>
      obtain ⟨rfl, _⟩ := hanswers.cons_listed
      exact iff_of_true rfl ⟨⟨_, List.mem_cons_self⟩, (h.denied_iff hspec hid hpermits).mp rfl⟩
  | cleared remote hpermits hnone =>
      obtain ⟨rfl, _⟩ := hanswers.cons_listed
      refine iff_of_false (by simp [cleared, PassResult.ok, PassResult.reason]) ?_
      exact fun hlocked => hpermitted hpermits hlocked.2
  | @aligned remote rest statuses hpermits hnone hsync =>
      obtain ⟨rfl, _⟩ := hanswers.cons_listed
      refine iff_of_false (reason_aligned_ne statuses) ?_
      exact fun hlocked => hpermitted hpermits hlocked.2

/-- If a protected pass was once permitted and nobody else changes the project or its
roles, a later protected pass is refused exactly if it gets the roles listed and the
project is locked out by its own progress. -/
theorem refused_iff_lockedOut (hreachable : cloud.Reachable)
    (hpermitted : permitsProject true project (cloud.rolesOf project.id) = .ok true)
    (hpasses : project.Passes true cloud later before)
    (htrace : (later.reconcile now true).Trace exchanges reconciled)
    (hanswers : before.Answers exchanges after) :
    reconciled.result.reason = some .deletionProtection ↔
      (∃ remote, (⟨.listRoles project.id, .ok remote⟩ : Exchange) ∈ exchanges) ∧
        LockedOut project cloud before := by
  obtain ⟨hspec, hid, hprogressed⟩ := progressed_of_passes hreachable hpermitted hpasses
  obtain ⟨snapshot, hreadable, _⟩ := permitsProject_eq_ok_iff.mp hpermitted
  rcases trace_reconcile htrace with
    ⟨_, rfl, rfl⟩ | ⟨_, _, rfl, rfl⟩ | ⟨_, _, ensured, hensure, rfl⟩
  · simp [Reconciled.skipped, PassResult.ok, PassResult.reason]
  · simp [strayed, unidentified, PassResult.withoutRetry, PassResult.terminate, PassResult.reason]
  · exact hprogressed.refused_iff hspec hid hreadable hensure hanswers

end Passes

/-! ### Locked out by waiting -/

/-- A project of which one role is known to the user already, and one is not. -/
def halfKnown : Project where
  metadata := .new "half-known"
  spec := {
    name := "half-known"
    accessRoles := []
    integrations := [⟨"AWS", "arn:1"⟩, ⟨"AWS", ""⟩] }
  status := { id := "p", conditions := .empty, integrations := [] }

/-- A cloud with one role that waits to be authorized. -/
def waitingCloud : MemoryCloud :=
  MemoryCloud.empty.addRole "p" "AWS" ""

theorem reachable_waitingCloud : waitingCloud.Reachable :=
  .addRole "p" "AWS" "" .empty

theorem permits_waitingCloud :
    permitsProject true halfKnown (waitingCloud.rolesOf halfKnown.id) = .ok true := by
  cbv

/-- A permitted pass gets half way and asks to be tried again, and then protection
refuses to, for good, although nobody else touched the cloud and no call failed. -/
theorem permitted_then_refused :
    waitingCloud.Reachable ∧
    permitsProject true halfKnown (waitingCloud.rolesOf halfKnown.id) = .ok true ∧
    ∃ first between second after,
      waitingCloud.Execution (halfKnown.reconcile creationTime true) first between ∧
      first.result.reason = some .cloudIntegrationsNotReady ∧ first.result.retryable = true ∧
      between.Execution (first.resource.reconcile creationTime true) second after ∧
      second.result.reason = some .deletionProtection ∧ second.result.retryable = false := by
  refine ⟨reachable_waitingCloud, permits_waitingCloud, _, _, _, _, execution_run _ _, ?_, ?_,
    execution_run _ _, ?_, ?_⟩
  · cbv
  · cbv
  · cbv
  · cbv

/-- In this run the first role is ahead, and the second one is behind. -/
theorem lockedOut_halfKnown :
    ∃ first between second after exchanges,
      waitingCloud.Execution (halfKnown.reconcile creationTime true) first between ∧
      (first.resource.reconcile creationTime true).Trace exchanges second ∧
      between.Answers exchanges after ∧ LockedOut halfKnown waitingCloud between := by
  have hfirst := execution_run (halfKnown.reconcile creationTime true) waitingCloud
  generalize hrun : waitingCloud.run (halfKnown.reconcile creationTime true) = ran at hfirst
  have hreason :
      (ran.2.run (ran.1.resource.reconcile creationTime true)).1.result.reason =
        some .deletionProtection := by
    rw [← hrun]
    cbv
  obtain ⟨exchanges, htrace, hanswers⟩ :=
    execution_run (ran.1.resource.reconcile creationTime true) ran.2
  have hpasses : halfKnown.Passes true waitingCloud ran.1.resource ran.2 := .next .none hfirst
  have hlocked := (refused_iff_lockedOut reachable_waitingCloud permits_waitingCloud hpasses htrace
    hanswers).mp hreason
  exact ⟨_, _, _, _, exchanges, hfirst, htrace, hanswers, hlocked.2⟩

end CloudSteward.Project
