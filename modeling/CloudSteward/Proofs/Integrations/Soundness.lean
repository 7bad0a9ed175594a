import CloudSteward.Proofs.Integrations.Pass
import Mathlib

/-!
# What a pass that is fine has achieved

The result of a pass is computed from statuses, without looking at the roles again.
This module shows that it can be trusted: if a pass is fine and reports statuses,
the cloud has exactly the declared integrations.

The proof follows the roles and the declared integrations through the pass.  Each
status has reached its aim (`settled_of_execution`), so a declared integration has
its role (`exists_role_of_placement`).  A role that is there in the end was there
before or was authorized on the way, and a listed role that nobody declared was
claimed or removed (`exists_integration_of_mem_rolesOf`).
-/

namespace CloudSteward.Integrations

open Linking MemoryCloud

variable {cloud after : MemoryCloud} {now : Moment} {project : String}
  {desired : List Integration} {outputs : List Status}

/-- What a status says of a declared integration that is there. -/
structure Entry (after : MemoryCloud) (project : String) (integration : Integration)
    (status : Status) : Prop where
  provider_eq : status.provider = integration.provider
  arn_eq : status.arn = integration.arn
  authorized : status.phase = .authorized
  /-- The role id of the status names a role that carries the declared identifier. -/
  role : ∃ role ∈ after.rolesOf project, role.roleId = status.roleId ∧
    identifier role = identifier integration

/-- A cloud has what is declared for a project and nothing else, and the statuses say so. -/
structure Realized (after : MemoryCloud) (project : String) (desired : List Integration)
    (statuses : List Status) : Prop where
  usable : ∀ role ∈ after.rolesOf project, role.arn ≠ "" ∧ role.isAuthorized = true
  complete : ∀ integration ∈ desired, integration.arn ≠ ""
  same_identifiers : ∀ id, (∃ role ∈ after.rolesOf project, identifier role = id) ↔
    ∃ integration ∈ desired, identifier integration = id
  entries : List.Forall₂ (Entry after project) desired statuses

section Sync

variable (hnumbered : cloud.Numbered) (hregular : Regular (cloud.rolesOf project))
  (hrun : cloud.Execution (sync project desired (cloud.rolesOf project)) outputs after)
  (hphases : ∀ output ∈ outputs, output.phase = .authorized)

include hnumbered hregular hrun hphases

theorem settled_of_sync : ∀ status ∈ statuses desired (cloud.rolesOf project),
    Settled after project status :=
  settled_of_execution hrun hnumbered hphases (nodup_acting_roleIds hregular)

/-- A placed integration has its role in the end. -/
theorem exists_role_of_placement {integration : Integration} (hdesired : integration ∈ desired)
    {status : Status} (hstatus : status ∈ placed desired (cloud.rolesOf project))
    (hplacement : Placement (cloud.rolesOf project) integration status) :
    integration.arn ≠ "" ∧ ∃ role ∈ after.rolesOf project, role.roleId = status.roleId ∧
      identifier role = identifier integration := by
  have hsettled := settled_of_sync hnumbered hregular hrun hphases status
    (mem_statuses_of_mem_placed hstatus)
  cases hplacement with
  | @exact role hrole hid hmatch =>
      -- Nobody acts on the role, so it is still there.
      have hvisible : role.arn ≠ "" := Role.identifier_ne_empty_iff.mp (hmatch ▸ hid)
      have hkept : role ∈ after.rolesOf project :=
        mem_of_execution hrun hrole
          (acting_roleId_ne hregular hrole hvisible ⟨integration, hdesired, hmatch.symm⟩)
      exact ⟨Integration.identifier_ne_empty_iff.mp hid, role, hkept, rfl, hmatch⟩
  | @claimed role hrole hfree _ =>
      have hunauthorized : role.isAuthorized ≠ true :=
        fun hauthorized => (hregular.dated role hrole).mp hauthorized hfree
      by_cases harn : integration.arn = ""
      · -- Without an `arn` the status rests, but it is not authorized.
        have hmove : move ((declare integration).linked role) = .rest := by
          rw [move_linked, if_pos (.inr harn)]
        rw [Settled, hmove] at hsettled
        simp [Status.linked, hunauthorized] at hsettled
      · have hmove : move ((declare integration).linked role) = .authorize := by
          rw [move_linked, if_neg]
          exact not_or.mpr ⟨hunauthorized, harn⟩
        rw [Settled, hmove] at hsettled
        obtain ⟨granted, hgranted, hid, hprovider, hsame⟩ := hsettled
        refine ⟨harn, granted, hgranted, hid, ?_⟩
        rw [Role.identifier_eq, hprovider, hsame]
        rfl
  | fresh => exact absurd rfl hsettled.move_ne_create

/-- A role that is there in the end carries a declared identifier. -/
theorem exists_integration_of_mem_rolesOf {role : Role} (hrole : role ∈ after.rolesOf project) :
    role.arn ≠ "" ∧ ∃ integration ∈ desired, identifier integration = identifier role := by
  have hsettled := settled_of_sync hnumbered hregular hrun hphases
  have hafter : after.Numbered := hnumbered.execution hrun
  rcases mem_before_or_of_execution hrun hrole with
    hbefore | ⟨⟨status, hstatus, hcreate⟩, _⟩ | ⟨status, hstatus, hmove, hprovider, harn⟩
  · rcases cases_of_mem_remote hregular.named hbefore with
      ⟨hvisible, hdeclared⟩ | ⟨hfree, integration, hintegration, hclaimed⟩ | hsurplus
    · exact ⟨hvisible, hdeclared⟩
    · -- The role was claimed, so by now it has an `arn`.
      obtain ⟨other, hother, hplacement⟩ :=
        exists_left_of_forall₂ (forall₂_placement hregular.named) hclaimed
      obtain ⟨hnamed, granted, hgranted, hid, hmatch⟩ :=
        exists_role_of_placement hnumbered hregular hrun hphases hother hclaimed hplacement
      obtain rfl : granted = role := hafter.role_eq hgranted hrole hid
      have hvisible : identifier granted ≠ "" :=
        hmatch ▸ Integration.identifier_ne_empty_iff.mpr hnamed
      exact absurd hfree (Role.identifier_ne_empty_iff.mp hvisible)
    · have hgone := hsettled _ (removal_mem_statuses hsurplus)
      rw [Settled, move_removal] at hgone
      exact absurd rfl (hgone role hrole)
  · exact absurd hcreate (hsettled status hstatus).move_ne_create
  · rcases mem_statuses_cases hstatus with hplaced | ⟨other, _, rfl⟩
    · obtain ⟨integration, hintegration, hplacement⟩ :=
        exists_left_of_forall₂ (forall₂_placement hregular.named) hplaced
      refine ⟨harn ▸ arn_ne_of_move hmove, integration, hintegration, ?_⟩
      rw [Role.identifier_eq, hprovider, harn, hplacement.provider_eq, hplacement.arn_eq]
      rfl
    · simp at hmove

/-- What is left of the statuses has one entry for each declared integration. -/
theorem forall₂_entry : List.Forall₂ (Entry after project) desired outputs := by
  have hcontinues := forall₂_continues_of_execution hrun hphases
  rw [filter_statuses] at hcontinues
  have hmembers : List.Forall₂ (fun status output =>
      status ∈ placed desired (cloud.rolesOf project) ∧ Continues status output)
      (placed desired (cloud.rolesOf project)) outputs :=
    (List.forall₂_and_left _ _).mpr ⟨fun _ hstatus => hstatus, hcontinues⟩
  have hplacements : List.Forall₂ (fun integration status =>
      integration ∈ desired ∧ Placement (cloud.rolesOf project) integration status)
      desired (placed desired (cloud.rolesOf project)) :=
    (List.forall₂_and_left _ _).mpr
      ⟨fun _ hintegration => hintegration, forall₂_placement hregular.named⟩
  refine forall₂_trans ?_ hplacements hmembers
  rintro integration status output ⟨hintegration, hplacement⟩ ⟨hstatus, hoes⟩
  obtain ⟨_, role, hrole, hid, hmatch⟩ :=
    exists_role_of_placement hnumbered hregular hrun hphases hintegration hstatus hplacement
  exact ⟨hoes.provider_eq.trans hplacement.provider_eq, hoes.arn_eq.trans hplacement.arn_eq,
    hoes.phase_eq, role, hrole, hid.trans hoes.roleId_eq.symm, hmatch⟩

/-- A run that ends with authorized statuses only has brought the cloud in line. -/
theorem realized_of_sync (hdated : after.Dated) : Realized after project desired outputs where
  usable role hrole := by
    have hvisible :=
      (exists_integration_of_mem_rolesOf hnumbered hregular hrun hphases hrole).1
    exact ⟨hvisible, (hdated.isAuthorized_iff hrole).mpr hvisible⟩
  complete integration hintegration := by
    obtain ⟨status, hstatus, hplacement⟩ :=
      exists_right_of_forall₂ (forall₂_placement hregular.named) hintegration
    exact (exists_role_of_placement hnumbered hregular hrun hphases hintegration hstatus
      hplacement).1
  same_identifiers id := by
    constructor
    · rintro ⟨role, hrole, rfl⟩
      exact (exists_integration_of_mem_rolesOf hnumbered hregular hrun hphases hrole).2
    · rintro ⟨integration, hintegration, rfl⟩
      obtain ⟨status, hstatus, hplacement⟩ :=
        exists_right_of_forall₂ (forall₂_placement hregular.named) hintegration
      obtain ⟨_, role, hrole, _, hmatch⟩ := exists_role_of_placement hnumbered hregular hrun
        hphases hintegration hstatus hplacement
      exact ⟨role, hrole, hmatch⟩
  entries := forall₂_entry hnumbered hregular hrun hphases

end Sync

section Ensure

variable {project : Project} {guarded : Bool} {conditions : Conditions} {ensured : Ensured}

/-- A pass that is fine had nothing to do, or it has brought the cloud in line. -/
theorem cases_of_isOk (hreachable : cloud.Reachable)
    (hpass : cloud.Execution (ensure now project guarded conditions) ensured after)
    (hok : ensured.result.isOk = true) :
    (hasNone project = true ∧ cloud.SameRoles after ∧ ensured = cleared conditions) ∨
      (hasNone project = false ∧ ∃ outputs,
        ensured = aligned now project conditions outputs ∧
        Realized after project.id project.spec.declared outputs) := by
  rcases ensure_cases hpass with
    ⟨hsame, ⟨hnone, rfl⟩ | ⟨result, hfails, rfl⟩⟩ | ⟨middle, outputs, hsame, _, hsome, hrun, rfl⟩
  · exact .inl ⟨hnone, hsame, rfl⟩
  · exact absurd (hok.symm.trans hfails) (by decide)
  · have hphases : ∀ output ∈ outputs, output.phase = .authorized :=
      fun output houtput => (isOk_aligned_iff.mp hok output houtput).2
    have hroles := hsame.rolesOf_eq project.id
    rw [← hroles] at hrun
    refine .inr ⟨hsome, outputs, rfl, ?_⟩
    exact realized_of_sync (hreachable.numbered.of_sameRoles hsame)
      (hroles ▸ hreachable.regular project.id) hrun hphases (hreachable.dated.ensure hpass)

/-- If a pass over a reachable cloud is fine and reports statuses, the cloud has what
the project declares and nothing else, the statuses say so in the declared order,
and the roles of other projects are as before. -/
theorem realized_of_ensure_isOk {reported : List Status} (hreachable : cloud.Reachable)
    (hpass : cloud.Execution (ensure now project guarded conditions) ensured after)
    (hok : ensured.result.isOk = true) (hreported : ensured.statuses = some reported) :
    Realized after project.id project.spec.declared reported ∧
      ∀ other ≠ project.id, after.rolesOf other = cloud.rolesOf other := by
  refine ⟨?_, fun other hother => rolesOf_eq_of_ensure hpass hother⟩
  rcases cases_of_isOk hreachable hpass hok with ⟨_, _, rfl⟩ | ⟨_, outputs, rfl, hrealized⟩
  · cases hreported
  · obtain rfl : outputs = reported := Option.some.inj hreported
    exact hrealized

end Ensure

/-- A project that declares two roles of one provider. -/
def twoRoles : Project where
  metadata := .new "two-roles"
  spec := {
    name := "two-roles"
    accessRoles := []
    integrations := [⟨"AWS", "arn:1"⟩, ⟨"AWS", "arn:2"⟩] }
  status := { id := "p", conditions := .empty, integrations := [] }

/-- A cloud in which the second of these roles is there, another one can be claimed,
and one of another provider is left over. -/
def mixedCloud : MemoryCloud :=
  ((MemoryCloud.empty.addRole "p" "GCP" "old").addRole "p" "AWS" "arn:2").addRole "p" "AWS" ""

theorem reachable_mixedCloud : mixedCloud.Reachable :=
  .addRole "p" "AWS" "" (.addRole "p" "AWS" "arn:2" (.addRole "p" "GCP" "old" .empty))

/-- The pass over the mixed cloud is fine, so it has linked, claimed and removed. -/
theorem realized_after_mixed_pass :
    ∃ ensured after reported,
      mixedCloud.Execution (ensure creationTime twoRoles false .empty) ensured after ∧
      ensured.result.isOk = true ∧ ensured.statuses = some reported ∧
      Realized after "p" twoRoles.spec.declared reported ∧
      ∀ other ≠ "p", after.rolesOf other = mixedCloud.rolesOf other := by
  have hpass := execution_run (ensure creationTime twoRoles false .empty) mixedCloud
  have hok : (mixedCloud.run (ensure creationTime twoRoles false .empty)).1.result.isOk = true := by
    cbv
  have hsome :
      (mixedCloud.run (ensure creationTime twoRoles false .empty)).1.statuses.isSome = true := by
    cbv
  obtain ⟨reported, hreported⟩ := Option.isSome_iff_exists.mp hsome
  obtain ⟨hrealized, hothers⟩ :=
    realized_of_ensure_isOk reachable_mixedCloud hpass hok hreported
  exact ⟨_, _, reported, hpass, hok, hreported, hrealized, hothers⟩

end CloudSteward.Integrations
