import CloudSteward.Proofs.Integrations.Soundness
import CloudSteward.Proofs.Ownership

/-!
# A pass with nothing left to do

Once the cloud has what is declared and nothing else, linking starts from scratch and
still finds every declared integration by its identifier: nobody has a role to claim,
and no role is left over (`statuses_of_realized`).  The linked roles are authorized, so
no status makes a move, and the pass makes no call but the listing
(`align_of_realized`).  It publishes the same as every other pass that is fine
(`conditions_aligned`).
-/

namespace CloudSteward.Integrations

open Linking MemoryCloud

/-! ## Linking from scratch -/

section Realized

variable {cloud : MemoryCloud} {project : String} {desired : List Integration}
  {reported : List Status}

theorem claim_nil (statuses : List Status) : claim statuses [] = (statuses, []) := by
  cases statuses <;> rfl

/-- Where the cloud has what is declared, every declared integration is linked to a
role that is authorized. -/
theorem linkExact_of_realized (h : Realized cloud project desired reported)
    {integration : Integration} (hdesired : integration ∈ desired) :
    ∃ role ∈ cloud.rolesOf project, role.isAuthorized = true ∧
      linkExact (sortRoles (cloud.rolesOf project)) (declare integration) =
        (declare integration).linked role := by
  rcases linkExact_cases (sortRoles (cloud.rolesOf project)) integration with
    ⟨_, role, hmem, _, heq⟩ | ⟨hempty | hunknown, _⟩
  · have hrole : role ∈ cloud.rolesOf project := mem_sortRoles_iff.mp hmem
    exact ⟨role, hrole, (h.usable role hrole).2, heq⟩
  · exact absurd hempty (Integration.identifier_ne_empty_iff.mpr (h.complete integration hdesired))
  · obtain ⟨role, hrole, hmatch⟩ :=
      (h.same_identifiers (identifier integration)).mpr ⟨integration, hdesired, rfl⟩
    exact absurd hmatch (hunknown role (mem_sortRoles_iff.mpr hrole))

theorem authorized_of_mem_matched (h : Realized cloud project desired reported) :
    ∀ status ∈ matched desired (cloud.rolesOf project),
      status.error = "" ∧ status.phase = .authorized := by
  intro status hstatus
  obtain ⟨start, hstart, rfl⟩ := List.mem_map.mp hstatus
  obtain ⟨integration, hdesired, rfl⟩ := List.mem_map.mp hstart
  obtain ⟨role, _, hauthorized, heq⟩ := linkExact_of_realized h hdesired
  rw [heq]
  exact ⟨rfl, if_pos hauthorized⟩

/-- Nothing is claimed and nothing is left over. -/
theorem statuses_of_realized (h : Realized cloud project desired reported) :
    statuses desired (cloud.rolesOf project) = matched desired (cloud.rolesOf project) := by
  have hfree : ((sortRoles (cloud.rolesOf project)).filter fun role => role.arn = "") = [] := by
    rw [List.filter_eq_nil_iff]
    intro role hmem
    have hvisible := (h.usable role (mem_sortRoles_iff.mp hmem)).1
    simpa using hvisible
  have hplaced : placed desired (cloud.rolesOf project) =
      matched desired (cloud.rolesOf project) := by
    unfold placed
    rw [hfree, claim_nil]
  have hunclaimed : unclaimed desired (cloud.rolesOf project) = [] := by
    unfold unclaimed
    rw [hfree, claim_nil]
  have hknown : difference ((sortRoles (cloud.rolesOf project)).filter fun role => role.arn ≠ "")
      (matched desired (cloud.rolesOf project)) = [] := by
    rw [Ownership.difference_eq_nil_iff]
    intro role hmem
    have hrole : role ∈ cloud.rolesOf project :=
      mem_sortRoles_iff.mp (List.mem_of_mem_filter hmem)
    obtain ⟨integration, hdesired, hmatch⟩ :=
      (h.same_identifiers (identifier role)).mp ⟨role, hrole, rfl⟩
    obtain ⟨linked, _, _, heq⟩ := linkExact_of_realized h hdesired
    refine ⟨Role.identifier_ne_empty_iff.mpr (h.usable role hrole).1, _,
      List.mem_map_of_mem (List.mem_map_of_mem hdesired), ?_⟩
    rw [heq]
    exact hmatch
  rw [statuses_eq, hplaced, surplus, hplaced, hunclaimed, hknown]
  exact List.append_nil _

theorem sync_of_realized (h : Realized cloud project desired reported) :
    sync project desired (cloud.rolesOf project) =
      .done (matched desired (cloud.rolesOf project)) := by
  unfold sync
  rw [statuses_of_realized h]
  refine stepAll_of_rest (fun status hstatus => ?_) project
  -- An authorized status has no move to make.
  unfold move
  rw [(authorized_of_mem_matched h status hstatus).2]

end Realized

/-! ## The result and the conditions -/

section Aligned

variable {cloud : MemoryCloud} {now : Moment} {project : Project} {conditions : Conditions}
  {reported : List Status}

/-- What the condition of a pass that is fine says beyond that. -/
def notice (project : Project) : String :=
  if project.spec.usesAccessRoles then Progress.deprecationNotice else ""

/-- A pass that is fine confirms the condition about integrations. -/
theorem conditions_aligned (hok : (aligned now project conditions reported).result.isOk = true) :
    (aligned now project conditions reported).conditions =
      conditions.confirm now .cloudProviderIntegrationReady (notice project) := by
  have hprogress : (Progress.ofStatuses reported).result.isOk = true := by
    rw [← hok, isOk_aligned]
  show (Progress.publish now reported project.spec.usesAccessRoles conditions).2 = _
  unfold Progress.publish
  rw [if_pos hprogress]
  rfl

theorem align_of_realized (h : Realized cloud project.id project.spec.declared reported) :
    align now project conditions (cloud.rolesOf project.id) =
      .done (aligned now project conditions
        (matched project.spec.declared (cloud.rolesOf project.id))) := by
  unfold align
  rw [sync_of_realized h]
  rfl

end Aligned

end CloudSteward.Integrations
