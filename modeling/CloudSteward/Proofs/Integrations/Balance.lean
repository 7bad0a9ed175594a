import CloudSteward.Proofs.Integrations.Supply
import CloudSteward.Proofs.Ownership

/-!
# Runs in which every status makes its move

If every status makes its move, the ledger of a run is exact.  Created are the roles that
were missing, removed those that were too many, so supply and demand are level before the
authorizations, which take from both (`freeCount_add_granted`).  Afterwards there is a role
in supply for every integration in demand, and the next run creates none
(`demand_le_supply`).

If that was so before already, nothing is missing in the run: every unknown integration
with an `arn` has its role authorized, and in demand remain those without.  They have just
the roles they claim, and no role is left that nobody declared.  That is `Balanced`, and
`Balanced.move_eq_rest` says that then no status has a move to make.
-/

namespace CloudSteward.Linking

open Integrations

/-- Every status makes its move. -/
def moved (statuses : List Status) : List Turn :=
  statuses.map fun status => ⟨status, move status⟩

theorem map_status_moved (statuses : List Status) :
    (moved statuses).map Turn.status = statuses := by
  unfold moved
  rw [List.map_map]
  exact List.map_id _

theorem madeCount_moved (kind : Move) (statuses : List Status) :
    madeCount kind (moved statuses) = statuses.countP fun status => move status = kind :=
  List.countP_map

theorem mem_moved {status : Status} {statuses : List Status} (h : status ∈ statuses) :
    ⟨status, move status⟩ ∈ moved statuses :=
  List.mem_map_of_mem h

/-- Two things of which one happens at all places where it has to. -/
theorem countP_le_countP_add {α β : Type} {related : α → β → Prop} {left : List α}
    {right : List β} {all first : α → Bool} {second : β → Bool}
    (h : List.Forall₂ related left right)
    (himp : ∀ a b, related a b → all a = true → first a = true ∨ second b = true) :
    left.countP all ≤ left.countP first + right.countP second := by
  induction h with
  | nil => exact Nat.zero_le _
  | @cons a b _ _ hrelated _ ih =>
      rw [List.countP_cons, List.countP_cons, List.countP_cons]
      by_cases hall : all a = true
      · rw [if_pos hall]
        rcases himp a b hrelated hall with hfirst | hsecond
        · rw [if_pos hfirst]
          omega
        · rw [if_pos hsecond]
          omega
      · rw [if_neg hall]
        omega

section Run

variable {desired : List Integration} {remote after : List Role} (hregular : Regular remote)

include hregular

/-! ## Supply and demand level out -/

/-- As many roles without an `arn` are dropped as are too many. -/
theorem freedCount_moved :
    freedCount (moved (statuses desired remote)) =
      freeCount remote - (difference desired remote).length := by
  -- Only removals drop, and among them those of the roles that were left unclaimed.
  let drops (status : Status) : Bool := move status = .remove ∧ status.arn = ""
  have hplaced : (placed desired remote).countP drops = 0 := by
    rw [List.countP_eq_zero]
    intro status hstatus
    simp [drops, move_ne_remove_of_mem_placed hstatus]
  calc
    freedCount (moved (statuses desired remote)) = (statuses desired remote).countP drops :=
      List.countP_map
    _ = ((surplus desired remote).map Status.removal).countP drops := by
      rw [statuses_eq, List.countP_append, hplaced, Nat.zero_add]
    _ = ((surplus desired remote).map Status.removal).countP fun removal => removal.arn = "" := by
      refine List.countP_congr fun status hstatus => ?_
      obtain ⟨role, _, rfl⟩ := List.mem_map.mp hstatus
      simp [drops]
    _ = freeCount remote - (difference desired remote).length :=
      (countP_surplus desired remote).trans (length_unclaimed hregular.named)

variable (hchanges : Changes remote (moved (statuses desired remote)) after)

include hchanges

/-- What the supply has become, and what was taken from it, is the demand there was. -/
theorem freeCount_add_granted :
    freeCount after + madeCount .authorize (moved (statuses desired remote)) =
      (difference desired remote).length := by
  have hbooks := hchanges.freeCount_eq
    ((map_status_moved _).symm ▸ targeted_statuses hregular)
  have hdropped : freedCount (moved (statuses desired remote)) = _ := freedCount_moved hregular
  have hcreated := madeCount_moved .create (statuses desired remote)
  rw [countP_create_statuses hregular.named] at hcreated
  omega

/-- The supply suffices for the next run. -/
theorem demand_le_supply : (difference desired after).length ≤ freeCount after := by
  have hsupply := freeCount_add_granted hregular hchanges
  have hdemand := demand_add_granted_le hregular (map_status_moved _) hchanges
  omega

end Run

/-! ## Runs in which nothing is missing -/

section Supplied

variable {desired : List Integration} {remote after : List Role} (hregular : Regular remote)
  (hsupplied : (difference desired remote).length ≤ freeCount remote)

include hregular hsupplied

theorem move_ne_create {status : Status} (hstatus : status ∈ statuses desired remote) :
    move status ≠ .create := by
  intro hmove
  have hnone : (statuses desired remote).countP (fun status => move status = .create) = 0 := by
    rw [countP_create_statuses hregular.named]
    omega
  exact List.countP_eq_zero.mp hnone status hstatus (by simpa using hmove)

/-- An unknown integration with an `arn` has its role authorized. -/
theorem move_eq_authorize {integration : Integration} {status : Status}
    (hstatus : status ∈ placed desired remote)
    (hplacement : Placement remote integration status) (harn : integration.arn ≠ "")
    (hunknown : knownAmong integration remote = false) : move status = .authorize := by
  have hcreate := move_ne_create hregular hsupplied (mem_statuses_of_mem_placed hstatus)
  cases hplacement with
  | exact hrole hid hmatch =>
      have hknown := knownAmong_eq_true_iff.mpr ⟨hid, _, hrole, hmatch⟩
      exact absurd (hunknown.symm.trans hknown) (by decide)
  | @claimed role hrole hfree _ =>
      have hunauthorized : ¬role.isAuthorized = true :=
        fun hauthorized => (hregular.dated role hrole).mp hauthorized hfree
      rw [move_linked]
      exact if_neg (not_or.mpr ⟨hunauthorized, harn⟩)
  | fresh => exact absurd rfl hcreate

/-- In demand are then those that are authorized, and those without an `arn`. -/
theorem demand_le_granted :
    (difference desired remote).length ≤
      (desired.countP fun integration => integration.arn = "") +
        madeCount .authorize (moved (statuses desired remote)) := by
  calc
    (difference desired remote).length
        = desired.countP fun integration => !knownAmong integration remote :=
      List.countP_eq_length_filter.symm
    _ ≤ (desired.countP fun integration => integration.arn = "") +
          (placed desired remote).countP fun status => move status = .authorize := by
      refine countP_le_countP_add (forall₂_mem (forall₂_placement hregular.named)) ?_
      rintro integration status ⟨_, hstatus, hplacement⟩ hunknown
      by_cases harn : integration.arn = ""
      · exact .inl (by simpa using harn)
      · have hunknown : knownAmong integration remote = false := by simpa using hunknown
        exact .inr (by
          simpa using move_eq_authorize hregular hsupplied hstatus hplacement harn hunknown)
    _ ≤ _ := by
      rw [madeCount_moved, statuses_eq, List.countP_append]
      omega

variable (hchanges : Changes remote (moved (statuses desired remote)) after)

include hchanges

/-- A declared integration with an `arn` is known in the end. -/
theorem known_of_supplied {integration : Integration} (hdesired : integration ∈ desired)
    (harn : integration.arn ≠ "") : knownAmong integration after = true := by
  cases hknown : knownAmong integration remote with
  | true => exact known_of_known hregular (map_status_moved _) hchanges hdesired hknown
  | false =>
      obtain ⟨status, hstatus, hplacement⟩ :=
        exists_right_of_forall₂ (forall₂_placement hregular.named) hdesired
      have hmove := move_eq_authorize hregular hsupplied hstatus hplacement harn hknown
      exact (known_of_granted hregular (map_status_moved _) hchanges
        (mem_moved (mem_statuses_of_mem_placed hstatus)) hplacement hmove).2

/-- A visible role is a declared one in the end: the others were removed. -/
theorem declared_of_supplied {role : Role} (hrole : role ∈ after) (hvisible : role.arn ≠ "") :
    ∃ integration ∈ desired, identifier integration = identifier role := by
  have hcreate : ∀ turn ∈ moved (statuses desired remote), turn.made ≠ .create := by
    intro turn hturn
    obtain ⟨status, hstatus, rfl⟩ := List.mem_map.mp hturn
    exact move_ne_create hregular hsupplied hstatus
  rcases hchanges.mem_cases hrole with
    hbefore | ⟨turn, hturn, hprovider, ⟨_, hfree⟩ | ⟨hmade, harn⟩⟩
  · rcases cases_of_mem_remote hregular.named hbefore with
      ⟨_, hdeclared⟩ | ⟨hfree, _⟩ | hsurplus
    · exact hdeclared
    · exact absurd hfree hvisible
    · -- It was removed, and as no role is created, its id is not given again.
      have hgone := hchanges.roleId_ne_of_dropped hregular.distinct hcreate
        (mem_moved (removal_mem_statuses hsurplus)) rfl
      exact absurd rfl (hgone role hrole)
  · exact absurd hfree hvisible
  · obtain ⟨status, hstatus, rfl⟩ := List.mem_map.mp hturn
    rcases mem_statuses_cases hstatus with hplaced | ⟨other, _, rfl⟩
    · obtain ⟨integration, hdesired, hstands⟩ := exists_standsFor_of_mem_placed hplaced
      refine ⟨integration, hdesired, ?_⟩
      rw [Role.identifier_eq, hprovider, harn, hstands.provider_eq, hstands.arn_eq]
      rfl
    · cases hmade

end Supplied

/-! ## Balance -/

/-- Everything that is declared with an `arn` is there, and nothing else that is visible, and
the roles without an `arn` are as many as the integrations without one. -/
structure Balanced (desired : List Integration) (roles : List Role) : Prop where
  known : ∀ integration ∈ desired, integration.arn ≠ "" → knownAmong integration roles = true
  declared : ∀ role ∈ roles, role.arn ≠ "" →
    ∃ integration ∈ desired, identifier integration = identifier role
  level : freeCount roles = desired.countP fun integration => integration.arn = ""

section Balanced

variable {desired : List Integration} {remote after : List Role}

/-- What is known has an `arn`. -/
theorem countP_arn_le_demand (desired : List Integration) (roles : List Role) :
    (desired.countP fun integration => integration.arn = "") ≤
      (difference desired roles).length := by
  unfold difference
  rw [← List.countP_eq_length_filter]
  refine List.countP_mono_left fun integration _ hempty => ?_
  have hempty : integration.arn = "" := of_decide_eq_true hempty
  have hid : identifier integration = "" := sharedIdentifier_eq_empty_iff.mpr hempty
  simp [knownAmong, hid]

/-- A run in which nothing is missing, and in which every status makes its move, leaves
integrations and roles in balance. -/
theorem balanced_of_supplied (hregular : Regular remote)
    (hsupplied : (difference desired remote).length ≤ freeCount remote)
    (hchanges : Changes remote (moved (statuses desired remote)) after) :
    Balanced desired after where
  known _ hdesired harn := known_of_supplied hregular hsupplied hchanges hdesired harn
  declared _ hrole hvisible := declared_of_supplied hregular hsupplied hchanges hrole hvisible
  level := by
    have hsupply := freeCount_add_granted hregular hchanges
    have hgranted := demand_le_granted hregular hsupplied
    have hdemand := demand_le_supply hregular hchanges
    have hunnamed := countP_arn_le_demand desired after
    -- The supply is at most the number of the unnamed, these are at most the demand, and that is
    -- at most the supply.
    omega

theorem Balanced.demand_eq (h : Balanced desired remote) :
    (difference desired remote).length = freeCount remote := by
  rw [h.level]
  refine Nat.le_antisymm ?_ (countP_arn_le_demand desired remote)
  unfold difference
  rw [← List.countP_eq_length_filter]
  refine List.countP_mono_left fun integration hdesired hunknown => ?_
  by_contra harn
  have harn : integration.arn ≠ "" := by simpa using harn
  simp [h.known integration hdesired harn] at hunknown

variable (h : Balanced desired remote) (hregular : Regular remote)

include h hregular

/-- In balance no role is surplus. -/
theorem Balanced.surplus_eq_nil : surplus desired remote = [] := by
  have hvisible : difference ((sortRoles remote).filter fun role => role.arn ≠ "")
      (placed desired remote) = [] := by
    rw [Ownership.difference_eq_nil_iff]
    intro role hmem
    obtain ⟨hrole, harn⟩ : role ∈ remote ∧ role.arn ≠ "" := by simpa using hmem
    obtain ⟨integration, hdesired, hmatch⟩ := h.declared role hrole harn
    obtain ⟨status, hstatus, hstands⟩ :=
      exists_right_of_forall₂ (forall₂_standsFor desired remote) hdesired
    exact ⟨Role.identifier_ne_empty_iff.mpr harn, status, hstatus,
      hstands.identifier_eq.trans hmatch⟩
  have hunclaimed : (unclaimed desired remote).length = 0 := by
    rw [length_unclaimed hregular.named, h.demand_eq]
    exact Nat.sub_self _
  rw [surplus, hvisible, List.length_eq_zero_iff.mp hunclaimed]
  rfl

/-- In balance a status says that its role is authorized, or that it waits for the `arn`. -/
structure AtRest (integration : Integration) (status : Status) : Prop where
  move_eq : move status = .rest
  error_eq : status.error = ""
  phase_eq : status.phase = if integration.arn = "" then .created else .authorized

theorem Balanced.forall₂_atRest : List.Forall₂ AtRest desired (placed desired remote) := by
  have hsupplied : (difference desired remote).length ≤ freeCount remote :=
    Nat.le_of_eq h.demand_eq
  refine (forall₂_mem (forall₂_placement hregular.named)).imp ?_
  rintro integration status ⟨hdesired, hstatus, hplacement⟩
  have hcreate := move_ne_create hregular hsupplied (mem_statuses_of_mem_placed hstatus)
  cases hplacement with
  | @exact role hrole hid hmatch =>
      have harn : integration.arn ≠ "" := Integration.identifier_ne_empty_iff.mp hid
      have hauthorized : role.isAuthorized = true :=
        (hregular.dated role hrole).mpr (Role.identifier_ne_empty_iff.mp (hmatch ▸ hid))
      refine ⟨?_, rfl, ?_⟩
      · rw [move_linked, if_pos (.inl hauthorized)]
      · rw [if_neg harn]
        exact if_pos hauthorized
  | @claimed role hrole hfree hunknown =>
      have hunauthorized : ¬role.isAuthorized = true :=
        fun hauthorized => (hregular.dated role hrole).mp hauthorized hfree
      have harn : integration.arn = "" := by
        by_contra harn
        have hknown := h.known integration hdesired harn
        rw [knownAmong_eq_false_iff.mpr hunknown] at hknown
        cases hknown
      refine ⟨?_, rfl, ?_⟩
      · rw [move_linked]
        exact if_pos (.inr harn)
      · rw [if_pos harn]
        exact if_neg hunauthorized
  | fresh => exact absurd rfl hcreate

theorem Balanced.move_eq_rest {status : Status} (hstatus : status ∈ placed desired remote) :
    move status = .rest := by
  obtain ⟨_, _, hrest⟩ := exists_left_of_forall₂ (h.forall₂_atRest hregular) hstatus
  exact hrest.move_eq

end Balanced

end CloudSteward.Linking
