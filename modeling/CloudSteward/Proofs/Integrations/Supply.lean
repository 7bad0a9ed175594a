import CloudSteward.Proofs.Integrations.Conservation
import CloudSteward.Proofs.Integrations.Ledger

/-!
# Supply and demand

Integrations of which nothing is known are in demand of a role, and the roles without an
`arn` are the supply.  Linking meets demand from supply as far as it goes, and only what is
still missing is created (`countP_create_placed`).  A run then authorizes some of the roles
that were claimed; each of these is an integration less in demand, for good, as nobody acts
on a role that is declared (`demand_add_granted_le`).

So a run can add roles only up to the larger of the two numbers, and what it takes from one
of them it takes from both.  With the visible roles added, that is the potential
`roleLimit`: it bounds the number of roles, and no part of a run makes it grow
(`roleLimit_le`).
-/

namespace CloudSteward.Linking

open Integrations

/-! ## Creations -/

/-- Of the statuses that wait, those are left without a role for whom there was none. -/
theorem countP_create_claim {statuses : List Status}
    (hcreate : ∀ status ∈ statuses, move status = .create ↔ status.isLinked = false)
    (free : List Role) :
    (claim statuses free).1.countP (fun status => move status = .create) =
      waiting statuses - free.length := by
  induction statuses generalizing free with
  | nil => simp [claim, waiting]
  | cons status rest ih =>
      obtain ⟨hfirst, hothers⟩ := List.forall_mem_cons.mp hcreate
      cases free with
      | nil =>
          rw [claim, List.length_nil, Nat.sub_zero, waiting]
          refine List.countP_congr fun other hother => ?_
          simpa using hcreate other hother
      | cons role free =>
          rw [waiting_cons]
          unfold claim
          by_cases hlinked : status.isLinked = true
          · -- A linked status leaves the role to those behind it.
            have hmove : move status ≠ .create := fun hmove => by simp [hfirst.mp hmove] at hlinked
            rw [if_pos hlinked, if_pos hlinked, Nat.zero_add, ← ih hothers,
              List.countP_cons_of_neg (by simpa using hmove)]
          · -- One that waits takes it, and is not created any more.
            have hmove : move (status.linked role) ≠ .create := by
              rw [move_linked]
              split_ifs <;> simp
            rw [if_neg hlinked, if_neg hlinked, List.countP_cons_of_neg (by simpa using hmove),
              ih hothers, List.length_cons]
            omega

section Regular

variable {desired : List Integration} {remote : List Role}

/-- A status waits exactly if its role is to be created. -/
theorem move_eq_create_iff_of_mem_matched (hnamed : ∀ role ∈ remote, role.roleId ≠ "") :
    ∀ status ∈ matched desired remote, move status = .create ↔ status.isLinked = false := by
  intro status hstatus
  obtain ⟨start, hstart, rfl⟩ := List.mem_map.mp hstatus
  obtain ⟨integration, _, rfl⟩ := List.mem_map.mp hstart
  rw [isLinked_linkExact hnamed]
  cases hknown : knownAmong integration remote with
  | true =>
      obtain ⟨role, _, _, heq⟩ := linkExact_of_known hknown
      rw [heq, move_linked]
      split_ifs <;> simp
  | false => simp [linkExact_of_unknown hknown]

/-- As many roles are to be created as are missing. -/
theorem countP_create_placed (hnamed : ∀ role ∈ remote, role.roleId ≠ "") :
    (placed desired remote).countP (fun status => move status = .create) =
      (difference desired remote).length - freeCount remote := by
  unfold placed
  rw [countP_create_claim (move_eq_create_iff_of_mem_matched hnamed), waiting_matched hnamed,
    length_free]
  rfl

theorem countP_create_statuses (hnamed : ∀ role ∈ remote, role.roleId ≠ "") :
    (statuses desired remote).countP (fun status => move status = .create) =
      (difference desired remote).length - freeCount remote := by
  have hremoved :
      ((surplus desired remote).map Status.removal).countP (fun status => move status = .create) =
        0 := by
    rw [List.countP_map, List.countP_eq_zero]
    intro role _
    simp
  rw [statuses_eq, List.countP_append, countP_create_placed hnamed, hremoved, Nat.add_zero]

/-- Linking gives every status that acts a role of its own. -/
theorem targeted_statuses (hregular : Regular remote) :
    Targeted remote (statuses desired remote) where
  distinct := hregular.distinct
  apart := nodup_acting_roleIds hregular
  aimed status hstatus hacts := by
    rcases mem_statuses_cases hstatus with hplaced | ⟨role, hsurplus, rfl⟩
    · obtain ⟨integration, hdesired, hplacement⟩ :=
        exists_left_of_forall₂ (forall₂_placement hregular.named) hplaced
      cases hplacement with
      | @exact role hrole hid hmatch =>
          -- Such a role is authorized already, so its status rests.
          have hvisible : role.arn ≠ "" := Role.identifier_ne_empty_iff.mp (hmatch ▸ hid)
          have hauthorized := (hregular.dated role hrole).mpr hvisible
          simp [acts, move_linked, hauthorized] at hacts
      | claimed hrole hfree _ =>
          exact ⟨_, hrole, rfl, fun _ => hfree,
            fun hmove => absurd hmove (move_ne_remove_of_mem_placed hplaced)⟩
      | fresh => simp [acts] at hacts
    · exact ⟨role, (mem_surplus hsurplus).1, rfl, fun hmove => by simp at hmove, fun _ => rfl⟩

end Regular

/-! ## The ledger of linked statuses -/

/-- Two things of which only one happens at a place, and only at certain places. -/
theorem countP_add_countP_le {α β : Type} {related : α → β → Prop} {left : List α}
    {right : List β} {first all : α → Bool} {second : β → Bool}
    (h : List.Forall₂ related left right)
    (hfirst : ∀ a b, related a b → first a = true → all a = true)
    (hsecond : ∀ a b, related a b → second b = true → all a = true ∧ first a = false) :
    left.countP first + right.countP second ≤ left.countP all := by
  induction h with
  | nil => exact Nat.le_refl _
  | @cons a b _ _ hrelated _ ih =>
      rw [List.countP_cons, List.countP_cons, List.countP_cons]
      by_cases hright : second b = true
      · obtain ⟨hall, hnone⟩ := hsecond a b hrelated hright
        rw [if_pos hright, if_pos hall, if_neg (by simp [hnone])]
        omega
      · rw [if_neg hright]
        by_cases hleft : first a = true
        · rw [if_pos hleft, if_pos (hfirst a b hrelated hleft)]
          omega
        · rw [if_neg hleft]
          omega

section Ledger

variable {desired : List Integration} {remote after : List Role} {turns : List Turn}
  (hregular : Regular remote) (hturns : turns.map Turn.status = statuses desired remote)
  (hchanges : Changes remote turns after)

include hregular hturns hchanges

/-- No more roles are created than are missing. -/
theorem madeCount_create_le :
    madeCount .create turns ≤ (difference desired remote).length - freeCount remote := by
  calc
    madeCount .create turns
        ≤ turns.countP ((fun status => decide (move status = .create)) ∘ Turn.status) := by
      refine List.countP_mono_left fun turn hturn hmade => ?_
      have hmade : turn.made = .create := of_decide_eq_true hmade
      rcases hchanges.made_cases turn hturn with hrest | hmove
      · simp [hrest] at hmade
      · simpa using hmove.symm.trans hmade
    _ = (statuses desired remote).countP (fun status => move status = .create) := by
      rw [← List.countP_map, hturns]
    _ = (difference desired remote).length - freeCount remote :=
      countP_create_statuses hregular.named

/-- What is known stays known, as nobody acts on a role that is declared. -/
theorem known_of_known {integration : Integration} (hdesired : integration ∈ desired)
    (hknown : knownAmong integration remote = true) : knownAmong integration after = true := by
  obtain ⟨hid, role, hrole, hmatch⟩ := knownAmong_eq_true_iff.mp hknown
  have hvisible : role.arn ≠ "" := Role.identifier_ne_empty_iff.mp (hmatch ▸ hid)
  refine knownAmong_eq_true_iff.mpr
    ⟨hid, role, hchanges.mem_of_ne hrole fun turn hturn => ?_, hmatch⟩
  exact acting_roleId_ne hregular hrole hvisible ⟨integration, hdesired, hmatch.symm⟩ turn.status
    (hturns ▸ List.mem_map_of_mem hturn)

/-- An integration whose role was authorized was unknown before, and is known after. -/
theorem known_of_granted {integration : Integration} {turn : Turn} (hturn : turn ∈ turns)
    (hplacement : Placement remote integration turn.status) (hmade : turn.made = .authorize) :
    knownAmong integration remote = false ∧ knownAmong integration after = true := by
  have hmove : move turn.status = .authorize := by
    rcases hchanges.made_cases turn hturn with hrest | hmove
    · simp [hrest] at hmade
    · exact hmove.symm.trans hmade
  constructor
  · rw [knownAmong_eq_false_iff]
    generalize turn.status = status at hplacement hmove
    cases hplacement with
    | @exact role hrole hid hmatch =>
        have hvisible : role.arn ≠ "" := Role.identifier_ne_empty_iff.mp (hmatch ▸ hid)
        have hauthorized := (hregular.dated role hrole).mpr hvisible
        simp [move_linked, hauthorized] at hmove
    | claimed _ _ hunknown => exact hunknown
    | fresh hunknown => exact hunknown
  · obtain ⟨role, hrole, hprovider, harn⟩ :=
      hchanges.exists_granted (hturns ▸ targeted_statuses hregular) hturn hmade
    have hmatch : identifier role = identifier integration := by
      rw [Role.identifier_eq, hprovider, harn, hplacement.provider_eq, hplacement.arn_eq]
      rfl
    have hnamed : integration.arn ≠ "" := hplacement.arn_eq ▸ arn_ne_of_move hmove
    exact knownAmong_eq_true_iff.mpr
      ⟨Integration.identifier_ne_empty_iff.mpr hnamed, role, hrole, hmatch⟩

/-- Every role that was authorized is one less in demand. -/
theorem demand_add_granted_le :
    (difference desired after).length + madeCount .authorize turns ≤
      (difference desired remote).length := by
  have hparts := hturns
  rw [statuses_eq] at hparts
  obtain ⟨own, others, hsplit, hown, hothers⟩ := List.map_eq_append_iff.mp hparts
  -- The turns behind those of the declared integrations are removals, which authorize nothing.
  have hnone : madeCount .authorize others = 0 := by
    refine List.countP_eq_zero.mpr fun turn hturn hmade => ?_
    have hmade : turn.made = .authorize := of_decide_eq_true hmade
    obtain ⟨role, _, hremoval⟩ := List.mem_map.mp (hothers ▸ List.mem_map_of_mem hturn)
    rcases hchanges.made_cases turn (hsplit ▸ List.mem_append_right _ hturn) with hrest | hmove
    · simp [hrest] at hmade
    · simp [← hremoval, hmade] at hmove
  have hplacements : List.Forall₂
      (fun integration turn => Placement remote integration turn.status) desired own := by
    rw [← List.forall₂_map_right_iff, hown]
    exact forall₂_placement hregular.named
  calc
    (difference desired after).length + madeCount .authorize turns
        = desired.countP (fun integration => !knownAmong integration after) +
            own.countP fun turn => turn.made = .authorize := by
      rw [hsplit, madeCount, List.countP_append]
      unfold madeCount at hnone
      rw [hnone, Nat.add_zero, difference, ← List.countP_eq_length_filter]
    _ ≤ desired.countP fun integration => !knownAmong integration remote := by
      refine countP_add_countP_le (forall₂_mem hplacements) ?_ ?_
      · rintro integration turn ⟨hdesired, _, _⟩ hunknown
        by_contra hknown
        have hknown : knownAmong integration remote = true := by simpa using hknown
        simp [known_of_known hregular hturns hchanges hdesired hknown] at hunknown
      · rintro integration turn ⟨_, hturn, hplacement⟩ hmade
        obtain ⟨hbefore, hafter⟩ := known_of_granted hregular hturns hchanges
          (hsplit ▸ List.mem_append_left _ hturn) hplacement (of_decide_eq_true hmade)
        simp [hbefore, hafter]
    _ = (difference desired remote).length := List.countP_eq_length_filter

end Ledger

/-! ## The limit -/

/-- How many roles there can be as long as nothing else is declared: all that are visible,
and the larger of supply and demand. -/
def roleLimit (desired : List Integration) (roles : List Role) : Nat :=
  visibleCount roles + max (freeCount roles) (difference desired roles).length

theorem length_le_roleLimit (desired : List Integration) (roles : List Role) :
    roles.length ≤ roleLimit desired roles := by
  rw [← freeCount_add_visibleCount, roleLimit]
  omega

/-- A run does not raise the limit, however little of it has happened: a role that is
authorized leaves supply and demand, and one that is created only fills the gap between
them. -/
theorem roleLimit_le {desired : List Integration} {remote after : List Role} {turns : List Turn}
    (hregular : Regular remote) (hturns : turns.map Turn.status = statuses desired remote)
    (hchanges : Changes remote turns after) :
    roleLimit desired after ≤ roleLimit desired remote := by
  have hfree := hchanges.freeCount_eq (hturns ▸ targeted_statuses hregular)
  have hvisible := hchanges.visibleCount_le
  have hcreated := madeCount_create_le hregular hturns hchanges
  have hdemand := demand_add_granted_le hregular hturns hchanges
  -- Supply and demand both end below the larger of the two by what was authorized, and no more
  -- than that has become visible.
  unfold roleLimit
  omega

end CloudSteward.Linking
