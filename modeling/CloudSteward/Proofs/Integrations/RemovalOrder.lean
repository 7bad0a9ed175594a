import CloudSteward.Proofs.Integrations.Addressing

/-!
# The order of the removals

The removals of a pass stand behind everything that is declared.  Linking takes them from two
places: from the visible roles that nobody declared, and from the roles without an `arn` that
nobody claimed.  Both come from the sorted listing and so ascend (`pairwise_visible_surplus`,
`pairwise_hidden_surplus`), but one is put behind the other without being merged.

So the ids of the removals ascend exactly if no role without an `arn` that is to be removed has a
lower id than a visible one (`Inverted`), and a listing of two roles is enough for the
contrary.  The calls of a pass follow the entries one by one.
-/

namespace CloudSteward

namespace Linking

variable {desired : List Integration} {remote : List Role}

/-- Ids that never fall. -/
def Ascending (ids : List String) : Prop :=
  ids.Pairwise fun first second => first ≤ second

instance (ids : List String) : Decidable (Ascending ids) :=
  inferInstanceAs (Decidable (ids.Pairwise _))

/-- The entries that linking adds for roles that are to be removed. -/
def removals (desired : List Integration) (remote : List Role) : List Status :=
  (statuses desired remote).filter fun status => status.phase.isRemoval

/-- Some role without an `arn` has a lower id than one with an `arn`, and both are to be
removed. -/
def Inverted (removals : List Status) : Prop :=
  ∃ visible ∈ removals, ∃ hidden ∈ removals, visible.arn ≠ "" ∧ hidden.arn = "" ∧
    hidden.roleId < visible.roleId

/-- How linking arranges the entries of a pass. -/
structure Arranged (desired : List Integration) (remote : List Role) : Prop where
  /-- Every declared integration has its entry, in the declared order. -/
  declared : List.Forall₂ StandsFor desired (placed desired remote)
  behind : statuses desired remote = placed desired remote ++ removals desired remote
  /-- Of the removals those of visible roles come first, and on both sides the ids ascend. -/
  in_two_runs : ∃ visible hidden, removals desired remote = visible ++ hidden ∧
    (∀ status ∈ visible, status.arn ≠ "") ∧ (∀ status ∈ hidden, status.arn = "") ∧
    Ascending (visible.map Status.roleId) ∧ Ascending (hidden.map Status.roleId)
  ascending_iff : Ascending ((removals desired remote).map Status.roleId) ↔
    ¬Inverted (removals desired remote)

/-! ## The entries -/

/-- The removals are those of the surplus roles. -/
theorem removals_eq (desired : List Integration) (remote : List Role) :
    removals desired remote = (surplus desired remote).map Status.removal := by
  have hplaced : ((placed desired remote).filter fun status => status.phase.isRemoval) = [] := by
    rw [List.filter_eq_nil_iff]
    intro status hstatus
    obtain ⟨integration, _, hstands⟩ := exists_standsFor_of_mem_placed hstatus
    simp [hstands.kept]
  have hsurplus : (((surplus desired remote).map Status.removal).filter fun status =>
      status.phase.isRemoval) = (surplus desired remote).map Status.removal := by
    rw [List.filter_eq_self]
    intro status hstatus
    obtain ⟨role, _, rfl⟩ := List.mem_map.mp hstatus
    rfl
  rw [removals, statuses_eq, List.filter_append, hplaced, hsurplus, List.nil_append]

theorem pairwise_visible_surplus (desired : List Integration) (remote : List Role) :
    (difference ((sortRoles remote).filter fun role => role.arn ≠ "")
      (placed desired remote)).Pairwise fun first second => first.roleId ≤ second.roleId :=
  ((pairwise_sortRoles remote).filter _).filter _

/-- Whoever claims takes from the front, so what is left ascends as before. -/
theorem pairwise_hidden_surplus (desired : List Integration) (remote : List Role) :
    (unclaimed desired remote).Pairwise fun first second => first.roleId ≤ second.roleId := by
  obtain ⟨picked, hfree, _⟩ := exists_picked desired remote
  have hsorted := (pairwise_sortRoles remote).filter fun role => role.arn = ""
  rw [hfree] at hsorted
  exact (List.pairwise_append.mp hsorted).2.1

theorem ascending_removal {roles : List Role}
    (h : roles.Pairwise fun first second => first.roleId ≤ second.roleId) :
    Ascending ((roles.map Status.removal).map Status.roleId) := by
  rw [roleIds_removal]
  exact List.pairwise_map.mpr h

/-- Two runs behind each other ascend if and only if nothing in the first is above anything in
the second. -/
theorem ascending_append_iff {visible hidden : List Status}
    (hvisible : ∀ status ∈ visible, status.arn ≠ "") (hhidden : ∀ status ∈ hidden, status.arn = "")
    (hfirst : Ascending (visible.map Status.roleId))
    (hsecond : Ascending (hidden.map Status.roleId)) :
    Ascending ((visible ++ hidden).map Status.roleId) ↔ ¬Inverted (visible ++ hidden) := by
  unfold Ascending at hfirst hsecond ⊢
  rw [List.map_append, List.pairwise_append, and_iff_right hfirst, and_iff_right hsecond,
    List.forall_mem_map]
  constructor
  · rintro hle ⟨front, hfront, back, hback, hfrontArn, hbackArn, hlt⟩
    -- The `arn` tells on which side an entry stands.
    have hfront : front ∈ visible := (List.mem_append.mp hfront).resolve_right
      fun hmem => hfrontArn (hhidden front hmem)
    have hback : back ∈ hidden := (List.mem_append.mp hback).resolve_left
      fun hmem => hvisible back hmem hbackArn
    exact String.not_lt.mpr (hle front hfront _ (List.mem_map_of_mem hback)) hlt
  · intro hnot front hfront id hid
    obtain ⟨back, hback, rfl⟩ := List.mem_map.mp hid
    refine String.not_lt.mp fun hlt => hnot ?_
    exact ⟨front, List.mem_append_left _ hfront, back, List.mem_append_right _ hback,
      hvisible front hfront, hhidden back hback, hlt⟩

theorem arranged (desired : List Integration) (remote : List Role) : Arranged desired remote := by
  have hsplit := removals_eq desired remote
  unfold surplus at hsplit
  rw [List.map_append] at hsplit
  have hvisible : ∀ status ∈ (difference ((sortRoles remote).filter fun role => role.arn ≠ "")
      (placed desired remote)).map Status.removal, status.arn ≠ "" := by
    rw [List.forall_mem_map]
    intro role hrole
    have harn := (List.mem_filter.mp (mem_difference_iff.mp hrole).1).2
    exact of_decide_eq_true harn
  have hhidden : ∀ status ∈ (unclaimed desired remote).map Status.removal, status.arn = "" := by
    rw [List.forall_mem_map]
    exact fun role hrole => (mem_unclaimed hrole).2
  have hfirst := ascending_removal (pairwise_visible_surplus desired remote)
  have hsecond := ascending_removal (pairwise_hidden_surplus desired remote)
  exact
    { declared := forall₂_standsFor desired remote
      behind := by rw [removals_eq, statuses_eq]
      in_two_runs := ⟨_, _, hsplit, hvisible, hhidden, hfirst, hsecond⟩
      ascending_iff := by
        rw [hsplit]
        exact ascending_append_iff hvisible hhidden hfirst hsecond }

end Linking

namespace Integrations

open Linking MemoryCloud

variable {now : Moment} {project : Project} {guarded : Bool} {conditions : Conditions}
  {exchanges : List Exchange} {ensured : Ensured}

/-! ## The calls -/

/-- Either a pass lists the roles at most, or its removals are its last calls, one for each
entry that linking adds and in the order of these. -/
def RemovesLast (project : Project) (exchanges : List Exchange) : Prop :=
  (∀ exchange ∈ exchanges, exchange.question = .listRoles project.id) ∨
    ∃ remote rest others, exchanges = ⟨.listRoles project.id, .ok remote⟩ :: rest ∧
      rest.map Program.Exchange.question = others ++
        (removals project.spec.declared remote).map (fun status =>
          .deauthorizeRole project.id status.roleId status.provider) ∧
      ∀ call ∈ others, call.operation ≠ .deauthorizeRole

/-- The step of a declared integration removes nothing. -/
theorem operation_ne_of_mem_placed {owner : String} {desired : List Integration}
    {remote : List Role} {call : Call}
    (h : call ∈ (placed desired remote).filterMap (callOf? owner)) :
    call.operation ≠ .deauthorizeRole := by
  obtain ⟨status, hstatus, hown⟩ := List.mem_filterMap.mp h
  exact fun hremoves => move_ne_remove_of_mem_placed hstatus ((move_eq_of_callOf? hown).2 hremoves)

theorem removesLast_of_trace (h : (ensure now project guarded conditions).Trace exchanges ensured) :
    RemovesLast project exchanges := by
  have hlisted (reply : Call.Reply (.listRoles project.id)) :
      RemovesLast project [⟨.listRoles project.id, reply⟩] :=
    .inl (List.forall_mem_singleton.mpr rfl)
  cases trace_ensure h with
  | idle => exact .inl (List.forall_mem_nil _)
  | unread error => exact hlisted _
  | undecided remote error => exact hlisted _
  | refused remote => exact hlisted _
  | cleared remote => exact hlisted _
  | @aligned remote rest statuses _ _ hsync =>
      have hplan := questions_eq_plan hsync
      refine .inr ⟨remote, rest, (placed project.spec.declared remote).filterMap
        (callOf? project.id), rfl, ?_, fun call => operation_ne_of_mem_placed⟩
      rw [hplan, plan, removals_eq, List.map_map]
      rfl

/-- Whatever is declared and listed, the removals stand behind the declared entries, and their
ids ascend if and only if they are not inverted.  The removals of every pass, whatever the
cloud replies, are its last calls and follow the entries. -/
theorem removals_ascend_iff (desired : List Integration) (remote : List Role)
    (h : (ensure now project guarded conditions).Trace exchanges ensured) :
    Arranged desired remote ∧ RemovesLast project exchanges :=
  ⟨arranged desired remote, removesLast_of_trace h⟩

/-- A project that declares one role. -/
def oneRole : Project where
  metadata := .new "one-role"
  spec := { name := "one-role", accessRoles := [], integrations := [⟨"AWS", "arn:1"⟩] }
  status := { id := "p", conditions := .empty, integrations := [] }

/-- A cloud in which the first role is claimed for it, and the other two are left over. -/
def leftoverCloud : MemoryCloud :=
  ((MemoryCloud.empty.addRole "p" "AWS" "").addRole "p" "AWS" "").addRole "p" "AWS" "arn:9"

/-- The pass removes the two in this order, as they are inverted. -/
theorem removals_leftoverCloud :
    ∃ exchanges ensured, (ensure creationTime oneRole false .empty).Trace exchanges ensured ∧
      (removals oneRole.spec.declared (leftoverCloud.rolesOf "p")).map Status.roleId =
        ["role-0003", "role-0002"] ∧
      Inverted (removals oneRole.spec.declared (leftoverCloud.rolesOf "p")) ∧
      RemovesLast oneRole exchanges := by
  obtain ⟨exchanges, htrace, -⟩ :=
    execution_run (ensure creationTime oneRole false .empty) leftoverCloud
  obtain ⟨harranged, hlast⟩ :=
    removals_ascend_iff oneRole.spec.declared (leftoverCloud.rolesOf "p") htrace
  have hids : (removals oneRole.spec.declared (leftoverCloud.rolesOf "p")).map Status.roleId =
      ["role-0003", "role-0002"] := by cbv
  have hfalls : ¬Ascending ["role-0003", "role-0002"] := by decide
  rw [← hids, harranged.ascending_iff, Classical.not_not] at hfalls
  exact ⟨exchanges, _, htrace, hids, hfalls, hlast⟩

/-- So it is not true that the ids of the removals ascend. -/
theorem not_forall_removals_ascend :
    ¬∀ (desired : List Integration) (remote : List Role),
      Ascending ((removals desired remote).map Status.roleId) := by
  intro hall
  have hids : (removals [] [bareRole "AWS" "r1" "", bareRole "AWS" "r2" "arn:9"]).map
      Status.roleId = ["r2", "r1"] := by cbv
  have hfalls : ¬Ascending ["r2", "r1"] := by decide
  exact hfalls (hids ▸ hall [] [bareRole "AWS" "r1" "", bareRole "AWS" "r2" "arn:9"])

end Integrations

end CloudSteward
