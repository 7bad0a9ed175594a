import CloudSteward.Proofs.Integrations.Linking

/-!
# Linking neither loses nor shares a role

Claiming is a queue: the statuses that wait for a role take the free ones from its
front, one each, so what the queue gives to a status is settled by how many wait before
it (`getElem?_claim`), and what is left of it by how many wait at all (`left_claim`).
A status waits exactly if nothing is known of its integration
(`isLinked_linkExact`), which makes both numbers a difference of the declared
integrations and the roles.

The rest is counting.  The claimed roles, the visible ones and those that are left free
are all roles, each once (`parts_perm`); so a free role is in one status, a removal or
that of the integration that claimed it (`count_free`), and a visible role is removed
unless it is declared.  `Conserved` puts this together.
-/

namespace CloudSteward.Linking

/-! ## Claiming as a queue -/

/-- How many statuses wait for a role to claim. -/
def waiting (statuses : List Status) : Nat :=
  statuses.countP fun status => !status.isLinked

theorem waiting_cons (status : Status) (rest : List Status) :
    waiting (status :: rest) = (if status.isLinked then 0 else 1) + waiting rest := by
  unfold waiting
  rw [List.countP_cons]
  cases status.isLinked <;> simp [Nat.add_comm]

/-- Every waiting status takes one role from the front. -/
theorem left_claim (statuses : List Status) (free : List Role) :
    (claim statuses free).2 = free.drop (waiting statuses) := by
  induction statuses generalizing free with
  | nil => simp [claim, waiting]
  | cons status rest ih =>
      cases free with
      | nil => simp [claim]
      | cons role free =>
          rw [waiting_cons]
          unfold claim
          by_cases hlinked : status.isLinked = true
          · rw [if_pos hlinked, if_pos hlinked, Nat.zero_add]
            exact ih (role :: free)
          · rw [if_neg hlinked, if_neg hlinked, Nat.add_comm, List.drop_succ_cons]
            exact ih free

/-- A waiting status takes the role behind those that the earlier ones took, if there
is one. -/
theorem getElem?_claim (statuses : List Status) (free : List Role) (index : Nat) :
    (claim statuses free).1[index]? = statuses[index]?.map fun status =>
      if status.isLinked then status
      else (free[waiting (statuses.take index)]?).elim status status.linked := by
  induction statuses generalizing free index with
  | nil => simp [claim]
  | cons status rest ih =>
      cases free with
      | nil => simp [claim]
      | cons role free =>
          unfold claim
          by_cases hlinked : status.isLinked = true
          · rw [if_pos hlinked]
            cases index with
            | zero => simp [hlinked]
            | succ index =>
                simp only [List.getElem?_cons_succ, List.take_succ_cons, waiting_cons, hlinked,
                  if_true, Nat.zero_add]
                exact ih (role :: free) index
          · rw [if_neg hlinked]
            cases index with
            | zero => simp [hlinked, waiting]
            | succ index =>
                simp only [List.getElem?_cons_succ, List.take_succ_cons, waiting_cons, hlinked,
                  Bool.false_eq_true, if_false, Nat.add_comm 1]
                exact ih free index

/-! ## Who waits -/

section Places

variable {desired : List Integration} {remote : List Role}

theorem knownAmong_eq_false_iff {integration : Integration} :
    knownAmong integration remote = false ↔ Unknown remote integration := by
  rw [← Bool.not_eq_true, knownAmong_eq_true_iff, not_and_or, Classical.not_not]
  simp [Unknown]

/-- An integration that is known is linked to a role with its identifier. -/
theorem linkExact_of_known {integration : Integration}
    (hknown : knownAmong integration remote = true) :
    ∃ role ∈ remote, identifier role = identifier integration ∧
      linkExact (sortRoles remote) (declare integration) = (declare integration).linked role := by
  rcases linkExact_cases (sortRoles remote) integration with
    ⟨_, role, hmem, hsame, heq⟩ | ⟨hunknown, _⟩
  · exact ⟨role, mem_sortRoles_iff.mp hmem, hsame, heq⟩
  · have hunknown : knownAmong integration remote = false :=
      knownAmong_eq_false_iff.mpr (hunknown.imp_right fun hne role hrole =>
        hne role (mem_sortRoles_iff.mpr hrole))
    exact absurd (hunknown.symm.trans hknown) (by decide)

/-- One that is not stays as declared until it claims a role. -/
theorem linkExact_of_unknown {integration : Integration}
    (hunknown : knownAmong integration remote = false) :
    linkExact (sortRoles remote) (declare integration) = declare integration := by
  rcases linkExact_cases (sortRoles remote) integration with ⟨hid, role, hmem, hsame, _⟩ | ⟨_, heq⟩
  · have hknown : knownAmong integration remote = true :=
      knownAmong_eq_true_iff.mpr ⟨hid, role, mem_sortRoles_iff.mp hmem, hsame⟩
    exact absurd (hknown.symm.trans hunknown) (by decide)
  · exact heq

/-- A declared integration is linked before roles are claimed exactly if it is known. -/
theorem isLinked_linkExact (hnamed : ∀ role ∈ remote, role.roleId ≠ "")
    (integration : Integration) :
    (linkExact (sortRoles remote) (declare integration)).isLinked =
      knownAmong integration remote := by
  cases hknown : knownAmong integration remote with
  | true =>
      obtain ⟨role, hrole, _, heq⟩ := linkExact_of_known hknown
      have harn : integration.arn ≠ "" :=
        Integration.identifier_ne_empty_iff.mp (knownAmong_eq_true_iff.mp hknown).1
      rw [heq]
      simp [Status.isLinked, Status.linked, declare, Status.new, harn, hnamed role hrole]
  | false =>
      rw [linkExact_of_unknown hknown]
      simp [Status.isLinked, declare, Status.new]

theorem waiting_matched (hnamed : ∀ role ∈ remote, role.roleId ≠ "")
    (desired : List Integration) :
    waiting (matched desired remote) = (difference desired remote).length := by
  unfold waiting matched difference
  rw [List.map_map, List.countP_map, ← List.countP_eq_length_filter]
  refine congrArg (List.countP · desired) (funext fun integration => ?_)
  exact congrArg (! ·) (isLinked_linkExact hnamed integration)

/-- Which role a declared integration of which nothing is known gets depends on how many
of these are before it. -/
theorem getElem?_placed (hnamed : ∀ role ∈ remote, role.roleId ≠ "") (index : Nat) :
    (placed desired remote)[index]? = desired[index]?.map fun integration =>
      if knownAmong integration remote then linkExact (sortRoles remote) (declare integration)
      else (((sortRoles remote).filter fun role => role.arn = "")[
        (difference (desired.take index) remote).length]?).elim (declare integration)
          (declare integration).linked := by
  have htake : (matched desired remote).take index = matched (desired.take index) remote := by
    unfold matched
    rw [List.map_take, List.map_take]
  unfold placed
  rw [getElem?_claim, htake, waiting_matched hnamed]
  unfold matched
  rw [List.getElem?_map, List.getElem?_map, Option.map_map, Option.map_map]
  congr 1
  funext integration
  simp only [Function.comp_apply, isLinked_linkExact hnamed]
  by_cases hknown : knownAmong integration remote = true
  · rw [if_pos hknown, if_pos hknown]
  · rw [if_neg hknown, if_neg hknown, linkExact_of_unknown (Bool.not_eq_true _ ▸ hknown)]

theorem length_free (remote : List Role) :
    ((sortRoles remote).filter fun role => role.arn = "").length =
      remote.countP fun role => role.arn = "" := by
  rw [← List.countP_eq_length_filter]
  exact (sortRoles_perm remote).countP_eq _

theorem length_unclaimed (hnamed : ∀ role ∈ remote, role.roleId ≠ "") :
    (unclaimed desired remote).length =
      (remote.countP fun role => role.arn = "") - (difference desired remote).length := by
  unfold unclaimed
  rw [left_claim, List.length_drop, waiting_matched hnamed, length_free]

/-! ## What becomes of the roles -/

theorem phase_linked_ne_new (status : Status) (role : Role) :
    (status.linked role).phase ≠ .new := by
  unfold Status.linked
  cases role.isAuthorized <;> simp

/-- A status is new exactly if its integration had no role, and no free role was left
when its turn came. -/
theorem phase_eq_new_iff (hnamed : ∀ role ∈ remote, role.roleId ≠ "") {index : Nat}
    {integration : Integration} (hdesired : desired[index]? = some integration) {status : Status}
    (hstatus : (placed desired remote)[index]? = some status) :
    status.phase = .new ↔ Unknown remote integration ∧
      (remote.countP fun role => role.arn = "") ≤
        (difference (desired.take index) remote).length := by
  rw [getElem?_placed hnamed, hdesired, Option.map_some, Option.some.injEq] at hstatus
  rw [← knownAmong_eq_false_iff, ← length_free]
  by_cases hknown : knownAmong integration remote = true
  · rw [if_pos hknown] at hstatus
    subst hstatus
    refine iff_of_false ?_ fun h => Bool.false_ne_true (h.1.symm.trans hknown)
    obtain ⟨role, _, _, heq⟩ := linkExact_of_known hknown
    rw [heq]
    exact phase_linked_ne_new _ role
  · rw [if_neg hknown] at hstatus
    subst hstatus
    have hunknown : knownAmong integration remote = false := Bool.not_eq_true _ ▸ hknown
    rw [and_iff_right hunknown, ← List.getElem?_eq_none_iff]
    cases hturn : ((sortRoles remote).filter fun role => role.arn = "")[
        (difference (desired.take index) remote).length]? with
    | none => exact iff_of_true rfl rfl
    | some role => exact iff_of_false (phase_linked_ne_new _ role) (by simp)

/-- Claiming puts the identifiers of the claimed roles into statuses that had none. -/
theorem Claims.count_roleId {before claimed : List Status} {picked : List Role}
    (h : Claims before picked claimed)
    (hblank : ∀ status ∈ before, status.isLinked = false → status.roleId = "") {id : String}
    (hid : id ≠ "") :
    (claimed.map Status.roleId).count id =
      (before.map Status.roleId).count id + (picked.map Role.roleId).count id := by
  induction h with
  | done => rfl
  | kept _ ih =>
      have hrest := ih (List.forall_mem_cons.mp hblank).2
      rw [List.map_cons, List.map_cons, List.count_cons, List.count_cons, hrest]
      omega
  | @taken status role rest claimed picked hlinked _ ih =>
      obtain ⟨hfirst, hothers⟩ := List.forall_mem_cons.mp hblank
      have hstatus : status.roleId ≠ id := by
        rw [hfirst hlinked]
        exact hid.symm
      have hrole : (status.linked role).roleId = role.roleId := rfl
      rw [List.map_cons, List.map_cons, List.map_cons, List.count_cons, List.count_cons,
        List.count_cons, ih hothers, hrole, beq_false_of_ne hstatus]
      simp only [Bool.false_eq_true, if_false]
      omega

/-- A status that waits has no role yet. -/
theorem roleId_of_waiting (hnamed : ∀ role ∈ remote, role.roleId ≠ "") {status : Status}
    (hstatus : status ∈ matched desired remote) (hwaits : status.isLinked = false) :
    status.roleId = "" := by
  obtain ⟨start, hstart, rfl⟩ := List.mem_map.mp hstatus
  obtain ⟨integration, _, rfl⟩ := List.mem_map.mp hstart
  rw [isLinked_linkExact hnamed] at hwaits
  rw [linkExact_of_unknown hwaits]
  rfl

section Free

variable (hdistinct : (remote.map Role.roleId).Nodup) {role : Role} (hrole : role ∈ remote)
  (harn : role.arn = "")

include hdistinct hrole harn

/-- Exact links are to visible roles, so before claiming no status has a free one. -/
theorem roleId_not_mem_matched (hnamed : ∀ role ∈ remote, role.roleId ≠ "")
    (desired : List Integration) :
    role.roleId ∉ (matched desired remote).map Status.roleId := by
  intro hmem
  obtain ⟨status, hstatus, hid⟩ := List.mem_map.mp hmem
  obtain ⟨start, hstart, rfl⟩ := List.mem_map.mp hstatus
  obtain ⟨integration, _, rfl⟩ := List.mem_map.mp hstart
  rcases linkExact_cases (sortRoles remote) integration with
    ⟨hknown, other, hother, hmatch, heq⟩ | ⟨_, heq⟩
  · rw [heq] at hid
    obtain rfl := List.inj_on_of_nodup_map hdistinct (mem_sortRoles_iff.mp hother) hrole hid
    exact Role.identifier_ne_empty_iff.mp (hmatch ▸ hknown) harn
  · rw [heq] at hid
    exact hnamed role hrole hid.symm

/-- Nor is a free role among the visible ones that nobody declared. -/
theorem roleId_not_mem_undeclared (desired : List Integration) :
    role.roleId ∉ (difference ((sortRoles remote).filter fun role => role.arn ≠ "")
      (placed desired remote)).map Role.roleId := by
  intro hmem
  obtain ⟨other, hother, hid⟩ := List.mem_map.mp hmem
  obtain ⟨hlisted, hseen⟩ := List.mem_filter.mp (mem_difference_iff.mp hother).1
  obtain rfl := List.inj_on_of_nodup_map hdistinct (mem_sortRoles_iff.mp hlisted) hrole hid
  simp [harn] at hseen

/-- There is one free role of its name. -/
theorem count_roleId_free :
    (((sortRoles remote).filter fun role => role.arn = "").map Role.roleId).count role.roleId =
      1 := by
  have hsorted : ((sortRoles remote).map Role.roleId).Nodup :=
    ((sortRoles_perm remote).map _).nodup_iff.mpr hdistinct
  refine List.count_eq_one_of_mem (hsorted.sublist (List.filter_sublist.map _)) ?_
  exact List.mem_map_of_mem (mem_free_iff.mpr ⟨hrole, harn⟩)

/-- A role without an `arn` is either claimed by one declared integration or removed by
one removal. -/
theorem count_free (hnamed : ∀ role ∈ remote, role.roleId ≠ "") (desired : List Integration) :
    ((placed desired remote).map Status.roleId).count role.roleId +
      ((surplus desired remote).map Role.roleId).count role.roleId = 1 := by
  obtain ⟨picked, hfree, hclaims⟩ := exists_picked desired remote
  have hmatched : ((matched desired remote).map Status.roleId).count role.roleId = 0 :=
    List.count_eq_zero.mpr (roleId_not_mem_matched hdistinct hrole harn hnamed desired)
  have hundeclared : ((difference ((sortRoles remote).filter fun role => role.arn ≠ "")
      (placed desired remote)).map Role.roleId).count role.roleId = 0 :=
    List.count_eq_zero.mpr (roleId_not_mem_undeclared hdistinct hrole harn desired)
  have hall := count_roleId_free hdistinct hrole harn
  rw [hfree, List.map_append, List.count_append] at hall
  unfold surplus
  rw [hclaims.count_roleId (fun _ => roleId_of_waiting hnamed) (hnamed role hrole), hmatched,
    List.map_append, List.count_append, hundeclared]
  omega

end Free

theorem nodup_surplus (hdistinct : (remote.map Role.roleId).Nodup) (desired : List Integration) :
    ((surplus desired remote).map Role.roleId).Nodup := by
  obtain ⟨picked, hfree, _⟩ := exists_picked desired remote
  have hall := ((parts_perm hfree).map Role.roleId).nodup_iff.mpr hdistinct
  exact hall.sublist (((surplus_sublist desired remote).trans
    (List.sublist_append_right picked _)).map _)

/-! ## Conservation -/

/-- What linking makes of declared integrations and roles: the statuses of the declared
integrations, and the removals. -/
structure Conserved (desired : List Integration) (remote : List Role)
    (declared removals : List Status) : Prop where
  /-- Every declared integration has a status that stands for it, in the declared order. -/
  entries : List.Forall₂ StandsFor desired declared
  /-- Only listed roles are removed. -/
  removed : ∀ removal ∈ removals, removal.phase = .deauthorize ∧
    ∃ role ∈ remote, removal = Status.removal role
  /-- No role is in use and removed. -/
  apart : ∀ status ∈ declared, ∀ removal ∈ removals, status.roleId ≠ removal.roleId
  /-- No role is removed twice. -/
  once : (removals.map Status.roleId).Nodup
  /-- A role with an `arn` is removed exactly if it is not declared. -/
  visible : ∀ role ∈ remote, role.arn ≠ "" →
    (role.roleId ∈ removals.map Status.roleId ↔
      ∀ integration ∈ desired, identifier integration ≠ identifier role)
  /-- A role without one is claimed by one integration, or removed once. -/
  free : ∀ role ∈ remote, role.arn = "" →
    ((declared.map Status.roleId).count role.roleId = 1 ∧
        role.roleId ∉ removals.map Status.roleId) ∨
      (role.roleId ∉ declared.map Status.roleId ∧
        (removals.map Status.roleId).count role.roleId = 1)
  /-- An integration stays new exactly if it had no role, and those before it without a
  role have used up the roles without an `arn`. -/
  fresh : ∀ (index : Nat) (integration : Integration) (status : Status),
    desired[index]? = some integration → declared[index]? = some status →
      (status.phase = .new ↔ Unknown remote integration ∧
        (remote.countP fun role => role.arn = "") ≤
          (difference (desired.take index) remote).length)
  /-- The removed roles without an `arn` are those that were too many. -/
  excess : (removals.countP fun removal => removal.arn = "") =
    (remote.countP fun role => role.arn = "") - (difference desired remote).length

/-- The removed roles without an `arn` are those that nobody claimed. -/
theorem countP_surplus (desired : List Integration) (remote : List Role) :
    (((surplus desired remote).map Status.removal).countP fun removal => removal.arn = "") =
      (unclaimed desired remote).length := by
  have hvisible : (difference ((sortRoles remote).filter fun role => role.arn ≠ "")
      (placed desired remote)).countP (fun role => role.arn = "") = 0 := by
    rw [List.countP_eq_zero]
    intro role hrole
    have hseen := (List.mem_filter.mp (mem_difference_iff.mp hrole).1).2
    simpa using hseen
  have hfree : (unclaimed desired remote).countP (fun role => role.arn = "") =
      (unclaimed desired remote).length := by
    rw [List.countP_eq_length]
    intro role hrole
    simpa using (mem_unclaimed hrole).2
  calc
    _ = (surplus desired remote).countP fun role => role.arn = "" := List.countP_map
    _ = _ := by
      unfold surplus
      rw [List.countP_append, hvisible, hfree, Nat.zero_add]

section Conserved

variable (hdistinct : (remote.map Role.roleId).Nodup)
  (hnamed : ∀ role ∈ remote, role.roleId ≠ "")

include hdistinct hnamed

/-- The role of a status is not surplus. -/
theorem roleId_ne_of_mem_surplus {status : Status} (hstatus : status ∈ placed desired remote)
    {role : Role} (hsurplus : role ∈ surplus desired remote) : status.roleId ≠ role.roleId := by
  obtain ⟨hrole, hreason⟩ := mem_surplus hsurplus
  intro hid
  by_cases harn : role.arn = ""
  · -- The role is counted among the removals, so no status has it.
    have hcount := count_free hdistinct hrole harn hnamed desired
    have hplaced : 0 < ((placed desired remote).map Status.roleId).count role.roleId :=
      List.count_pos_iff.mpr (hid ▸ List.mem_map_of_mem hstatus)
    have hremoved : 0 < ((surplus desired remote).map Role.roleId).count role.roleId :=
      List.count_pos_iff.mpr (List.mem_map_of_mem hsurplus)
    omega
  · have hsame {other : Role} (hother : other ∈ remote) (hid : other.roleId = role.roleId) :
        other = role := List.inj_on_of_nodup_map hdistinct hother hrole hid
    have hundeclared := hreason.resolve_left harn
    obtain ⟨integration, hintegration, hplacement⟩ :=
      exists_left_of_forall₂ (forall₂_placement hnamed) hstatus
    cases hplacement with
    | exact hother _ hmatch =>
        obtain rfl := hsame hother hid
        exact hundeclared integration hintegration hmatch.symm
    | claimed hother hfree _ =>
        obtain rfl := hsame hother hid
        exact harn hfree
    | fresh => exact hnamed role hrole hid.symm

/-- A visible role is surplus exactly if nobody declared it. -/
theorem mem_surplus_iff_of_visible {role : Role} (hrole : role ∈ remote) (harn : role.arn ≠ "") :
    role.roleId ∈ (surplus desired remote).map Role.roleId ↔
      ∀ integration ∈ desired, identifier integration ≠ identifier role := by
  constructor
  · intro hmem
    obtain ⟨other, hother, hid⟩ := List.mem_map.mp hmem
    obtain rfl := List.inj_on_of_nodup_map hdistinct (mem_surplus hother).1 hrole hid
    exact (mem_surplus hother).2.resolve_left harn
  · intro hundeclared
    rcases cases_of_mem_remote hnamed hrole with
      ⟨_, integration, hintegration, hmatch⟩ | ⟨hfree, _⟩ | hsurplus
    · exact absurd hmatch (hundeclared integration hintegration)
    · exact absurd hfree harn
    · exact List.mem_map_of_mem hsurplus

/-- If the roles have names of their own, linking loses none of them and uses none
twice, whatever is declared. -/
theorem exists_conserved_statuses (desired : List Integration) :
    ∃ declared removals, statuses desired remote = declared ++ removals ∧
      Conserved desired remote declared removals := by
  refine ⟨_, _, statuses_eq desired remote, ?_⟩
  refine {
    entries := forall₂_standsFor desired remote
    removed := ?_
    apart := ?_
    once := ?_
    visible := ?_
    free := ?_
    fresh := fun _ _ _ hdesired hstatus => phase_eq_new_iff hnamed hdesired hstatus
    excess := (countP_surplus desired remote).trans (length_unclaimed hnamed) }
  · intro removal hremoval
    obtain ⟨role, hrole, rfl⟩ := List.mem_map.mp hremoval
    exact ⟨rfl, role, (mem_surplus hrole).1, rfl⟩
  · intro status hstatus removal hremoval
    obtain ⟨role, hrole, rfl⟩ := List.mem_map.mp hremoval
    exact roleId_ne_of_mem_surplus hdistinct hnamed hstatus hrole
  · rw [roleIds_removal]
    exact nodup_surplus hdistinct desired
  · intro role hrole harn
    rw [roleIds_removal]
    exact mem_surplus_iff_of_visible hdistinct hnamed hrole harn
  · intro role hrole harn
    have hcount := count_free hdistinct hrole harn hnamed desired
    rw [roleIds_removal, ← List.count_eq_zero, ← List.count_eq_zero]
    omega

end Conserved

end Places

/-- A role with only what linking looks at. -/
def bareRole (provider roleId arn : String) : Role where
  provider
  roleId
  arn
  accountArn := ""
  externalId := ""
  created := none
  authorized := none
  usages := []

/-- Integrations of which two are the same, and two are unknown. -/
def crowdedDeclared : List Integration :=
  [⟨"AWS", "arn:1"⟩, ⟨"AWS", ""⟩, ⟨"AWS", "arn:1"⟩, ⟨"GCP", "arn:1"⟩]

/-- Roles of which two carry a declared identifier, one an undeclared one, and three none. -/
def crowdedRoles : List Role :=
  [bareRole "AWS" "r6" "", bareRole "AWS" "r2" "arn:1", bareRole "AWS" "r4" "",
    bareRole "AWS" "r1" "arn:1", bareRole "AWS" "r5" "", bareRole "AWS" "r3" "arn:9"]

/-- One free role is too many here, and is removed together with the undeclared one. -/
theorem conserved_crowded :
    ∃ declared removals, (crowdedRoles.map Role.roleId).Nodup ∧
      (∀ role ∈ crowdedRoles, role.roleId ≠ "") ∧
      statuses crowdedDeclared crowdedRoles = declared ++ removals ∧
      Conserved crowdedDeclared crowdedRoles declared removals := by
  have hdistinct : (crowdedRoles.map Role.roleId).Nodup := by decide
  have hnamed : ∀ role ∈ crowdedRoles, role.roleId ≠ "" := by decide
  obtain ⟨declared, removals, hstatuses, hconserved⟩ :=
    exists_conserved_statuses hdistinct hnamed crowdedDeclared
  exact ⟨declared, removals, hdistinct, hnamed, hstatuses, hconserved⟩

end CloudSteward.Linking
