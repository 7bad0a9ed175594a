import CloudSteward.Proofs.Cloud.History
import CloudSteward.Proofs.Cloud.RoleIds
import CloudSteward.Proofs.Integrations.Conservation

/-!
# In which order roles are claimed

Declared integrations without a role claim the roles that have no `arn` in the order of their
ids, and are meant to claim them in the order in which the cloud created them.  Both orders are
read off the numbers of the roles.

* Of two roles that are there, the one with the smaller number was created first
  (`createdBefore_iff`): a number is given out once, so a role that was not there at some time
  and is there later has a number that was not given out at that time (`mem_roleIds_append`).
* The ids are sorted as texts, and there a role may overtake an earlier one (`roleIdOf_lt_iff`).

So claims follow the order of creation as long as no role overtakes another (`inOrder_iff`),
which none does before there are 10000 of them.
-/

namespace CloudSteward

namespace MemoryCloud

/-! ## The order of creation -/

/-- The ids of the roles that are there, in all projects. -/
def roleIds (cloud : MemoryCloud) : List String :=
  cloud.roles.map fun entry => entry.2.roleId

theorem mem_roleIds_of_mem_rolesOf {cloud : MemoryCloud} {project : String}
    {role : Role} (h : role ∈ cloud.rolesOf project) : role.roleId ∈ cloud.roleIds :=
  List.mem_map_of_mem (f := fun entry : String × Role => entry.2.roleId) (mem_rolesOf_iff.mp h)

/-- The first role was there at a time at which the second one was not. -/
def CreatedBefore (history : List Happening) (first second : String) : Prop :=
  ∃ earlier later, history = earlier ++ later ∧
    first ∈ (ofHistory earlier).roleIds ∧ second ∉ (ofHistory earlier).roleIds

/-- What becomes of the ids when something happens: the next one is added, or none is. -/
inductive IdsAfter (cloud after : MemoryCloud) : Prop where
  | numbered : after.created = cloud.created + 1 →
      after.roleIds = cloud.roleIds ++ [roleIdOf (cloud.created + 1)] → IdsAfter cloud after
  | remaining : after.created = cloud.created → after.roleIds ⊆ cloud.roleIds →
      IdsAfter cloud after

section Step

variable {cloud after : MemoryCloud}

theorem idsAfter_of_sameRoles (h : cloud.SameRoles after) : cloud.IdsAfter after := by
  refine .remaining h.created_eq ?_
  unfold roleIds
  rw [h.roles_eq]
  exact List.Subset.refl _

theorem idsAfter_of_append {project provider arn : String}
    (hroles : after.roles = cloud.roles ++ [(project, cloud.upcomingRole provider arn)])
    (hcreated : after.created = cloud.created + 1) : cloud.IdsAfter after := by
  refine .numbered hcreated ?_
  unfold roleIds
  rw [hroles, List.map_append]
  rfl

theorem RolesAfter.idsAfter {exchange : Exchange} (h : cloud.RolesAfter exchange after) :
    cloud.IdsAfter after := by
  cases h with
  | failed _ _ hsame => exact idsAfter_of_sameRoles hsame
  | listed _ hsame => exact idsAfter_of_sameRoles hsame
  | foreign _ hsame => exact idsAfter_of_sameRoles hsame
  | created _ _ hroles hcreated => exact idsAfter_of_append hroles hcreated
  | authorized arn _ hroles hcreated =>
      refine .remaining hcreated ?_
      have hkey (entry : String × Role) :
          (entry.1, entry.2.granted arn).2.roleId = entry.2.roleId := rfl
      unfold roleIds
      rw [hroles, map_changeFirst (fun entry : String × Role => entry.2.roleId) hkey]
      exact List.Subset.refl _
  | removed _ hroles hcreated =>
      refine .remaining hcreated ?_
      unfold roleIds
      rw [hroles]
      exact List.map_subset _ List.filter_sublist.subset

theorem idsAfter_apply (cloud : MemoryCloud) (happening : Happening) :
    cloud.IdsAfter (happening.apply cloud) := by
  cases happening with
  | added project provider arn => exact idsAfter_of_append rfl rfl
  | ordered operation detail => exact idsAfter_of_sameRoles ⟨rfl, rfl⟩
  | called call => exact (rolesAfter_answer call cloud).idsAfter

theorem Numbered.exists_of_mem_roleIds (h : cloud.Numbered) {id : String}
    (hid : id ∈ cloud.roleIds) : ∃ number ≤ cloud.created, id = roleIdOf number := by
  obtain ⟨entry, hentry, rfl⟩ := List.mem_map.mp hid
  exact h.numbers entry hentry

/-- The number of a role that is there was given out. -/
theorem Numbered.le_created (h : cloud.Numbered) {number : Nat}
    (hid : roleIdOf number ∈ cloud.roleIds) : number ≤ cloud.created := by
  obtain ⟨known, hle, heq⟩ := h.exists_of_mem_roleIds hid
  obtain rfl := roleIdOf_injective heq
  exact hle

end Step

section Order

variable {history earlier later : List Happening} {first second number : Nat}

theorem created_mono (earlier later : List Happening) :
    (ofHistory earlier).created ≤ (ofHistory (earlier ++ later)).created := by
  induction later using List.reverseRecOn with
  | nil => rw [List.append_nil]
  | append_singleton later happening ih =>
      rw [← List.append_assoc, ofHistory_concat]
      cases idsAfter_apply (ofHistory (earlier ++ later)) happening with
      | numbered hcreated _ => omega
      | remaining hcreated _ => omega

/-- A role that is there was there before, or its number was not given out yet. -/
theorem mem_roleIds_append (h : roleIdOf number ∈ (ofHistory (earlier ++ later)).roleIds) :
    roleIdOf number ∈ (ofHistory earlier).roleIds ∨ (ofHistory earlier).created < number := by
  induction later using List.reverseRecOn with
  | nil => exact .inl (by rwa [List.append_nil] at h)
  | append_singleton later happening ih =>
      rw [← List.append_assoc, ofHistory_concat] at h
      cases idsAfter_apply (ofHistory (earlier ++ later)) happening with
      | remaining _ hids => exact ih (hids h)
      | numbered _ hids =>
          rw [hids] at h
          rcases List.mem_append.mp h with hold | hnew
          · exact ih hold
          · have hnumber : number = (ofHistory (earlier ++ later)).created + 1 :=
              roleIdOf_injective (List.mem_singleton.mp hnew)
            have hmono := created_mono earlier later
            exact .inr (by omega)

theorem CreatedBefore.append {first second : String} (h : CreatedBefore history first second)
    (later : List Happening) : CreatedBefore (history ++ later) first second := by
  obtain ⟨before, after, rfl, hfirst, hsecond⟩ := h
  exact ⟨before, after ++ later, List.append_assoc _ _ _, hfirst, hsecond⟩

/-- Something has happened at which the first role was there and the second one came. -/
theorem createdBefore_of_lt (hfirst : roleIdOf first ∈ (ofHistory history).roleIds)
    (hsecond : roleIdOf second ∈ (ofHistory history).roleIds) (hlt : first < second) :
    CreatedBefore history (roleIdOf first) (roleIdOf second) := by
  induction history using List.reverseRecOn with
  | nil => cases hfirst
  | append_singleton history happening ih =>
      rw [ofHistory_concat] at hfirst hsecond
      have hnumbered := numbered_ofHistory history
      cases idsAfter_apply (ofHistory history) happening with
      | remaining _ hids => exact (ih (hids hfirst) (hids hsecond)).append _
      | numbered _ hids =>
          -- The first role was there already: the number of the new one is above all others.
          rw [hids, List.mem_append, List.mem_singleton] at hfirst hsecond
          have hcreated : second ≤ (ofHistory history).created + 1 := by
            rcases hsecond with hold | hnew
            · exact Nat.le_succ_of_le (hnumbered.le_created hold)
            · exact (roleIdOf_injective hnew).le
          have hthere : roleIdOf first ∈ (ofHistory history).roleIds := by
            refine hfirst.resolve_right fun hnew => ?_
            have hnumber := roleIdOf_injective hnew
            omega
          by_cases hold : roleIdOf second ∈ (ofHistory history).roleIds
          · exact (ih hthere hold).append _
          · exact ⟨history, [happening], rfl, hthere, hold⟩

/-- Of two roles that are there, the one with the smaller number was created first. -/
theorem createdBefore_iff (hfirst : roleIdOf first ∈ (ofHistory history).roleIds)
    (hsecond : roleIdOf second ∈ (ofHistory history).roleIds) :
    CreatedBefore history (roleIdOf first) (roleIdOf second) ↔ first < second := by
  refine ⟨?_, createdBefore_of_lt hfirst hsecond⟩
  rintro ⟨earlier, later, rfl, hthere, hmissing⟩
  calc
    first ≤ (ofHistory earlier).created := (numbered_ofHistory earlier).le_created hthere
    _ < second := (mem_roleIds_append hsecond).resolve_left hmissing

end Order

end MemoryCloud

namespace Linking

open MemoryCloud

/-! ## The order of claims -/

/-- The free roles, in the order in which they are offered. -/
def offered (remote : List Role) : List Role :=
  (sortRoles remote).filter fun role => role.arn = ""

/-- The roles that are claimed: one for each status that waits, from the front. -/
def claimed (desired : List Integration) (remote : List Role) : List Role :=
  (offered remote).take (waiting (matched desired remote))

theorem claimed_append_unclaimed (desired : List Integration) (remote : List Role) :
    claimed desired remote ++ unclaimed desired remote = offered remote := by
  have hleft : unclaimed desired remote =
      (offered remote).drop (waiting (matched desired remote)) := left_claim _ _
  rw [hleft]
  exact List.take_append_drop _ _

/-- The statuses that wait take the claimed roles, one after the other. -/
theorem claims_claimed (desired : List Integration) (remote : List Role) :
    Claims (matched desired remote) (claimed desired remote) (placed desired remote) := by
  obtain ⟨picked, hoffered, hclaims⟩ := exists_picked desired remote
  have hsplit : picked ++ unclaimed desired remote =
      claimed desired remote ++ unclaimed desired remote :=
    hoffered.symm.trans (claimed_append_unclaimed desired remote).symm
  obtain rfl := List.append_cancel_right hsplit
  exact hclaims

/-- The roles stand in the order in which they were created. -/
def InOrder (history : List Happening) (roles : List Role) : Prop :=
  roles.Pairwise fun first second => CreatedBefore history first.roleId second.roleId

/-- Two of the roles have numbers of which the later one overtakes. -/
def Overtaken (roles : List Role) : Prop :=
  ∃ later ∈ roles, ∃ earlier ∈ roles, ∃ number other,
    later.roleId = roleIdOf number ∧ earlier.roleId = roleIdOf other ∧ Overtakes number other

section Order

variable {history : List Happening} {roles remote : List Role}

/-- Of sorted roles that stand in the order of their creation, the one with the smaller id was
created first. -/
theorem InOrder.createdBefore (horder : InOrder history roles)
    (hsorted : roles.Pairwise fun first second => first.roleId < second.roleId)
    {first second : Role} (hfirst : first ∈ roles) (hsecond : second ∈ roles)
    (hids : first.roleId < second.roleId) : CreatedBefore history first.roleId second.roleId := by
  have hahead : roles.Pairwise fun one other =>
      one.roleId < other.roleId → CreatedBefore history one.roleId other.roleId := by
    refine List.Pairwise.imp ?_ horder
    intro one other hcreated _
    exact hcreated
  have hbehind : roles.Pairwise fun one other =>
      other.roleId < one.roleId → CreatedBefore history other.roleId one.roleId :=
    hsorted.imp fun hlt hgt => absurd hgt (String.lt_asymm hlt)
  exact hahead.forall_of_forall_of_flip (fun _ _ hlt => absurd hlt (String.lt_irrefl _)) hbehind
    hfirst hsecond hids

/-- Roles that are sorted by their ids stand in the order of their creation unless one of them
overtakes another. -/
theorem inOrder_iff
    (hsorted : roles.Pairwise fun first second => first.roleId < second.roleId)
    (hthere : ∀ role ∈ roles, role.roleId ∈ (ofHistory history).roleIds) :
    InOrder history roles ↔ ¬Overtaken roles := by
  constructor
  · rintro horder ⟨later, hlater, earlier, hearlier, number, other, hnumber, hother, hovertakes⟩
    have hids : later.roleId < earlier.roleId := by
      rw [hnumber, hother]
      exact (roleIdOf_lt_iff hovertakes.1).mpr hovertakes
    have hcreated := horder.createdBefore hsorted hlater hearlier hids
    have hlater := hthere later hlater
    have hearlier := hthere earlier hearlier
    rw [hnumber] at hlater hcreated
    rw [hother] at hearlier hcreated
    exact Nat.lt_asymm hovertakes.1 ((createdBefore_iff hlater hearlier).mp hcreated)
  · intro hnone
    refine hsorted.imp_of_mem ?_
    intro first second hfirst hsecond hids
    have hnumbered := numbered_ofHistory history
    obtain ⟨number, _, hnumber⟩ := hnumbered.exists_of_mem_roleIds (hthere first hfirst)
    obtain ⟨other, _, hother⟩ := hnumbered.exists_of_mem_roleIds (hthere second hsecond)
    have hlt : number < other := by
      rcases Nat.lt_trichotomy number other with hlt | rfl | hgt
      · exact hlt
      · rw [hnumber, hother] at hids
        exact absurd hids (String.lt_irrefl _)
      · rw [hnumber, hother] at hids
        exact absurd ⟨first, hfirst, second, hsecond, number, other, hnumber, hother,
          (roleIdOf_lt_iff hgt).mp hids⟩ hnone
    have hfirst := hthere first hfirst
    have hsecond := hthere second hsecond
    rw [hnumber] at hfirst ⊢
    rw [hother] at hsecond ⊢
    exact (createdBefore_iff hfirst hsecond).mpr hlt

/-- A role that overtakes has one of the numbers from 10000 on, which was given out. -/
theorem created_of_overtaken (hthere : ∀ role ∈ roles, role.roleId ∈ (ofHistory history).roleIds)
    (h : Overtaken roles) : 10 ^ 4 ≤ (ofHistory history).created := by
  obtain ⟨later, hlater, _, _, number, _, hnumber, _, hovertakes⟩ := h
  calc
    10 ^ 4 ≤ number := hovertakes.le
    _ ≤ (ofHistory history).created :=
      (numbered_ofHistory history).le_created (hnumber ▸ hthere later hlater)

/-- Free roles are offered with ascending ids. -/
theorem pairwise_offered (hdistinct : (remote.map Role.roleId).Nodup) :
    (offered remote).Pairwise fun first second => first.roleId < second.roleId := by
  have hnodup : (sortRoles remote).Pairwise fun first second => first.roleId ≠ second.roleId := by
    have hsorted := ((sortRoles_perm remote).map Role.roleId).nodup_iff.mpr hdistinct
    exact List.pairwise_map.mp hsorted
  have hboth := (pairwise_sortRoles remote).and hnodup
  refine (hboth.imp ?_).sublist List.filter_sublist
  rintro first second ⟨hle, hne⟩
  exact String.not_le.mp fun hge => hne (String.le_antisymm hle hge)

end Order

/-! ## Claims in the order of creation -/

/-- When the roles that a project was given are claimed in the order in which they were created. -/
structure ClaimedInTurn (history : List Happening) (remote : List Role)
    (desired : List Integration) : Prop where
  /-- The statuses that wait for a role take the claimed ones, one after the other. -/
  claims : Claims (matched desired remote) (claimed desired remote) (placed desired remote)
  /-- What is left are the last ones of those that are offered. -/
  left : claimed desired remote ++ unclaimed desired remote = offered remote
  /-- The claimed roles come in the order of their creation exactly if none of them overtakes
  another. -/
  claimed_iff : InOrder history (claimed desired remote) ↔ ¬Overtaken (claimed desired remote)
  /-- And so do all roles that are offered, so that those created last are left. -/
  offered_iff : InOrder history (offered remote) ↔ ¬Overtaken (offered remote)
  /-- None overtakes before there is a number with five digits. -/
  offered_of_created : (ofHistory history).created < 10 ^ 4 → InOrder history (offered remote)

/-- Whatever has happened to the cloud, and whatever is declared: the order in which roles are
claimed is that in which they were created, unless one of them overtakes another. -/
theorem claimedInTurn_ofHistory (history : List Happening) (project : String)
    (desired : List Integration) :
    ClaimedInTurn history ((ofHistory history).rolesOf project) desired := by
  have hsorted := pairwise_offered ((numbered_ofHistory history).nodup_rolesOf project)
  have hthere : ∀ role ∈ offered ((ofHistory history).rolesOf project),
      role.roleId ∈ (ofHistory history).roleIds := fun role hrole =>
    mem_roleIds_of_mem_rolesOf (mem_free_iff.mp hrole).1
  have hqueue : (claimed desired ((ofHistory history).rolesOf project)).Sublist
      (offered ((ofHistory history).rolesOf project)) := List.take_sublist _ _
  have hoffered := inOrder_iff hsorted hthere
  exact
    { claims := claims_claimed _ _
      left := claimed_append_unclaimed _ _
      claimed_iff := inOrder_iff (hsorted.sublist hqueue)
        fun role hrole => hthere role (hqueue.subset hrole)
      offered_iff := hoffered
      offered_of_created := by
        intro hfew
        refine hoffered.mpr fun hovertaken => ?_
        exact absurd (created_of_overtaken hthere hovertaken) (Nat.not_le.mpr hfew) }

/-! ## The ten thousandth role -/

/-- A project is given two roles after others have been given some. -/
def crowded (count : Nat) : List Happening :=
  List.replicate count (.added "q" "AWS" "") ++ [.added "p" "AWS" "", .added "p" "AWS" ""]

/-- The role that the cloud creates with a number. -/
def blankRole (number : Nat) : Role where
  provider := "AWS"
  roleId := roleIdOf number
  arn := ""
  accountArn
  externalId := "external-" ++ toString number
  created := some creationTime
  authorized := none
  usages := []

theorem rolesOf_added (cloud : MemoryCloud) (owner project : String) :
    (cloud.addRole owner "AWS" "").rolesOf project =
      if owner = project then cloud.rolesOf project ++ [blankRole (cloud.created + 1)]
      else cloud.rolesOf project := by
  unfold rolesOf addRole
  rw [List.filter_append, List.map_append]
  by_cases howner : owner = project
  · rw [if_pos howner]
    simp [howner, upcomingRole, blankRole]
  · simp [howner]

theorem ofHistory_crowd (count : Nat) :
    (ofHistory (List.replicate count (.added "q" "AWS" ""))).created = count ∧
      (ofHistory (List.replicate count (.added "q" "AWS" ""))).rolesOf "p" = [] := by
  induction count with
  | zero => exact ⟨rfl, rfl⟩
  | succ count ih =>
      obtain ⟨hcreated, hroles⟩ := ih
      rw [List.replicate_succ', ofHistory_concat]
      refine ⟨congrArg (· + 1) hcreated, ?_⟩
      exact (rolesOf_added _ "q" "p").trans hroles

/-- The two roles have the numbers behind those of the others. -/
theorem rolesOf_crowded (count : Nat) :
    (ofHistory (crowded count)).rolesOf "p" = [blankRole (count + 1), blankRole (count + 2)] := by
  obtain ⟨hcreated, hroles⟩ := ofHistory_crowd count
  have hsplit : crowded count =
      List.replicate count (.added "q" "AWS" "") ++ [.added "p" "AWS" ""] ++
        [.added "p" "AWS" ""] := by
    simp [crowded]
  rw [hsplit, ofHistory_concat, ofHistory_concat]
  simp only [Happening.apply]
  rw [rolesOf_added, rolesOf_added, hroles]
  simp [addRole, hcreated]

/-- They were not created in the reverse order. -/
theorem not_inOrder_crowded (count : Nat) :
    ¬InOrder (crowded count) [blankRole (count + 2), blankRole (count + 1)] := by
  intro horder
  have hthere (role : Role) (hrole : role ∈ [blankRole (count + 1), blankRole (count + 2)]) :
      role.roleId ∈ (ofHistory (crowded count)).roleIds := by
    rw [← rolesOf_crowded count] at hrole
    exact mem_roleIds_of_mem_rolesOf hrole
  have hreverse : CreatedBefore (crowded count) (roleIdOf (count + 2)) (roleIdOf (count + 1)) :=
    (List.pairwise_cons.mp horder).1 _ List.mem_cons_self
  have hlt := (createdBefore_iff (hthere (blankRole (count + 2)) (by simp))
    (hthere (blankRole (count + 1)) (by simp))).mp hreverse
  omega

/-- Two roles that are declared. -/
def claimants : List Integration :=
  [⟨"AWS", "arn:1"⟩, ⟨"AWS", "arn:2"⟩]

theorem sortRoles_pair (first second : Role) :
    sortRoles [first, second] =
      if first.roleId ≤ second.roleId then [first, second] else [second, first] := by
  by_cases hle : first.roleId ≤ second.roleId
  · simp [sortRoles, List.mergeSort, hle]
  · simp [sortRoles, List.mergeSort, hle]

/-- Both are claimed, in the order in which they are sorted. -/
theorem claimed_of_sorted {remote : List Role} {first second : Nat}
    (hsorted : sortRoles remote = [blankRole first, blankRole second]) :
    claimed claimants remote = [blankRole first, blankRole second] := by
  have hoffered : offered remote = [blankRole first, blankRole second] := by
    unfold offered
    rw [hsorted]
    rfl
  have hwaiting : waiting (matched claimants remote) = 2 := by
    unfold matched
    rw [hsorted]
    rfl
  unfold claimed
  rw [hoffered, hwaiting]
  rfl

/-- The first two roles of a cloud are claimed in the order of their creation. -/
theorem inOrder_claimed_first :
    claimed claimants ((ofHistory (crowded 0)).rolesOf "p") = [blankRole 1, blankRole 2] ∧
      InOrder (crowded 0) [blankRole 1, blankRole 2] := by
  have hsorted : sortRoles ((ofHistory (crowded 0)).rolesOf "p") = [blankRole 1, blankRole 2] := by
    rw [rolesOf_crowded, sortRoles_pair]
    exact if_pos (by decide)
  have hfew : (ofHistory (crowded 0)).created < 10 ^ 4 := by
    decide
  have horder := (claimedInTurn_ofHistory (crowded 0) "p" claimants).offered_of_created hfew
  unfold offered at horder
  rw [hsorted] at horder
  exact ⟨claimed_of_sorted hsorted, horder⟩

/-- So it is not true that roles are always claimed in the order of their creation: of the last
role with four digits and the first one with five, the later one is claimed first. -/
theorem not_forall_inOrder_claimed :
    ¬∀ (history : List Happening) (project : String) (desired : List Integration),
      InOrder history (claimed desired ((ofHistory history).rolesOf project)) := by
  intro hall
  have horder := hall (crowded 9998) "p" claimants
  have hids : ¬roleIdOf 9999 ≤ roleIdOf 10000 := by
    decide
  have hsorted : sortRoles ((ofHistory (crowded 9998)).rolesOf "p") =
      [blankRole 10000, blankRole 9999] := by
    rw [rolesOf_crowded, sortRoles_pair]
    exact if_neg hids
  rw [claimed_of_sorted hsorted] at horder
  exact not_inOrder_crowded 9998 horder

end Linking

end CloudSteward
