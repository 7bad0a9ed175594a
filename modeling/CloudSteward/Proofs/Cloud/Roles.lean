import CloudSteward.Proofs.Cloud.Execution
import Mathlib.Data.List.Nodup
import Mathlib.Tactic.Common

/-!
# Invariants of the roles

The cloud counts the roles that it creates and names each by its number, so in a
cloud that started empty no two roles share an identifier, across all projects
(`Numbered`).  A role gets its date together with its `arn` (`Dated`).  A call about
one project leaves the roles of the others alone (`Answers.rolesOf_eq`).
-/

namespace CloudSteward.MemoryCloud

variable {cloud after : MemoryCloud}

/-! ## Names of numbers -/

/-- The leading zeros do not change the number, so its digits can be read back. -/
theorem ofDigitChars_fourDigits (number : Nat) :
    Nat.ofDigitChars 10 (fourDigits number).toList 0 = number := by
  unfold fourDigits
  rw [String.toList_ofList, Nat.ofDigitChars_append, Nat.ofDigitChars_replicate_zero, Nat.mul_zero,
    Nat.ofDigitChars_ten_toDigits]

theorem roleIdOf_injective {first second : Nat} (h : roleIdOf first = roleIdOf second) :
    first = second := by
  have hdigits : fourDigits first = fourDigits second := by
    apply String.ext
    have hlists := congrArg String.toList h
    simpa [roleIdOf] using hlists
  rw [← ofDigitChars_fourDigits first, hdigits, ofDigitChars_fourDigits]

theorem roleIdOf_ne_empty (number : Nat) : roleIdOf number ≠ "" := by
  intro h
  have hlists := congrArg String.toList h
  simp [roleIdOf] at hlists

/-! ## Changing one entry -/

section ChangeFirst

variable {α β : Type} {test : α → Bool} {change : α → α} {entries : List α}

theorem map_changeFirst (key : α → β) (hkey : ∀ entry, key (change entry) = key entry) :
    (changeFirst test change entries).map key = entries.map key := by
  induction entries with
  | nil => rfl
  | cons first rest ih =>
      simp only [changeFirst]
      split
      · simp [hkey]
      · simp [ih]

theorem filter_changeFirst {keep : α → Bool} (hkeep : ∀ entry, keep (change entry) = keep entry)
    (hdrop : ∀ entry, test entry = true → keep entry = false) :
    (changeFirst test change entries).filter keep = entries.filter keep := by
  induction entries with
  | nil => rfl
  | cons first rest ih =>
      simp only [changeFirst]
      split
      case isTrue htest => simp [hkeep, hdrop first htest]
      case isFalse => simp [List.filter_cons, ih]

theorem mem_changeFirst {entry : α} (h : entry ∈ changeFirst test change entries) :
    entry ∈ entries ∨ ∃ old ∈ entries, test old = true ∧ entry = change old := by
  induction entries with
  | nil => cases h
  | cons first rest ih =>
      simp only [changeFirst] at h
      split at h
      case isTrue htest =>
        rcases List.mem_cons.mp h with rfl | hrest
        · exact .inr ⟨first, List.mem_cons_self, htest, rfl⟩
        · exact .inl (List.mem_cons_of_mem _ hrest)
      case isFalse =>
        rcases List.mem_cons.mp h with rfl | hrest
        · exact .inl List.mem_cons_self
        · rcases ih hrest with hmem | ⟨old, hold, htest, heq⟩
          · exact .inl (List.mem_cons_of_mem _ hmem)
          · exact .inr ⟨old, List.mem_cons_of_mem _ hold, htest, heq⟩

theorem mem_changeFirst_of_not {entry : α} (hmem : entry ∈ entries) (htest : test entry = false) :
    entry ∈ changeFirst test change entries := by
  induction entries with
  | nil => cases hmem
  | cons first rest ih =>
      simp only [changeFirst]
      rcases List.mem_cons.mp hmem with rfl | hrest
      · simp [htest]
      · split
        · exact List.mem_cons_of_mem _ hrest
        · exact List.mem_cons_of_mem _ (ih hrest)

theorem change_mem_changeFirst {entry : α} (hmem : entry ∈ entries) (htest : test entry = true)
    (hunique : ∀ other ∈ entries, test other = true → other = entry) :
    change entry ∈ changeFirst test change entries := by
  induction entries with
  | nil => cases hmem
  | cons first rest ih =>
      simp only [changeFirst]
      split
      case isTrue hfirst =>
        rw [hunique first List.mem_cons_self hfirst]
        exact List.mem_cons_self
      case isFalse hfirst =>
        rcases List.mem_cons.mp hmem with rfl | hrest
        · exact absurd htest hfirst
        · exact List.mem_cons_of_mem _
            (ih hrest fun other hother => hunique other (List.mem_cons_of_mem _ hother))

end ChangeFirst

/-! ## Numbered clouds -/

/-- Every role is named by a number that was given out, and no two by the same. -/
structure Numbered (cloud : MemoryCloud) : Prop where
  numbers : ∀ entry ∈ cloud.roles,
    ∃ number, number ≤ cloud.created ∧ entry.2.roleId = roleIdOf number
  distinct : (cloud.roles.map fun entry => entry.2.roleId).Nodup

namespace Numbered

theorem empty : MemoryCloud.empty.Numbered where
  numbers _ hentry := absurd hentry List.not_mem_nil
  distinct := List.nodup_nil

/-- A role is determined by its identifier, and so is its project. -/
theorem entry_eq (h : cloud.Numbered) {first second : String × Role} (hfirst : first ∈ cloud.roles)
    (hsecond : second ∈ cloud.roles) (hid : first.2.roleId = second.2.roleId) : first = second :=
  List.inj_on_of_nodup_map h.distinct hfirst hsecond hid

theorem role_eq (h : cloud.Numbered) {project : String} {first second : Role}
    (hfirst : first ∈ cloud.rolesOf project) (hsecond : second ∈ cloud.rolesOf project)
    (hid : first.roleId = second.roleId) : first = second :=
  (Prod.mk.inj (h.entry_eq (mem_rolesOf_iff.mp hfirst) (mem_rolesOf_iff.mp hsecond) hid)).2

theorem roleId_ne_empty (h : cloud.Numbered) {project : String} {role : Role}
    (hrole : role ∈ cloud.rolesOf project) : role.roleId ≠ "" := by
  obtain ⟨number, _, hid⟩ := h.numbers _ (mem_rolesOf_iff.mp hrole)
  have hid : role.roleId = roleIdOf number := hid
  rw [hid]
  exact roleIdOf_ne_empty number

theorem nodup_rolesOf (h : cloud.Numbered) (project : String) :
    ((cloud.rolesOf project).map Role.roleId).Nodup := by
  unfold rolesOf
  rw [List.map_map]
  exact h.distinct.sublist (List.filter_sublist.map _)

/-- The next role gets a name that no role has. -/
theorem upcoming_fresh (h : cloud.Numbered) {entry : String × Role} (hentry : entry ∈ cloud.roles)
    (provider arn : String) : entry.2.roleId ≠ (cloud.upcomingRole provider arn).roleId := by
  obtain ⟨number, hle, hid⟩ := h.numbers entry hentry
  rw [hid]
  intro heq
  have hnumber : number = cloud.created + 1 := roleIdOf_injective heq
  omega

theorem of_sameRoles (h : cloud.Numbered) (hsame : cloud.SameRoles after) : after.Numbered where
  numbers := by
    rw [hsame.roles_eq, hsame.created_eq]
    exact h.numbers
  distinct := by
    rw [hsame.roles_eq]
    exact h.distinct

/-- Adding the role that comes next keeps the roles numbered. -/
theorem append (h : cloud.Numbered) {project provider arn : String}
    (hroles : after.roles = cloud.roles ++ [(project, cloud.upcomingRole provider arn)])
    (hcreated : after.created = cloud.created + 1) : after.Numbered where
  numbers entry hentry := by
    rw [hroles] at hentry
    rw [hcreated]
    rcases List.mem_append.mp hentry with hold | hnew
    · obtain ⟨number, hle, hid⟩ := h.numbers entry hold
      exact ⟨number, by omega, hid⟩
    · obtain rfl := List.mem_singleton.mp hnew
      exact ⟨cloud.created + 1, Nat.le_refl _, rfl⟩
  distinct := by
    rw [hroles, List.map_append, List.nodup_append]
    refine ⟨h.distinct, List.nodup_singleton _, ?_⟩
    intro id hid other hother
    obtain ⟨entry, hentry, rfl⟩ := List.mem_map.mp hid
    obtain rfl := List.mem_singleton.mp hother
    exact h.upcoming_fresh hentry provider arn

theorem addRole (h : cloud.Numbered) (project provider arn : String) :
    (cloud.addRole project provider arn).Numbered :=
  h.append rfl rfl

theorem step (h : cloud.Numbered) {exchange : Exchange}
    (heffect : cloud.RolesAfter exchange after) :
    after.Numbered := by
  cases heffect with
  | failed call error hsame => exact h.of_sameRoles hsame
  | listed project hsame => exact h.of_sameRoles hsame
  | foreign hleaves hsame => exact h.of_sameRoles hsame
  | created project provider hroles hcreated => exact h.append hroles hcreated
  | authorized arn hmem hroles hcreated =>
      -- An authorized role keeps its identifier.
      refine ⟨fun entry hentry => ?_, ?_⟩
      · rw [hroles] at hentry
        rw [hcreated]
        rcases mem_changeFirst hentry with hold | ⟨old, hold, _, rfl⟩
        · exact h.numbers entry hold
        · exact h.numbers old hold
      · have hkey (entry : String × Role) :
            (entry.1, entry.2.granted arn).2.roleId = entry.2.roleId := rfl
        rw [hroles, map_changeFirst (fun entry : String × Role => entry.2.roleId) hkey]
        exact h.distinct
  | removed hmem hroles hcreated =>
      refine ⟨fun entry hentry => ?_, ?_⟩
      · rw [hroles] at hentry
        rw [hcreated]
        exact h.numbers entry (List.mem_of_mem_filter hentry)
      · rw [hroles]
        exact h.distinct.sublist (List.filter_sublist.map _)

theorem answers (h : cloud.Numbered) {exchanges : List Exchange}
    (hanswers : cloud.Answers exchanges after) : after.Numbered :=
  hanswers.preserves Numbered (fun _ => True) (fun hsame hcloud => hcloud.of_sameRoles hsame)
    (fun _ heffect hcloud => hcloud.step heffect) (fun _ _ => trivial) h

theorem execution {α : Type} {program : CloudProgram α} {value : α} (h : cloud.Numbered)
    (hexecution : cloud.Execution program value after) : after.Numbered := by
  obtain ⟨exchanges, _, hanswers⟩ := hexecution
  exact h.answers hanswers

end Numbered

/-! ## Dated roles -/

/-- A role has a date exactly if it has an `arn`. -/
def Dated (cloud : MemoryCloud) : Prop :=
  ∀ entry ∈ cloud.roles, entry.2.isAuthorized = true ↔ entry.2.arn ≠ ""

namespace Dated

theorem empty : MemoryCloud.empty.Dated := by
  intro entry hentry
  cases hentry

theorem isAuthorized_iff (h : cloud.Dated) {project : String} {role : Role}
    (hrole : role ∈ cloud.rolesOf project) : role.isAuthorized = true ↔ role.arn ≠ "" :=
  h _ (mem_rolesOf_iff.mp hrole)

theorem of_sameRoles (h : cloud.Dated) (hsame : cloud.SameRoles after) : after.Dated := by
  unfold Dated
  rw [hsame.roles_eq]
  exact h

theorem append (h : cloud.Dated) {project provider arn : String}
    (hroles : after.roles = cloud.roles ++ [(project, cloud.upcomingRole provider arn)]) :
    after.Dated := by
  intro entry hentry
  rw [hroles] at hentry
  rcases List.mem_append.mp hentry with hold | hnew
  · exact h entry hold
  · obtain rfl := List.mem_singleton.mp hnew
    by_cases harn : arn = ""
    · simp [upcomingRole, Role.isAuthorized, harn]
    · simp [upcomingRole, Role.isAuthorized, harn]

theorem addRole (h : cloud.Dated) (project provider arn : String) :
    (cloud.addRole project provider arn).Dated :=
  h.append rfl

/-- Only an authorization without an `arn` would leave a date without one. -/
theorem step (h : cloud.Dated) {exchange : Exchange} (heffect : cloud.RolesAfter exchange after)
    (hauthorize : ∀ project roleId provider,
      exchange.question ≠ .authorizeRole project roleId provider "") : after.Dated := by
  cases heffect with
  | failed call error hsame => exact h.of_sameRoles hsame
  | listed project hsame => exact h.of_sameRoles hsame
  | foreign hleaves hsame => exact h.of_sameRoles hsame
  | created project provider hroles _ => exact h.append hroles
  | @authorized _ project role arn hmem hroles _ =>
      have harn : arn ≠ "" := by
        rintro rfl
        exact hauthorize project role.roleId role.provider rfl
      intro entry hentry
      rw [hroles] at hentry
      rcases mem_changeFirst hentry with hold | ⟨old, _, _, rfl⟩
      · exact h entry hold
      · simp [Role.granted, Role.isAuthorized, harn]
  | removed hmem hroles _ =>
      intro entry hentry
      rw [hroles] at hentry
      exact h entry (List.mem_of_mem_filter hentry)

end Dated

/-! ## Roles that a call does not touch -/

/-- Whether a call may change the roles of a project. -/
def touches (project : String) : Call → Bool
  | .createRole owner _ => owner = project
  | .authorizeRole owner _ _ _ => owner = project
  | .deauthorizeRole owner _ _ => owner = project
  | _ => false

theorem RolesAfter.rolesOf_eq {exchange : Exchange} (h : cloud.RolesAfter exchange after)
    {project : String} (huntouched : touches project exchange.question = false) :
    after.rolesOf project = cloud.rolesOf project := by
  cases h with
  | failed call error hsame => exact hsame.rolesOf_eq project
  | listed owner hsame => exact hsame.rolesOf_eq project
  | foreign hleaves hsame => exact hsame.rolesOf_eq project
  | created owner provider hroles _ =>
      have howner : owner ≠ project := by simpa [touches] using huntouched
      unfold rolesOf
      rw [hroles, List.filter_append]
      simp [howner]
  | @authorized _ owner role arn hmem hroles _ =>
      have howner : owner ≠ project := by simpa [touches] using huntouched
      unfold rolesOf
      rw [hroles]
      refine congrArg (List.map Prod.snd) (filter_changeFirst (fun _ => rfl) ?_)
      intro entry hentry
      have hentry : entry.1 = owner := (isRole_eq_true_iff.mp hentry).1
      simp [hentry, howner]
  | @removed _ owner role hmem hroles _ =>
      have howner : owner ≠ project := by simpa [touches] using huntouched
      unfold rolesOf
      rw [hroles, List.filter_filter]
      congr 1
      apply List.filter_congr
      intro entry _
      by_cases hentry : entry.1 = project
      · simp [isRole, hentry, Ne.symm howner]
      · simp [hentry]

/-- Calls about other projects leave the roles of a project as they are. -/
theorem Answers.rolesOf_eq {exchanges : List Exchange} (h : cloud.Answers exchanges after)
    {project : String}
    (huntouched : ∀ exchange ∈ exchanges, touches project exchange.question = false) :
    after.rolesOf project = cloud.rolesOf project :=
  h.preserves (fun other => other.rolesOf project = cloud.rolesOf project)
    (fun exchange => touches project exchange.question = false)
    (fun hsame heq => (hsame.rolesOf_eq project).trans heq)
    (fun huntouched heffect heq => (heffect.rolesOf_eq huntouched).trans heq) huntouched rfl

end CloudSteward.MemoryCloud
