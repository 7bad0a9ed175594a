import CloudSteward.Proofs.Integrations.Repetition

/-!
# What identifiers tell apart

Provider and `arn` are compared as one text, with a dot between them.  Where the names have dots
of their own, the text does not say where the provider ends: two pairs make the same text if they
are the same pair, or if what stands between two dots belongs to the provider of one and to the
`arn` of the other (`Shifted`, `sharedIdentifier_eq_iff`).  Without a dot in the providers the
text stands for the pair (`Confusable.eq_of_dotless`).

Linking, differences and deletion protection know things by this text only.  So a declared
integration is linked to a role with an `arn` exactly if the two may be confused and no role with
a later id may be confused with it, too (`linkedTo_iff_confusable`).
-/

namespace CloudSteward

/-! ## The seam -/

/-- Where two texts are cut at a mark, they are cut at the same place, or the cut of one is at a
mark within the part of the other. -/
theorem append_mark_eq_iff {α : Type} {mark : α} {front rear first second : List α} :
    front ++ mark :: rear = first ++ mark :: second ↔
      (front = first ∧ rear = second) ∨
        (∃ middle, first = front ++ mark :: middle ∧ rear = middle ++ mark :: second) ∨
        ∃ middle, front = first ++ mark :: middle ∧ second = middle ++ mark :: rear := by
  rw [List.append_eq_append_iff]
  constructor
  · rintro (⟨extra, hfirst, hrest⟩ | ⟨extra, hfront, hrest⟩)
    · rcases List.cons_eq_append_iff.mp hrest with ⟨rfl, heq⟩ | ⟨middle, rfl, hrear⟩
      · obtain ⟨-, rfl⟩ := List.cons.inj heq
        exact .inl ⟨by simpa using hfirst.symm, rfl⟩
      · exact .inr (.inl ⟨middle, hfirst, hrear⟩)
    · rcases List.cons_eq_append_iff.mp hrest with ⟨rfl, heq⟩ | ⟨middle, rfl, hsecond⟩
      · obtain ⟨-, rfl⟩ := List.cons.inj heq
        exact .inl ⟨by simpa using hfront, rfl⟩
      · exact .inr (.inr ⟨middle, hfront, hsecond⟩)
  · rintro (⟨rfl, rfl⟩ | ⟨middle, rfl, rfl⟩ | ⟨middle, rfl, rfl⟩)
    · exact .inl ⟨[], by simp, rfl⟩
    · exact .inl ⟨mark :: middle, rfl, rfl⟩
    · exact .inr ⟨mark :: middle, rfl, rfl⟩

/-- What stands between two dots belongs to the `arn` of the first pair and to the provider of
the second one. -/
def Shifted (provider arn other otherArn : String) : Prop :=
  ∃ middle, other = provider ++ "." ++ middle ∧ arn = middle ++ "." ++ otherArn

/-- Two pairs of a provider and an `arn` are the same, or a part of one name is taken for a part
of the other. -/
def Confusable (provider arn other otherArn : String) : Prop :=
  (provider = other ∧ arn = otherArn) ∨
    Shifted provider arn other otherArn ∨ Shifted other otherArn provider arn

variable {provider arn other otherArn : String}

theorem shifted_iff_toList :
    Shifted provider arn other otherArn ↔
      ∃ middle, other.toList = provider.toList ++ '.' :: middle ∧
        arn.toList = middle ++ '.' :: otherArn.toList := by
  constructor
  · rintro ⟨middle, rfl, rfl⟩
    exact ⟨middle.toList, by simp, by simp⟩
  · rintro ⟨middle, hother, harn⟩
    refine ⟨String.ofList middle, ?_, ?_⟩
    · apply String.ext
      simp [hother]
    · apply String.ext
      simp [harn]

/-- Joined with a dot, two pairs make the same text exactly if they may be confused. -/
theorem join_eq_iff :
    provider ++ "." ++ arn = other ++ "." ++ otherArn ↔ Confusable provider arn other otherArn := by
  have hlists : provider ++ "." ++ arn = other ++ "." ++ otherArn ↔
      provider.toList ++ '.' :: arn.toList = other.toList ++ '.' :: otherArn.toList := by
    rw [← String.toList_inj]
    simp
  unfold Confusable
  rw [hlists, append_mark_eq_iff, String.toList_inj, String.toList_inj, shifted_iff_toList,
    shifted_iff_toList]

/-- Two identifiers are equal exactly if both are empty, or neither is and the pairs may be
confused. -/
theorem sharedIdentifier_eq_iff :
    sharedIdentifier provider arn = sharedIdentifier other otherArn ↔
      (arn = "" ∧ otherArn = "") ∨
        (arn ≠ "" ∧ otherArn ≠ "" ∧ Confusable provider arn other otherArn) := by
  by_cases harn : arn = ""
  · have hempty : sharedIdentifier provider arn = "" := sharedIdentifier_eq_empty_iff.mpr harn
    rw [hempty, eq_comm, sharedIdentifier_eq_empty_iff]
    simp [harn]
  · by_cases hother : otherArn = ""
    · have hempty : sharedIdentifier other otherArn = "" :=
        sharedIdentifier_eq_empty_iff.mpr hother
      rw [hempty, sharedIdentifier_eq_empty_iff]
      simp [harn, hother]
    · unfold sharedIdentifier
      rw [if_neg harn, if_neg hother, join_eq_iff]
      simp [harn, hother]

/-- A shift makes the provider of one pair longer than that of the other. -/
theorem Shifted.dot_mem (h : Shifted provider arn other otherArn) : '.' ∈ other.toList := by
  obtain ⟨middle, hother, _⟩ := shifted_iff_toList.mp h
  rw [hother]
  simp

theorem Shifted.provider_ne (h : Shifted provider arn other otherArn) : provider ≠ other := by
  rintro rfl
  obtain ⟨middle, hother, _⟩ := shifted_iff_toList.mp h
  simp at hother

/-- Providers without a dot are told apart, and so are the `arn`s. -/
theorem Confusable.eq_of_dotless (h : Confusable provider arn other otherArn)
    (hprovider : '.' ∉ provider.toList) (hother : '.' ∉ other.toList) :
    provider = other ∧ arn = otherArn := by
  rcases h with hsame | hshifted | hshifted
  · exact hsame
  · exact absurd hshifted.dot_mem hother
  · exact absurd hshifted.dot_mem hprovider

namespace Linking

/-! ## What is linked, and what is known -/

variable {desired : List Integration} {remote : List Role} {integration : Integration}
  {role : Role} {index : Nat}

/-- The status of a declared integration shows a role. -/
def LinkedTo (desired : List Integration) (remote : List Role) (index : Nat) (role : Role) : Prop :=
  ∃ status, (statuses desired remote)[index]? = some status ∧ status.roleId = role.roleId

/-- The status of a declared integration is the one that it is placed with. -/
theorem getElem?_statuses (hdesired : desired[index]? = some integration) :
    (statuses desired remote)[index]? = (placed desired remote)[index]? := by
  have hlength : (placed desired remote).length = desired.length :=
    (forall₂_standsFor desired remote).length_eq.symm
  rw [statuses_eq, List.getElem?_append_left]
  rw [hlength]
  exact (List.getElem?_eq_some_iff.mp hdesired).1

section Regular

variable (hdistinct : (remote.map Role.roleId).Nodup) (hnamed : ∀ role ∈ remote, role.roleId ≠ "")
  (hdesired : desired[index]? = some integration) (hrole : role ∈ remote) (hvisible : role.arn ≠ "")

include hdistinct hnamed hdesired hrole hvisible

/-- A declared integration shows a role that has an `arn` exactly if of the roles with its
identifier this is the one whose id comes last. -/
theorem linkedTo_iff_latest :
    LinkedTo desired remote index role ↔ Latest remote (identifier integration) role := by
  unfold LinkedTo
  rw [getElem?_statuses hdesired, getElem?_placed hnamed, hdesired, Option.map_some]
  constructor
  · rintro ⟨status, hstatus, hid⟩
    obtain rfl := Option.some.inj hstatus
    by_cases hknown : knownAmong integration remote = true
    · obtain ⟨latest, hlatest, heq⟩ := exists_latest_of_known hknown
      rw [if_pos hknown, heq] at hid
      obtain rfl := List.inj_on_of_nodup_map hdistinct hlatest.mem hrole hid
      exact hlatest
    · -- Only roles without an `arn` are claimed.
      rw [if_neg hknown] at hid
      cases hturn : ((sortRoles remote).filter fun role => role.arn = "")[
          (difference (desired.take index) remote).length]? with
      | none =>
          rw [hturn] at hid
          exact absurd hid.symm (hnamed role hrole)
      | some claimed =>
          rw [hturn] at hid
          obtain ⟨hmem, hfree⟩ := mem_free_iff.mp (List.mem_of_getElem? hturn)
          obtain rfl := List.inj_on_of_nodup_map hdistinct hmem hrole hid
          exact absurd hfree hvisible
  · intro hlatest
    have hid : identifier integration ≠ "" :=
      hlatest.identifier_eq ▸ Role.identifier_ne_empty_iff.mpr hvisible
    have hknown : knownAmong integration remote = true :=
      knownAmong_eq_true_iff.mpr ⟨hid, role, hrole, hlatest.identifier_eq⟩
    rw [if_pos hknown, linkExact_of_latest hdistinct hid hlatest]
    exact ⟨_, rfl, rfl⟩

end Regular

/-- A role has the identifier of an integration. -/
theorem identifier_eq_iff (harn : integration.arn ≠ "") :
    identifier role = identifier integration ↔ role.arn ≠ "" ∧
      Confusable integration.provider integration.arn role.provider role.arn := by
  rw [eq_comm, Integration.identifier_eq, Role.identifier_eq, sharedIdentifier_eq_iff]
  simp [harn]

/-- What is made of the names of a declared integration with an `arn`, in place of comparing them
one by one. -/
structure Compared (desired : List Integration) (remote : List Role) (index : Nat)
    (integration : Integration) : Prop where
  /-- Its identifier is that of all pairs that it may be confused with. -/
  identifier_iff : ∀ provider arn,
    identifier integration = sharedIdentifier provider arn ↔
      arn ≠ "" ∧ Confusable integration.provider integration.arn provider arn
  /-- It is known among the roles if it may be confused with one of those that have an `arn`. -/
  known_iff : knownAmong integration remote = true ↔
    ∃ role ∈ remote, role.arn ≠ "" ∧
      Confusable integration.provider integration.arn role.provider role.arn
  /-- It is linked to the last one of these, in the order of the ids. -/
  linked_iff : ∀ role ∈ remote, role.arn ≠ "" →
    (LinkedTo desired remote index role ↔
      Confusable integration.provider integration.arn role.provider role.arn ∧
        ∀ other ∈ remote, other.arn ≠ "" →
          Confusable integration.provider integration.arn other.provider other.arn →
            other.roleId ≤ role.roleId)
  /-- The link is to a role of the same names exactly if nothing is shifted. -/
  exact_iff : ∀ role ∈ remote, role.arn ≠ "" → LinkedTo desired remote index role →
    ((integration.provider = role.provider ∧ integration.arn = role.arn) ↔
      ¬Shifted integration.provider integration.arn role.provider role.arn ∧
        ¬Shifted role.provider role.arn integration.provider integration.arn)
  /-- Among providers without a dot every link is to a role of the same names. -/
  exact_of_dotless : '.' ∉ integration.provider.toList → ∀ role ∈ remote, role.arn ≠ "" →
    '.' ∉ role.provider.toList → LinkedTo desired remote index role →
      integration.provider = role.provider ∧ integration.arn = role.arn

section Declared

variable (hdistinct : (remote.map Role.roleId).Nodup) (hnamed : ∀ role ∈ remote, role.roleId ≠ "")
  (hdesired : desired[index]? = some integration)

include hdistinct hnamed hdesired

theorem linkedTo_iff_confusable (harn : integration.arn ≠ "") (hrole : role ∈ remote)
    (hvisible : role.arn ≠ "") :
    LinkedTo desired remote index role ↔
      Confusable integration.provider integration.arn role.provider role.arn ∧
        ∀ other ∈ remote, other.arn ≠ "" →
          Confusable integration.provider integration.arn other.provider other.arn →
            other.roleId ≤ role.roleId := by
  rw [linkedTo_iff_latest hdistinct hnamed hdesired hrole hvisible]
  constructor
  · intro hlatest
    refine ⟨((identifier_eq_iff harn).mp hlatest.identifier_eq).2, ?_⟩
    intro other hother hseen hconfusable
    exact hlatest.roleId_le other hother ((identifier_eq_iff harn).mpr ⟨hseen, hconfusable⟩)
  · rintro ⟨hconfusable, hlast⟩
    refine ⟨hrole, (identifier_eq_iff harn).mpr ⟨hvisible, hconfusable⟩, ?_⟩
    intro other hother hsame
    obtain ⟨hseen, hother_confusable⟩ := (identifier_eq_iff harn).mp hsame
    exact hlast other hother hseen hother_confusable

/-- Identifiers stand for provider and `arn` up to a shift, and so do all comparisons. -/
theorem compared_of_declared (harn : integration.arn ≠ "") :
    Compared desired remote index integration where
  identifier_iff := by
    intro provider arn
    rw [Integration.identifier_eq, sharedIdentifier_eq_iff]
    simp [harn]
  known_iff := by
    rw [knownAmong_eq_true_iff, and_iff_right (Integration.identifier_ne_empty_iff.mpr harn)]
    simp only [identifier_eq_iff harn]
  linked_iff := by
    intro role hrole hvisible
    exact linkedTo_iff_confusable hdistinct hnamed hdesired harn hrole hvisible
  exact_iff := by
    intro role hrole hvisible hlinked
    have hconfusable :=
      ((linkedTo_iff_confusable hdistinct hnamed hdesired harn hrole hvisible).mp hlinked).1
    constructor
    · rintro ⟨hprovider, _⟩
      exact ⟨fun hshifted => hshifted.provider_ne hprovider,
        fun hshifted => hshifted.provider_ne hprovider.symm⟩
    · rintro ⟨hahead, hbehind⟩
      exact hconfusable.resolve_right fun hshifted => hshifted.elim hahead hbehind
  exact_of_dotless := by
    intro hprovider role hrole hvisible hother hlinked
    have hconfusable :=
      ((linkedTo_iff_confusable hdistinct hnamed hdesired harn hrole hvisible).mp hlinked).1
    exact hconfusable.eq_of_dotless hprovider hother

end Declared

/-- A role whose provider ends with what another `arn` starts with. -/
def dottedRole : Role :=
  bareRole "AWS.x" "r1" "y"

/-- So a declared integration is linked to a role of another provider and with another `arn`. -/
theorem linkedTo_dottedRole : LinkedTo [⟨"AWS", "x.y"⟩] [dottedRole] 0 dottedRole := by
  have hcompared : Compared [⟨"AWS", "x.y"⟩] [dottedRole] 0 ⟨"AWS", "x.y"⟩ :=
    compared_of_declared (by decide) (by decide) rfl (by decide)
  have hshifted : Shifted "AWS" "x.y" "AWS.x" "y" := ⟨"x", by decide, by decide⟩
  refine (hcompared.linked_iff dottedRole List.mem_cons_self (by decide)).mpr ⟨?_, ?_⟩
  · exact .inr (.inl hshifted)
  · intro other hother _ _
    obtain rfl := List.mem_singleton.mp hother
    exact le_refl _

/-- It is not true that a link to a role with an `arn` is always to one of the same names. -/
theorem not_forall_names_eq :
    ¬∀ (desired : List Integration) (remote : List Role) (index : Nat) (integration : Integration)
      (role : Role), (remote.map Role.roleId).Nodup → (∀ role ∈ remote, role.roleId ≠ "") →
      desired[index]? = some integration → integration.arn ≠ "" → role ∈ remote → role.arn ≠ "" →
      LinkedTo desired remote index role →
        integration.provider = role.provider ∧ integration.arn = role.arn := by
  intro hall
  have hlinked : (statuses [⟨"AWS", "x.y"⟩] [dottedRole])[0]? =
      some ((declare ⟨"AWS", "x.y"⟩).linked dottedRole) := by
    cbv
  have hsame := hall [⟨"AWS", "x.y"⟩] [dottedRole] 0 ⟨"AWS", "x.y"⟩ dottedRole (by decide)
    (by decide) rfl (by decide) List.mem_cons_self (by decide) ⟨_, hlinked, rfl⟩
  exact absurd hsame.1 (by decide)

end Linking

end CloudSteward
