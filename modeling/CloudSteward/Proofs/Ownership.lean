import CloudSteward.Ownership
import CloudSteward.Proofs.Integrations.Linking

/-!
# When a project owns its roles

Deletion protection lets a pass change the roles of a project in three cases, which
`Owned` spells out over the roles with an `arn`, the only ones that count.
`permitsProject_eq_ok_iff` says that the decision of the operator is just that,
provided that the specification on record can be read.
-/

namespace CloudSteward.Ownership

/-- The integrations that a specification on record stands for; none without one. -/
def recorded (snapshot : Option ProjectSpec) : List Integration :=
  match snapshot with
  | some spec => spec.declared
  | none => []

/-- The roles of a project may be changed: none is visible, or all visible ones were
applied last, or all declared integrations have a visible role. -/
def Owned (lastApplied current : List Integration) (remote : List Role) : Prop :=
  (∀ role ∈ remote, role.arn = "") ∨
    (∀ role ∈ remote, role.arn ≠ "" →
      ∃ integration ∈ lastApplied, identifier integration = identifier role) ∨
    ∀ integration ∈ current, integration.arn ≠ "" ∧
      ∃ role ∈ remote, role.arn ≠ "" ∧ identifier role = identifier integration

variable {lastApplied current : List Integration} {remote : List Role} {project : Project}

theorem difference_eq_nil_iff {α β : Type} [Identifiable α] [Identifiable β] {left : List α}
    {right : List β} :
    difference left right = [] ↔
      ∀ item ∈ left, identifier item ≠ "" ∧
        ∃ other ∈ right, identifier other = identifier item := by
  unfold difference
  rw [List.filter_eq_nil_iff]
  simp only [Bool.not_eq_true', Bool.not_eq_false, knownAmong_eq_true_iff]

/-- The decision over the visible roles, case by case. -/
theorem permits_visible_iff :
    permits true lastApplied current (remote.filter fun role => role.arn ≠ "") = true ↔
      Owned lastApplied current remote := by
  have hvisible : (remote.filter fun role => role.arn ≠ "").isEmpty = true ↔
      ∀ role ∈ remote, role.arn = "" := by
    rw [List.isEmpty_iff, List.filter_eq_nil_iff]
    simp
  have happlied :
      (difference (remote.filter fun role => role.arn ≠ "") lastApplied).isEmpty = true ↔
        ∀ role ∈ remote, role.arn ≠ "" →
          ∃ integration ∈ lastApplied, identifier integration = identifier role := by
    rw [List.isEmpty_iff, difference_eq_nil_iff]
    constructor
    · intro h role hrole harn
      exact (h role (List.mem_filter.mpr ⟨hrole, by simpa using harn⟩)).2
    · intro h role hrole
      obtain ⟨hmem, harn⟩ := List.mem_filter.mp hrole
      have harn : role.arn ≠ "" := by simpa using harn
      exact ⟨Role.identifier_ne_empty_iff.mpr harn, h role hmem harn⟩
  have hpresent :
      (difference current (remote.filter fun role => role.arn ≠ "")).isEmpty = true ↔
        ∀ integration ∈ current, integration.arn ≠ "" ∧
          ∃ role ∈ remote, role.arn ≠ "" ∧ identifier role = identifier integration := by
    rw [List.isEmpty_iff, difference_eq_nil_iff]
    refine forall₂_congr fun integration _ => and_congr Integration.identifier_ne_empty_iff ?_
    simp [and_assoc]
  unfold permits Owned
  rw [Bool.or_eq_true, Bool.or_eq_true, Bool.or_eq_true, hvisible, happlied, hpresent]
  simp [or_assoc]

/-- The operator decides if and only if it can read what is on record, and then it
permits a pass if and only if the roles are owned. -/
theorem permitsProject_eq_ok_iff {permitted : Bool} :
    permitsProject true project remote = .ok permitted ↔
      ∃ snapshot, project.metadata.applied ProjectSpec.codec = .ok snapshot ∧
        (permitted = true ↔ Owned (recorded snapshot) project.spec.declared remote) := by
  have hdecide (snapshot : Option ProjectSpec) (permitted : Bool) :
      permits true (recorded snapshot) project.spec.declared
          (remote.filter fun role => role.arn ≠ "") = permitted ↔
        (permitted = true ↔ Owned (recorded snapshot) project.spec.declared remote) := by
    rw [← permits_visible_iff, Bool.eq_iff_iff]
    exact iff_comm
  unfold permitsProject
  simp only [Bool.not_true, Bool.false_eq_true, if_false]
  cases project.metadata.applied ProjectSpec.codec with
  | error error => simp
  | ok snapshot =>
      rw [Except.ok.injEq]
      constructor
      · intro h
        exact ⟨snapshot, rfl, (hdecide snapshot permitted).mp h⟩
      · rintro ⟨other, hother, hiff⟩
        obtain rfl : snapshot = other := Except.ok.inj hother
        exact (hdecide snapshot permitted).mpr hiff

end CloudSteward.Ownership
