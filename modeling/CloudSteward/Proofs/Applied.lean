import CloudSteward.Proofs.Json.Restoring
import CloudSteward.Wire.Resource

/-!
# The specification on record

A pass that is fine records the specification that it applied as an annotation.  The
annotation touches no other one, recording the same specification again changes nothing
(`setApplied_setApplied`), and what was recorded of a project can be read back
(`Project.applied_setApplied`), whatever strings its author chose.
-/

namespace CloudSteward

open Json

/-! ## Annotations -/

namespace Annotations

variable {annotations : Annotations} {name other text : String}

/-- An inserted entry is found, in front of an older one of its name. -/
theorem lookup_insertEntry_self (name text : String) (entries : List (String × String)) :
    (insertEntry name text entries).lookup name = some text := by
  induction entries with
  | nil => exact List.lookup_cons_self
  | cons head rest ih =>
      obtain ⟨first, old⟩ := head
      simp only [insertEntry]
      split
      case isTrue => exact List.lookup_cons_self
      case isFalse =>
        split
        case isTrue => exact List.lookup_cons_self
        case isFalse hne =>
          have hother : (name == first) = false := beq_eq_false_iff_ne.mpr hne
          rw [List.lookup_cons, hother]
          exact ih

theorem lookup_insertEntry_of_ne (hother : other ≠ name) (text : String)
    (entries : List (String × String)) :
    (insertEntry name text entries).lookup other = entries.lookup other := by
  have hskip : (other == name) = false := beq_eq_false_iff_ne.mpr hother
  induction entries with
  | nil => rw [insertEntry, List.lookup_cons, hskip]
  | cons head rest ih =>
      obtain ⟨first, old⟩ := head
      simp only [insertEntry]
      split
      case isTrue => rw [List.lookup_cons, hskip]
      case isFalse =>
        split
        case isTrue hfirst =>
          subst hfirst
          rw [List.lookup_cons, List.lookup_cons, hskip]
        case isFalse => rw [List.lookup_cons, List.lookup_cons, ih]

/-- Inserting an entry twice puts it in the same place. -/
theorem insertEntry_insertEntry (name text : String) (entries : List (String × String)) :
    insertEntry name text (insertEntry name text entries) = insertEntry name text entries := by
  induction entries with
  | nil => simp [insertEntry]
  | cons head rest ih =>
      obtain ⟨first, old⟩ := head
      by_cases hbefore : name < first
      · simp [insertEntry, hbefore]
      · by_cases hfirst : name = first
        · simp [insertEntry, hfirst]
        · simp [insertEntry, hbefore, hfirst, ih]

theorem get?_insert_self : (annotations.insert name text).get? name = some text :=
  lookup_insertEntry_self name text annotations.entries

theorem get?_insert_of_ne (hother : other ≠ name) :
    (annotations.insert name text).get? other = annotations.get? other :=
  lookup_insertEntry_of_ne hother text annotations.entries

theorem insert_insert : (annotations.insert name text).insert name text =
    annotations.insert name text := by
  unfold insert
  simp only [insertEntry_insertEntry]

end Annotations

/-! ## Recording a specification -/

namespace Metadata

variable {α : Type} {metadata : Metadata} {codec : Codec α} {spec : α}

theorem setApplied_setApplied : (metadata.setApplied codec spec).setApplied codec spec =
    metadata.setApplied codec spec := by
  unfold setApplied annotate
  simp only [Annotations.insert_insert]

theorem isSkipped_setApplied : (metadata.setApplied codec spec).isSkipped = metadata.isSkipped := by
  have hother : policyName ≠ lastAppliedName := by decide
  unfold isSkipped setApplied annotate
  simp only [Annotations.get?_insert_of_ne hother]

theorem hasApplied_setApplied : (metadata.setApplied codec spec).hasApplied = true := by
  unfold hasApplied setApplied annotate Annotations.contains
  simp only [Annotations.get?_insert_self, Option.isSome_some]

/-- What was recorded is read back if the codec restores it. -/
theorem applied_setApplied {n : Nat} (hrestores : codec.Restores n spec) (hdepth : n ≤ depthLimit) :
    (metadata.setApplied codec spec).applied codec = .ok (some spec) := by
  have hrecorded : (metadata.setApplied codec spec).annotations.get? lastAppliedName =
      some (codec.encode spec) := Annotations.get?_insert_self
  unfold applied
  rw [hrecorded]
  simp only [hrestores.decode_encode hdepth]
  rfl

end Metadata

/-! ## Specifications of projects -/

theorem Integration.restores (integration : Integration) :
    Integration.codec.Restores 1 integration := by
  refine Record.restores (by decide) (.cons (.mandatory (Codec.restores_string _)) ?_)
  exact .cons (.defaulted (Codec.restores_string _)) .nil

namespace ProjectSpec

/-- Lists of integrations that are left out are empty, as they are in the blank
specification. -/
theorem restores (spec : ProjectSpec) : codec.Restores 3 spec := by
  have hlist (integrations : List Integration) :
      (Codec.list Integration.codec).Restores 2 integrations :=
    Codec.restores_list fun integration _ => integration.restores
  refine Record.restores (by decide) (.cons (.mandatory (Codec.restores_string spec.name)) ?_)
  refine .cons (.sparse (hlist spec.accessRoles) List.isEmpty_iff.mp rfl) ?_
  exact .cons (.sparse (hlist spec.integrations) List.isEmpty_iff.mp rfl) .nil

end ProjectSpec

/-- The specification that was recorded of a project is the one that is read. -/
theorem Project.applied_setApplied (metadata : Metadata) (spec : ProjectSpec) :
    (metadata.setApplied ProjectSpec.codec spec).applied ProjectSpec.codec = .ok (some spec) :=
  Metadata.applied_setApplied spec.restores (by decide)

end CloudSteward
