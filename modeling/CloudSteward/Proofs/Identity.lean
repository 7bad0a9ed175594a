import CloudSteward.Proofs.Ownership
import Mathlib.Data.Finset.Basic

/-!
# Differences and deletion protection as functions of sets

Differences look at lists, but only ask which identifiers occur in the other list, and so does
deletion protection, which is made of two of them.  Hence they are functions of the sets of
identifiers (`identifiers`), but for the empty one.  It matches nothing, not even itself: a thing
without an identifier is always in the difference, and so a list that has one is different from
every list, itself included (`difference_eq_nil_iff_identifiers`).

What a difference keeps it keeps as often as it was there, and in its order (`Sifted`).
-/

namespace CloudSteward

/-- Two lists have the same items, be it in another order or more often. -/
def SameItems {α : Type} (first second : List α) : Prop :=
  ∀ item, item ∈ first ↔ item ∈ second

variable {α β γ δ : Type} [Identifiable α] [Identifiable β] [Identifiable γ] [Identifiable δ]

/-! ## Sets of identifiers -/

/-- The identifiers that occur in a list, with the empty one if it does. -/
def identifiers (items : List α) : Finset String :=
  (items.map identifier).toFinset

@[simp] theorem mem_identifiers {items : List α} {id : String} :
    id ∈ identifiers items ↔ ∃ item ∈ items, identifier item = id := by
  simp [identifiers]

theorem SameItems.identifiers_eq {first second : List α} (h : SameItems first second) :
    identifiers first = identifiers second := by
  ext id
  rw [mem_identifiers, mem_identifiers]
  exact exists_congr fun item => and_congr_left fun _ => h item

theorem identifiers_eq_empty_iff {items : List α} : identifiers items = ∅ ↔ items = [] := by
  unfold identifiers
  rw [List.toFinset_eq_empty_iff, List.map_eq_nil_iff]

/-! ## Differences -/

/-- An item has no identifier, or one that does not occur on the other side. -/
def Apart (others : Finset String) (item : α) : Prop :=
  identifier item = "" ∨ identifier item ∉ others

/-- A list is what is left of another one if nothing but the items apart from the other side is
kept, and these as they were. -/
structure Sifted (items : List α) (others : Finset String) (kept : List α) : Prop where
  in_order : kept.Sublist items
  mem_iff : ∀ item, item ∈ kept ↔ item ∈ items ∧ Apart others item
  as_often : ∀ [DecidableEq α], ∀ item, Apart others item → kept.count item = items.count item

theorem apart_iff_not_known {items : List β} {item : α} :
    Apart (identifiers items) item ↔ knownAmong item items = false := by
  rw [← Bool.not_eq_true, knownAmong_eq_true_iff, ← mem_identifiers, not_and_or,
    Classical.not_not]
  rfl

theorem sifted_difference (left : List α) (right : List β) :
    Sifted left (identifiers right) (difference left right) where
  in_order := List.filter_sublist
  mem_iff := by
    intro item
    rw [apart_iff_not_known]
    unfold difference
    rw [List.mem_filter, Bool.not_eq_true']
  as_often := by
    intro _ item hapart
    apply List.count_filter
    rw [apart_iff_not_known.mp hapart]
    rfl

/-- Nothing is left exactly if every item has an identifier and the other side has them all. -/
theorem difference_eq_nil_iff_identifiers {left : List α} {right : List β} :
    difference left right = [] ↔
      "" ∉ identifiers left ∧ identifiers left ⊆ identifiers right := by
  rw [Ownership.difference_eq_nil_iff]
  constructor
  · intro h
    refine ⟨?_, ?_⟩
    · intro hempty
      obtain ⟨item, hitem, hid⟩ := mem_identifiers.mp hempty
      exact (h item hitem).1 hid
    · intro id hid
      obtain ⟨item, hitem, rfl⟩ := mem_identifiers.mp hid
      exact mem_identifiers.mpr (h item hitem).2
  · rintro ⟨hnamed, hsubset⟩ item hitem
    refine ⟨fun hid => hnamed (mem_identifiers.mpr ⟨item, hitem, hid⟩), ?_⟩
    exact mem_identifiers.mp (hsubset (mem_identifiers.mpr ⟨item, hitem, rfl⟩))

/-- A difference has the same items if both lists do. -/
theorem SameItems.difference {left first : List α} {right second : List β}
    (hleft : SameItems left first) (hright : SameItems right second) :
    SameItems (difference left right) (difference first second) := by
  intro item
  rw [(sifted_difference left right).mem_iff, (sifted_difference first second).mem_iff,
    hright.identifiers_eq, hleft item]

/-- There is nothing to do exactly if all things have identifiers, and the same ones on both
sides. -/
theorem isEmpty_compute_iff {desired : List α} {remote : List β} :
    (Diff.compute desired remote).isEmpty = true ↔
      "" ∉ identifiers desired ∧ "" ∉ identifiers remote ∧
        identifiers desired = identifiers remote := by
  unfold Diff.isEmpty Diff.compute
  rw [Bool.and_eq_true, List.isEmpty_iff, List.isEmpty_iff, difference_eq_nil_iff_identifiers,
    difference_eq_nil_iff_identifiers, Finset.Subset.antisymm_iff]
  exact ⟨fun ⟨⟨hdesired, hle⟩, hremote, hge⟩ => ⟨hdesired, hremote, hle, hge⟩,
    fun ⟨hdesired, hremote, hle, hge⟩ => ⟨⟨hdesired, hle⟩, hremote, hge⟩⟩

/-! ## Deletion protection -/

theorem permits_iff_identifiers {guarded : Bool} {lastApplied : List γ} {current : List δ}
    {remote : List β} :
    Ownership.permits guarded lastApplied current remote = true ↔
      guarded = false ∨ remote = [] ∨
        ("" ∉ identifiers remote ∧ identifiers remote ⊆ identifiers lastApplied) ∨
        ("" ∉ identifiers current ∧ identifiers current ⊆ identifiers remote) := by
  unfold Ownership.permits
  rw [Bool.or_eq_true, Bool.or_eq_true, Bool.or_eq_true, List.isEmpty_iff, List.isEmpty_iff,
    List.isEmpty_iff, difference_eq_nil_iff_identifiers, difference_eq_nil_iff_identifiers,
    Bool.not_eq_true', or_assoc, or_assoc]

/-- The decision is a function of three sets. -/
theorem permits_congr {guarded : Bool} {lastApplied applied : List γ} {current declared : List δ}
    {remote listed : List β} (hlast : identifiers lastApplied = identifiers applied)
    (hcurrent : identifiers current = identifiers declared)
    (hremote : identifiers remote = identifiers listed) :
    Ownership.permits guarded lastApplied current remote =
      Ownership.permits guarded applied declared listed := by
  have hnil : remote = [] ↔ listed = [] := by
    rw [← identifiers_eq_empty_iff, ← identifiers_eq_empty_iff, hremote]
  rw [Bool.eq_iff_iff, permits_iff_identifiers, permits_iff_identifiers, hlast, hcurrent, hremote,
    hnil]

/-! ## Functions of sets -/

/-- What differences and deletion protection make of four lists. -/
structure DecidedBySets (desired : List α) (remote : List β) (lastApplied : List γ)
    (current : List δ) : Prop where
  created : Sifted desired (identifiers remote) (Diff.compute desired remote).toCreate
  deleted : Sifted remote (identifiers desired) (Diff.compute desired remote).toDelete
  settled_iff : (Diff.compute desired remote).isEmpty = true ↔
    "" ∉ identifiers desired ∧ "" ∉ identifiers remote ∧ identifiers desired = identifiers remote
  permits_iff : ∀ guarded, Ownership.permits guarded lastApplied current remote = true ↔
    guarded = false ∨ remote = [] ∨
      ("" ∉ identifiers remote ∧ identifiers remote ⊆ identifiers lastApplied) ∨
      ("" ∉ identifiers current ∧ identifiers current ⊆ identifiers remote)
  /-- Other lists of the same items have differences with the same items. -/
  same_items : ∀ others listed, SameItems others desired → SameItems listed remote →
    SameItems (Diff.compute others listed).toCreate (Diff.compute desired remote).toCreate ∧
      SameItems (Diff.compute others listed).toDelete (Diff.compute desired remote).toDelete ∧
      (Diff.compute others listed).isEmpty = (Diff.compute desired remote).isEmpty
  /-- And the decision over them is the same. -/
  same_decision : ∀ guarded applied declared listed, SameItems applied lastApplied →
    SameItems declared current → SameItems listed remote →
      Ownership.permits guarded applied declared listed =
        Ownership.permits guarded lastApplied current remote

/-- Whatever the lists are, with items that occur again or have no identifier: which of them are
created and deleted, whether anything is, and whether the cloud may be changed is decided by the
identifiers that occur, and neither by their order nor by how often they do. -/
theorem decidedBySets (desired : List α) (remote : List β) (lastApplied : List γ)
    (current : List δ) : DecidedBySets desired remote lastApplied current where
  created := sifted_difference desired remote
  deleted := sifted_difference remote desired
  settled_iff := isEmpty_compute_iff
  permits_iff _ := permits_iff_identifiers
  same_items := by
    intro others listed hdesired hremote
    refine ⟨hdesired.difference hremote, hremote.difference hdesired, ?_⟩
    rw [Bool.eq_iff_iff, isEmpty_compute_iff, isEmpty_compute_iff, hdesired.identifiers_eq,
      hremote.identifiers_eq]
  same_decision := by
    intro guarded applied declared listed hlast hcurrent hremote
    exact permits_congr hlast.identifiers_eq hcurrent.identifiers_eq hremote.identifiers_eq

/-- Declared integrations, of which one has no identifier yet. -/
def openDeclared : List Integration :=
  [⟨"AWS", "arn:1"⟩, ⟨"AWS", ""⟩]

/-- The same in another order, and the one without an identifier twice. -/
def shuffledDeclared : List Integration :=
  [⟨"AWS", ""⟩, ⟨"AWS", "arn:1"⟩, ⟨"AWS", ""⟩]

theorem decided_shuffledDeclared :
    SameItems (Diff.compute shuffledDeclared openDeclared).toCreate
        (Diff.compute openDeclared openDeclared).toCreate ∧
      Ownership.permits true openDeclared shuffledDeclared openDeclared =
        Ownership.permits true openDeclared openDeclared openDeclared := by
  have hsame : SameItems openDeclared openDeclared := fun _ => Iff.rfl
  have hshuffled : SameItems shuffledDeclared openDeclared := by
    intro item
    simp only [shuffledDeclared, openDeclared, List.mem_cons, List.not_mem_nil, or_false]
    tauto
  have hdecided := decidedBySets openDeclared openDeclared openDeclared openDeclared
  exact ⟨(hdecided.same_items _ _ hshuffled hsame).1,
    hdecided.same_decision true _ _ _ hsame hshuffled hsame⟩

end CloudSteward
