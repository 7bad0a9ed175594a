import CloudSteward.Proofs.Files.Directory
import CloudSteward.Store

/-!
# Keys and the names of their files

The manifest of a key and its draft are named so that they never get into each other's way:
keys can be read off the names of manifests, drafts belong to no key, and no draft has the name
of a manifest.  A key that can come out of a listing (`IsKey`) has files with plain names, so
both lie directly in the directory.
-/

namespace CloudSteward.Store

variable {key other name : String} {names keys : List String}

/-! ## Names -/

theorem path_injective (h : path key = path other) : key = other :=
  (String.append_left_inj _).mp h

theorem getLast?_path : (path key).toList.getLast? = some 'n' := by
  rw [path, String.toList_append, List.getLast?_append_of_ne_nil _ (by decide)]
  decide

theorem getLast?_draftPath : (draftPath key).toList.getLast? = some 'p' := by
  rw [draftPath, String.toList_append, List.getLast?_append_of_ne_nil _ (by decide)]
  decide

/-- Manifests and drafts end differently. -/
theorem path_ne_draftPath : path key ≠ draftPath other := by
  intro h
  have hlast := getLast?_path.symm.trans ((congrArg (·.toList.getLast?) h).trans getLast?_draftPath)
  exact absurd hlast (by decide)

theorem eq_path_of_keyOf? (h : keyOf? name = some key) : name = path key := by
  unfold keyOf? at h
  simp only at h
  split at h
  case isFalse => cases h
  case isTrue hname =>
    obtain rfl := Option.some.inj h
    have hchars := hname.1
    rw [← String.toList_inj, path, String.toList_append, String.toList_ofList, hchars]

theorem keyOf?_draftPath : keyOf? (draftPath key) = none := by
  cases hkey : keyOf? (draftPath key) with
  | none => rfl
  | some found => exact absurd (eq_path_of_keyOf? hkey).symm path_ne_draftPath

/-- A key that may come out of a listing. -/
structure IsKey (key : String) : Prop where
  nonempty : key ≠ ""
  flat : '/' ∉ key.toList
  shown : key.toList.head? ≠ some '.'

/-- The stem of a manifest's name is a key unless it is empty or hidden. -/
theorem keyOf?_path_eq_some_iff :
    keyOf? (path key) = some key ↔ key ≠ "" ∧ key.toList.head? ≠ some '.' := by
  have hlength : (path key).toList.length - ending.length = key.toList.length := by
    rw [path, String.toList_append, List.length_append]
    exact Nat.add_sub_cancel ..
  have hstem : (path key).toList.take key.toList.length = key.toList := by
    rw [path, String.toList_append, List.take_left]
  have hchars : key.toList ++ ending.toList = (path key).toList := (String.toList_append ..).symm
  have hfull : key.toList ≠ [] ↔ key ≠ "" := not_congr String.toList_eq_nil_iff
  unfold keyOf?
  simp only [hlength, hstem, hchars, hfull, true_and, String.ofList_toList]
  split <;> simp_all

theorem IsKey.keyOf?_path (hkey : IsKey key) : keyOf? (path key) = some key :=
  keyOf?_path_eq_some_iff.mpr ⟨hkey.nonempty, hkey.shown⟩

/-- The keys of plain names are those that may come out of a listing. -/
theorem isKey_of_keyOf? (hflat : '/' ∉ name.toList) (h : keyOf? name = some key) : IsKey key := by
  obtain rfl := eq_path_of_keyOf? h
  obtain ⟨hnonempty, hshown⟩ := keyOf?_path_eq_some_iff.mp h
  refine ⟨hnonempty, fun hslash => ?_, hshown⟩
  rw [path, String.toList_append] at hflat
  exact hflat (List.mem_append_left _ hslash)

theorem IsKey.isName_path (hkey : IsKey key) : MemoryFiles.IsName (path key) := by
  refine MemoryFiles.isName_of_getLast? getLast?_path (by decide) ?_
  rw [path, String.toList_append, List.mem_append]
  exact not_or.mpr ⟨hkey.flat, by decide⟩

theorem IsKey.isName_draftPath (hkey : IsKey key) : MemoryFiles.IsName (draftPath key) := by
  refine MemoryFiles.isName_of_getLast? getLast?_draftPath (by decide) ?_
  simp only [draftPath, String.toList_append, List.mem_append, not_or]
  exact ⟨⟨⟨by decide, hkey.flat⟩, by decide⟩, by decide⟩

/-! ## Listings -/

theorem mem_sortKeys_iff : key ∈ sortKeys keys ↔ key ∈ keys :=
  List.mem_mergeSort

/-- A key is listed if its manifest is, unless it is empty or hidden. -/
theorem mem_filterMap_keyOf?_iff :
    key ∈ names.filterMap keyOf? ↔ path key ∈ names ∧ keyOf? (path key) = some key := by
  rw [List.mem_filterMap]
  constructor
  · rintro ⟨name, hname, hkey⟩
    obtain rfl := eq_path_of_keyOf? hkey
    exact ⟨hname, hkey⟩
  · rintro ⟨hname, hkey⟩
    exact ⟨_, hname, hkey⟩

/-- A listing of plain names gives nothing but keys. -/
theorem isKey_of_mem_listing (hflat : ∀ name ∈ names, '/' ∉ name.toList)
    (hkey : key ∈ sortKeys (names.filterMap keyOf?)) : IsKey key := by
  rw [mem_sortKeys_iff, mem_filterMap_keyOf?_iff] at hkey
  exact isKey_of_keyOf? (hflat _ hkey.1) hkey.2

theorem nodup_filterMap_keyOf? (hdistinct : names.Nodup) : (names.filterMap keyOf?).Nodup := by
  refine List.Nodup.filterMap ?_ hdistinct
  intro first second found hfirst hsecond
  exact (eq_path_of_keyOf? hfirst).trans (eq_path_of_keyOf? hsecond).symm

theorem nodup_sortKeys (hdistinct : keys.Nodup) : (sortKeys keys).Nodup :=
  (List.mergeSort_perm _ _).nodup_iff.mpr hdistinct

/-- Keys that are all different come in strictly ascending order. -/
theorem ascending_sortKeys (hdistinct : keys.Nodup) : (sortKeys keys).Pairwise (· < ·) := by
  have hsorted : (sortKeys keys).Pairwise fun first second => decide (first ≤ second) = true := by
    refine List.pairwise_mergeSort ?_ ?_ keys
    · intro first second third hfirst hsecond
      exact decide_eq_true (String.le_trans (of_decide_eq_true hfirst) (of_decide_eq_true hsecond))
    · intro first second
      rcases String.le_total first second with h | h <;> simp [h]
  refine (hsorted.and (nodup_sortKeys hdistinct)).imp fun ⟨hle, hne⟩ => ?_
  exact String.not_le.mp fun hge => hne (String.le_antisymm (of_decide_eq_true hle) hge)

/-- Keys that are left out are missing from the order, and nothing else is. -/
theorem sortKeys_filter (hdistinct : keys.Nodup) (test : String → Bool) :
    sortKeys (keys.filter test) = (sortKeys keys).filter test := by
  refine List.Perm.eq_of_pairwise (fun first second _ _ hlt hgt => ?_)
    (ascending_sortKeys (hdistinct.filter test)) ((ascending_sortKeys hdistinct).filter test) ?_
  · exact absurd (String.lt_trans hlt hgt) (String.lt_irrefl first)
  · exact (List.mergeSort_perm _ _).trans ((List.mergeSort_perm _ _).filter test).symm

/-- Without a manifest its key is not listed. -/
theorem filterMap_keyOf?_filter (key : String) (names : List String) :
    (names.filter (· ≠ path key)).filterMap keyOf? =
      (names.filterMap keyOf?).filter (· ≠ key) := by
  rw [List.filterMap_filter, List.filter_filterMap]
  refine List.filterMap_congr fun name _ => ?_
  cases hkey : keyOf? name with
  | none => simp
  | some found =>
      have hsame : name = path key ↔ found = key := by
        rw [eq_path_of_keyOf? hkey]
        exact ⟨fun h => path_injective h, fun h => h ▸ rfl⟩
      simp [hsame, Option.filter]

end CloudSteward.Store
