import CloudSteward.Files.Memory
import Mathlib.Data.List.Nodup

/-!
# Names in the directory

A path may lead anywhere, but a plain name, without a slash and not made of dots alone, stands
for what is directly in the directory of the manifests (`IsName`).  What an action does with
such a name depends on nothing but what is found under it (`find`), and changing what is under
one name leaves all the others as they are.  So the equations of this file say all that there is
to say about files in the directory, and no path has to be followed again.
-/

namespace CloudSteward.MemoryFiles

variable {files later : MemoryFiles} {name other : String} {entry : Entry}

/-- A name that leads nowhere but into the directory. -/
structure IsName (name : String) : Prop where
  nonempty : name ≠ ""
  flat : '/' ∉ name.toList
  not_dot : name ≠ "."
  not_dots : name ≠ ".."

/-- A name is no path if it has no slash and does not end in a dot. -/
theorem isName_of_getLast? {last : Char} (hlast : name.toList.getLast? = some last)
    (hdot : last ≠ '.') (hflat : '/' ∉ name.toList) : IsName name where
  nonempty h := by
    rw [h] at hlast
    cases hlast
  flat := hflat
  not_dot h := by
    rw [h] at hlast
    exact hdot (Option.some.inj hlast).symm
  not_dots h := by
    rw [h] at hlast
    exact hdot (Option.some.inj hlast).symm

/-- Where the file of a name is. -/
def spot (name : String) : Path :=
  home ++ [name]

theorem spot_injective (h : spot name = spot other) : name = other :=
  (List.cons.inj (List.append_cancel_left h)).1

theorem spot_ne_base : spot name ≠ base := by
  intro h
  exact absurd (congrArg List.length h) (by decide : ¬3 = 1)

theorem spot_ne_home : spot name ≠ home := by
  intro h
  exact absurd (congrArg List.length h) (by decide : ¬3 = 2)

/-! ## Following a name -/

/-- The whole path of a name. -/
def wholePath (name : String) : String :=
  address home ++ "/" ++ name

theorem toList_wholePath : (wholePath name).toList =
    '/' :: ("home".toList ++ '/' :: ("manifests".toList ++ '/' :: name.toList)) := by
  have hhome : (address home).toList = '/' :: ("home".toList ++ '/' :: "manifests".toList) := by
    decide
  simp [wholePath, hhome]

theorem names_wholePath (hname : IsName name) :
    names (wholePath name).toList = ["home", "manifests", name] := by
  have hflat : ∀ c ∈ name.toList, decide (c = '/') = false :=
    fun c hc => decide_eq_false fun heq => hname.flat (heq ▸ hc)
  have hpieces : Text.pieces (· = '/') (wholePath name).toList =
      [[], "home".toList, "manifests".toList, name.toList] := by
    rw [toList_wholePath, Text.pieces, if_pos (by decide),
      Text.pieces_append_cons (by simp) (by decide),
      Text.pieces_append_cons (by simp) (by decide), Text.pieces_of_forall_not hflat]
  have hfull : name.toList ≠ [] := fun hnil => hname.nonempty (String.toList_eq_nil_iff.mp hnil)
  rw [names, hpieces]
  simp [hfull]

theorem getLast?_wholePath (hname : IsName name) :
    (wholePath name).toList.getLast? ≠ some '/' := by
  intro hlast
  have hfull : name.toList ≠ [] := fun hnil => hname.nonempty (String.toList_eq_nil_iff.mp hnil)
  rw [wholePath, String.toList_append, List.getLast?_append_of_ne_nil _ hfull] at hlast
  exact hname.flat (List.mem_of_getLast? hlast)

/-- A path without dots is followed to where it says. -/
theorem eq_append_of_follow {here path folder : Path}
    (hplain : ∀ name ∈ path, name ≠ "." ∧ name ≠ "..")
    (h : files.follow here path = .ok folder) : folder = here ++ path := by
  induction path generalizing here with
  | nil =>
      obtain rfl : here = folder := Except.ok.inj h
      exact (List.append_nil here).symm
  | cons name rest ih =>
      obtain ⟨⟨hdot, hdots⟩, hrest⟩ := List.forall_mem_cons.mp hplain
      rw [follow, if_neg hdot, if_neg hdots] at h
      rw [List.append_cons]
      split at h
      case h_4 => exact ih hrest h
      all_goals cases h

/-- Only folders are followed. -/
theorem entry?_of_follow {here path folder : Path} (hfull : path ≠ [])
    (hplain : ∀ name ∈ path, name ≠ "." ∧ name ≠ "..")
    (h : files.follow here path = .ok folder) : files.entry? (here ++ path) = some .folder := by
  induction path generalizing here with
  | nil => exact absurd rfl hfull
  | cons name rest ih =>
      obtain ⟨⟨hdot, hdots⟩, hrest⟩ := List.forall_mem_cons.mp hplain
      rw [follow, if_neg hdot, if_neg hdots] at h
      cases hlook : files.look here name with
      | error fault =>
          rw [hlook] at h
          cases h
      | ok found =>
          rw [hlook] at h
          obtain rfl : found = some .folder := by
            rcases found with _ | ⟨content⟩ | _ <;> first | rfl | cases h
          cases rest with
          | nil =>
              unfold look at hlook
              split at hlook
              case isTrue => cases hlook
              case isFalse => exact Except.ok.inj hlook
          | cons next others =>
              rw [List.append_cons]
              exact ih (List.cons_ne_nil _ _) hrest h

/-- The directory, as far as the system lets a name in it be followed. -/
def enter (files : MemoryFiles) (name : String) : Except FileFault Path :=
  if (wholePath name).toList.contains '\x00' then .error .zeroInName
  else if pathLimit < (wholePath name).utf8ByteSize then .error .nameTooLong
  else files.follow [] home

theorem follow_of_enter {folder : Path} (h : files.enter name = .ok folder) :
    files.follow [] home = .ok folder := by
  unfold enter at h
  split at h
  · cases h
  · split at h
    · cases h
    · exact h

theorem home_plain : ∀ name ∈ home, name ≠ "." ∧ name ≠ ".." := by
  decide

theorem eq_home_of_enter {folder : Path} (h : files.enter name = .ok folder) : folder = home :=
  @eq_append_of_follow files [] home folder home_plain (follow_of_enter h)

theorem place_of_isName (hname : IsName name) :
    files.place name = (files.enter name).map fun folder => .name folder name false := by
  have hrelative : name.toList.head? ≠ some '/' :=
    fun hhead => hname.flat (List.mem_of_head? hhead)
  have hslash : decide ((wholePath name).toList.getLast? = some '/') = false :=
    decide_eq_false (getLast?_wholePath hname)
  unfold place enter
  simp only [if_neg hrelative]
  rw [show address home ++ "/" ++ name = wholePath name from rfl, names_wholePath hname, hslash]
  split
  · rfl
  · split
    · rfl
    · simp only [List.getLast?_cons_cons, List.getLast?_singleton, List.dropLast_cons_cons,
        List.dropLast_singleton, if_neg hname.not_dot, if_neg hname.not_dots]
      rw [show (["home", "manifests"] : Path) = home from rfl]
      cases files.follow [] home <;> rfl

/-! ## What is found under a name -/

/-- What is found under a name in the directory. -/
def find (files : MemoryFiles) (name : String) : Except FileFault (Option Entry) :=
  match files.enter name with
  | .error fault => .error fault
  | .ok _ => files.look home name

/-- Either the system does not let a name be followed, or it leads into the directory. -/
theorem place_find (files : MemoryFiles) (hname : IsName name) :
    (∃ fault, files.place name = .error fault ∧ files.find name = .error fault) ∨
      (files.place name = .ok (.name home name false) ∧
        files.find name = files.look home name) := by
  rw [place_of_isName hname, find]
  cases henter : files.enter name with
  | error fault => exact .inl ⟨fault, rfl, rfl⟩
  | ok folder =>
      obtain rfl := eq_home_of_enter henter
      exact .inr ⟨rfl, rfl⟩

/-- What is read under a name. -/
def readFound : Option Entry → Except FileFault Text
  | none => .error .missing
  | some .folder => .error .isFolder
  | some (.file content) => .ok content

theorem read_of_isName (hname : IsName name) :
    files.read name = (files.find name).bind readFound := by
  rcases files.place_find hname with ⟨fault, hplace, hfind⟩ | ⟨hplace, hfind⟩
  · rw [read, hplace, hfind]
    rfl
  · rw [read, hplace, hfind]
    refine congrArg (Except.bind (files.look home name)) (funext fun found => ?_)
    rcases found with _ | ⟨content⟩ | _ <;> rfl

/-- A file can be written wherever there is no folder. -/
theorem write_eq_ok_iff (hname : IsName name) {content : Text} :
    files.write name content = .ok later ↔
      (∃ found, files.find name = .ok found ∧ found ≠ some .folder) ∧
        later = files.put (spot name) (.file content) := by
  rcases files.place_find hname with ⟨fault, hplace, hfind⟩ | ⟨hplace, hfind⟩
  · simp [write, hplace, hfind, bind, Except.bind]
  · simp only [write, hplace, hfind, bind, Except.bind]
    cases files.look home name with
    | error fault => simp
    | ok found => rcases found with _ | ⟨old⟩ | _ <;> simp [spot, eq_comm]

/-- A file can be moved wherever there is no folder. -/
theorem rename_eq_ok_iff (hname : IsName name) (hother : IsName other) :
    files.rename name other = .ok later ↔
      ∃ content, files.find name = .ok (some (.file content)) ∧
        (∃ replaced, files.find other = .ok replaced ∧ replaced ≠ some .folder) ∧
        later = (files.drop (spot name)).put (spot other) (.file content) := by
  rcases files.place_find hname with ⟨fault, hplace, hfind⟩ | ⟨hplace, hfind⟩
  · simp [rename, hplace, hfind, bind, Except.bind]
  rcases files.place_find hother with ⟨fault, hgoal, hreplaced⟩ | ⟨hgoal, hreplaced⟩
  · simp [rename, hplace, hgoal, hreplaced, bind, Except.bind]
  simp only [rename, hplace, hgoal, hfind, hreplaced, bind, Except.bind]
  cases files.look home name with
  | error fault => simp
  | ok found =>
    cases files.look home other with
    | error fault => simp
    | ok replaced =>
      rcases found with _ | ⟨content⟩ | _ <;> rcases replaced with _ | ⟨old⟩ | _ <;>
        simp [spot, eq_comm]

/-! ## Changes under a name -/

theorem entry?_put_self (path : Path) (hpath : path ≠ []) :
    MemoryFiles.entry? (files.put path entry) path = some entry := by
  unfold entry?
  rw [if_neg hpath]
  exact files.entries.get?_put_self path entry

theorem entry?_put_of_ne {path place : Path} (hplace : place ≠ path) :
    MemoryFiles.entry? (files.put path entry) place = files.entry? place := by
  unfold entry?
  exact if_congr Iff.rfl rfl (files.entries.get?_put_of_ne entry hplace)

theorem entry?_drop_self (path : Path) (hpath : path ≠ []) :
    MemoryFiles.entry? (files.drop path) path = none := by
  unfold entry?
  rw [if_neg hpath]
  exact files.entries.get?_erase_self path

theorem entry?_drop_of_ne {path place : Path} (hplace : place ≠ path) :
    MemoryFiles.entry? (files.drop path) place = files.entry? place := by
  unfold entry?
  exact if_congr Iff.rfl rfl (files.entries.get?_erase_of_ne hplace)

theorem spot_ne_nil : spot name ≠ [] :=
  List.cons_ne_nil _ _

theorem look_congr {folder : Path}
    (h : files.entry? (folder ++ [name]) = later.entry? (folder ++ [name])) :
    files.look folder name = later.look folder name := by
  rw [look, look, h]

theorem enter_congr (hbase : files.entry? base = later.entry? base)
    (hhome : files.entry? home = later.entry? home) : files.enter name = later.enter name := by
  have hbase : files.look [] "home" = later.look [] "home" := look_congr hbase
  have hhome : files.look ["home"] "manifests" = later.look ["home"] "manifests" :=
    look_congr hhome
  have hfollow : files.follow [] ["home", "manifests"] = later.follow [] ["home", "manifests"] := by
    simp [follow, hbase, hhome]
  rw [enter, enter, show home = ["home", "manifests"] from rfl, hfollow]

theorem find_congr (hbase : files.entry? base = later.entry? base)
    (hhome : files.entry? home = later.entry? home)
    (hspot : files.entry? (spot name) = later.entry? (spot name)) :
    files.find name = later.find name := by
  rw [find, find, enter_congr hbase hhome, look_congr hspot]

theorem find_put_of_ne (hother : other ≠ name) :
    (files.put (spot name) entry).find other = files.find other :=
  find_congr (entry?_put_of_ne spot_ne_base.symm) (entry?_put_of_ne spot_ne_home.symm)
    (entry?_put_of_ne fun h => hother (spot_injective h))

theorem find_drop_of_ne (hother : other ≠ name) :
    (files.drop (spot name)).find other = files.find other :=
  find_congr (entry?_drop_of_ne spot_ne_base.symm) (entry?_drop_of_ne spot_ne_home.symm)
    (entry?_drop_of_ne fun h => hother (spot_injective h))

/-- Under a name that could be looked at, what was put there is found. -/
theorem find_put_self {found : Option Entry} (h : files.find name = .ok found) :
    (files.put (spot name) entry).find name = .ok (some entry) := by
  have henter : (files.put (spot name) entry).enter name = files.enter name :=
    enter_congr (entry?_put_of_ne spot_ne_base.symm) (entry?_put_of_ne spot_ne_home.symm)
  have hspot : MemoryFiles.entry? (files.put (spot name) entry) (spot name) = some entry :=
    entry?_put_self _ spot_ne_nil
  unfold find at h ⊢
  rw [henter]
  cases hopen : files.enter name with
  | error fault =>
      rw [hopen] at h
      cases h
  | ok folder =>
      simp only [hopen] at h
      show (files.put (spot name) entry).look home name = _
      unfold look at h ⊢
      split at h
      case isTrue => cases h
      case isFalse hshort => rw [if_neg hshort, ← hspot, spot]

/-! ## Names that are listed -/

theorem nameIn?_eq_some_iff {folder path : Path} :
    nameIn? folder path = some name ↔ path = folder ++ [name] := by
  constructor
  · intro h
    unfold nameIn? at h
    split at h
    case isTrue hfolder =>
      rw [← hfolder.2]
      exact (List.dropLast_append_getLast? name h).symm
    case isFalse => cases h
  · rintro rfl
    simp [nameIn?]

theorem nodup_namesIn (files : MemoryFiles) (folder : Path) : (files.namesIn folder).Nodup := by
  have hkeys : files.entries.keys.Nodup := List.pairwise_map.mpr files.entries.distinct
  refine List.Nodup.filterMap ?_ hkeys
  intro first second name hfirst hsecond
  exact (nameIn?_eq_some_iff.mp hfirst).trans (nameIn?_eq_some_iff.mp hsecond).symm

theorem eq_namesIn_of_list {names : List String} (h : files.list = .ok names) :
    names = files.namesIn home := by
  unfold list at h
  split at h
  case h_3 => exact (Except.ok.inj h).symm
  all_goals cases h

theorem nodup_of_list {names : List String} (h : files.list = .ok names) : names.Nodup :=
  eq_namesIn_of_list h ▸ files.nodup_namesIn home

/-- A directory in which a name can be looked up can be listed. -/
theorem list_of_find {found : Option Entry} (h : files.find name = .ok found) :
    files.list = .ok (files.namesIn home) := by
  have hhome : files.entry? home = some .folder := by
    unfold find at h
    cases henter : files.enter name with
    | error fault =>
        rw [henter] at h
        cases h
    | ok folder =>
        exact @entry?_of_follow files [] home folder (by decide) home_plain (follow_of_enter henter)
  rw [list, hhome]

/-- A file that is removed is no longer listed. -/
theorem namesIn_drop :
    (files.drop (spot name)).namesIn home = (files.namesIn home).filter (· ≠ name) := by
  unfold namesIn
  rw [drop, Table.erase, Table.keys_keep, List.filterMap_filter, List.filter_filterMap]
  refine List.filterMap_congr fun path _ => ?_
  cases hfound : nameIn? home path with
  | none => simp
  | some found =>
      have hpath : path = spot found := nameIn?_eq_some_iff.mp hfound
      have hsame : path = spot name ↔ found = name :=
        ⟨fun h => spot_injective (hpath.symm.trans h), fun h => h ▸ hpath⟩
      simp [hsame, Option.filter]

/-- A file that is written is listed last. -/
theorem namesIn_put : (files.put (spot name) entry).namesIn home =
    (files.namesIn home).filter (· ≠ name) ++ [name] := by
  have hkeys : (files.put (spot name) entry).entries.keys =
      (files.drop (spot name)).entries.keys ++ [spot name] := List.map_append
  have hname : nameIn? home (spot name) = some name := nameIn?_eq_some_iff.mpr rfl
  rw [← namesIn_drop]
  unfold namesIn
  rw [hkeys, List.filterMap_append]
  simp [hname]

theorem list_drop :
    (files.drop (spot name)).list = files.list.map fun names => names.filter (· ≠ name) := by
  unfold list
  rw [entry?_drop_of_ne spot_ne_home.symm, namesIn_drop]
  rcases files.entry? home with _ | ⟨content⟩ | _ <;> rfl

theorem list_put : (files.put (spot name) entry).list =
    files.list.map fun names => names.filter (· ≠ name) ++ [name] := by
  unfold list
  rw [entry?_put_of_ne spot_ne_home.symm, namesIn_put]
  rcases files.entry? home with _ | ⟨content⟩ | _ <;> rfl

end CloudSteward.MemoryFiles
