import CloudSteward.Proofs.Files.Disruption

/-!
# A directory with one file more

Two directories are the same but for one file, which only the first of them has (`OneMore`).
Whoever asks for other names is told the same by both, be it an answer or a fault, and makes the
same changes to both: the file stays what it was, and all else stays the same.  For this the
faults of a write and of a move have to be told from what is found under the names, which
`write_of_isName` and `rename_of_isName` do.
-/

namespace CloudSteward.MemoryFiles

variable {files twin : MemoryFiles} {name other source target : String} {content : Text}
  {here place : Path}

/-! ## Writes and moves by what is found -/

theorem write_of_isName (hname : IsName name) (content : Text) :
    files.write name content = (files.find name).bind fun found =>
      if found = some .folder then .error .isFolder
      else .ok (files.put (spot name) (.file content)) := by
  rcases files.place_find hname with ⟨fault, hplace, hfind⟩ | ⟨hplace, hfind⟩
  · rw [write, hplace, hfind]
    rfl
  · rw [write, hplace, hfind]
    refine congrArg (Except.bind (files.look home name)) (funext fun found => ?_)
    rcases found with _ | ⟨old⟩ | _ <;> rfl

/-- What is moved from one entry over another. -/
def moved (entry replaced : Option Entry) : Except FileFault Text :=
  match entry with
  | none => .error .missing
  | some .folder => .error .isFolder
  | some (.file content) => if replaced = some .folder then .error .isFolder else .ok content

/-- What is moved from one name to another.  Both names are followed before anything is looked
up. -/
def cargo (files : MemoryFiles) (source target : String) : Except FileFault Text := do
  let _ ← files.enter source
  let _ ← files.enter target
  let entry ← files.look home source
  let replaced ← files.look home target
  moved entry replaced

theorem rename_of_isName (hsource : IsName source) (htarget : IsName target) :
    files.rename source target = (files.cargo source target).map fun content =>
      (files.drop (spot source)).put (spot target) (.file content) := by
  rw [rename, cargo, place_of_isName hsource, place_of_isName htarget]
  cases hfrom : files.enter source with
  | error fault => rfl
  | ok folder =>
    obtain rfl := eq_home_of_enter hfrom
    cases hto : files.enter target with
    | error fault => rfl
    | ok folder =>
      obtain rfl := eq_home_of_enter hto
      simp only [Except.map, bind, Except.bind]
      cases files.look home source with
      | error fault => rfl
      | ok entry =>
        cases files.look home target with
        | error fault => rfl
        | ok replaced =>
          rcases entry with _ | ⟨content⟩ | _ <;> rcases replaced with _ | ⟨old⟩ | _ <;> rfl

/-- Nothing is read from a file but its content. -/
theorem eq_of_read (hname : IsName name) (hthere : files.entry? (spot name) = some (.file content))
    {found : Text} (hread : files.read name = .ok found) : found = content := by
  rw [read_of_isName hname] at hread
  unfold find at hread
  cases henter : files.enter name with
  | error fault =>
      rw [henter] at hread
      cases hread
  | ok folder =>
      have hthere : files.entry? (home ++ [name]) = some (.file content) := hthere
      simp only [henter, look, hthere] at hread
      split at hread
      · cases hread
      · exact (Except.ok.inj hread).symm

/-! ## One file more -/

/-- The first directory has what the second has, and a file under a name that is free there. -/
structure OneMore (name : String) (content : Text) (files twin : MemoryFiles) : Prop where
  entry_eq : ∀ place, place ≠ spot name → files.entry? place = twin.entry? place
  there : files.entry? (spot name) = some (.file content)
  gone : twin.entry? (spot name) = none

theorem oneMore_drop (h : files.entry? (spot name) = some (.file content)) :
    OneMore name content files (files.drop (spot name)) where
  entry_eq _ hplace := (entry?_drop_of_ne hplace).symm
  there := h
  gone := entry?_drop_self _ spot_ne_nil

namespace OneMore

theorem put (h : OneMore name content files twin) (hother : other ≠ name) (entry : Entry) :
    OneMore name content (files.put (spot other) entry) (twin.put (spot other) entry) where
  entry_eq place hplace := by
    by_cases hsame : place = spot other
    · rw [hsame, entry?_put_self _ spot_ne_nil, entry?_put_self _ spot_ne_nil]
    · rw [entry?_put_of_ne hsame, entry?_put_of_ne hsame, h.entry_eq place hplace]
  there := (entry?_put_of_ne fun heq => hother (spot_injective heq).symm).trans h.there
  gone := (entry?_put_of_ne fun heq => hother (spot_injective heq).symm).trans h.gone

theorem drop (h : OneMore name content files twin) (hother : other ≠ name) :
    OneMore name content (files.drop (spot other)) (twin.drop (spot other)) where
  entry_eq place hplace := by
    by_cases hsame : place = spot other
    · rw [hsame, entry?_drop_self _ spot_ne_nil, entry?_drop_self _ spot_ne_nil]
    · rw [entry?_drop_of_ne hsame, entry?_drop_of_ne hsame, h.entry_eq place hplace]
  there := (entry?_drop_of_ne fun heq => hother (spot_injective heq).symm).trans h.there
  gone := (entry?_drop_of_ne fun heq => hother (spot_injective heq).symm).trans h.gone

theorem enter_eq (h : OneMore name content files twin) : files.enter other = twin.enter other :=
  enter_congr (h.entry_eq base spot_ne_base.symm) (h.entry_eq home spot_ne_home.symm)

theorem look_eq (h : OneMore name content files twin) (hother : other ≠ name) :
    files.look home other = twin.look home other :=
  look_congr (h.entry_eq (spot other) fun heq => hother (spot_injective heq))

theorem find_eq (h : OneMore name content files twin) (hother : other ≠ name) :
    files.find other = twin.find other := by
  rw [find, find, h.enter_eq, h.look_eq hother]

theorem read_eq (h : OneMore name content files twin) (hname : IsName other)
    (hother : other ≠ name) : files.read other = twin.read other := by
  rw [read_of_isName hname, read_of_isName hname, h.find_eq hother]

theorem answer_write (h : OneMore name content files twin) (hname : IsName other)
    (hother : other ≠ name) (text : Text) :
    (answer (.write other text) files).1 = (answer (.write other text) twin).1 ∧
      OneMore name content (answer (.write other text) files).2
        (answer (.write other text) twin).2 := by
  rw [MemoryFiles.answer_write, MemoryFiles.answer_write, write_of_isName hname,
    write_of_isName hname, h.find_eq hother]
  cases twin.find other with
  | error fault => exact ⟨rfl, h⟩
  | ok found =>
      rcases found with _ | ⟨old⟩ | _
      · exact ⟨rfl, h.put hother _⟩
      · exact ⟨rfl, h.put hother _⟩
      · exact ⟨rfl, h⟩

theorem answer_rename (h : OneMore name content files twin) (hsource : IsName source)
    (htarget : IsName target) (hfrom : source ≠ name) (hto : target ≠ name) :
    (answer (.rename source target) files).1 = (answer (.rename source target) twin).1 ∧
      OneMore name content (answer (.rename source target) files).2
        (answer (.rename source target) twin).2 := by
  have hcargo : files.cargo source target = twin.cargo source target := by
    rw [cargo, cargo, h.enter_eq, h.enter_eq, h.look_eq hfrom, h.look_eq hto]
  rw [MemoryFiles.answer_rename, MemoryFiles.answer_rename, rename_of_isName hsource htarget,
    rename_of_isName hsource htarget, hcargo]
  cases twin.cargo source target with
  | error fault => exact ⟨rfl, h⟩
  | ok text => exact ⟨rfl, (h.drop hfrom).put hto _⟩

end OneMore

end CloudSteward.MemoryFiles
