import CloudSteward.Proofs.Files.Disruption
import CloudSteward.Proofs.Manifest
import CloudSteward.Proofs.Store.Keys

/-!
# Writes of manifests are all or nothing

A manifest is written as a draft, and the draft is then moved into place.  Whatever the system
does, only these two files change, and nobody who asks for keys or manifests ever sees the
draft.  So until the draft is moved everything is as it was before (`Untouched`), and from then
on the new manifest is there as a whole and nothing else has changed (`Stored`).
-/

namespace CloudSteward.Store

variable {key other : String} {resource : Resource} {log rest : List FileExchange}
  {files later : MemoryFiles}

/-! ## What is done with the files -/

/-- The reading of a manifest. -/
def reading (key : String) (reply : FileAction.Answer (.read (path key))) : FileExchange :=
  ⟨.read (path key), reply⟩

/-- The writing of a draft. -/
def drafting (key : String) (resource : Resource)
    (reply : FileAction.Answer (.write (draftPath key) (content resource))) : FileExchange :=
  ⟨.write (draftPath key) (content resource), reply⟩

/-- The moving of a draft into place. -/
def placing (key : String) (reply : FileAction.Answer (.rename (draftPath key) (path key))) :
    FileExchange :=
  ⟨.rename (draftPath key) (path key), reply⟩

theorem reading_injective {first second : FileAction.Answer (.read (path key))}
    (h : reading key first = reading key second) : first = second :=
  eq_of_heq (Program.Exchange.mk.inj h).2

theorem placing_ne_drafting {placed : FileAction.Answer (.rename (draftPath key) (path key))}
    {drafted : FileAction.Answer (.write (draftPath key) (content resource))} :
    placing key placed ≠ drafting key resource drafted :=
  fun h => nomatch congrArg Program.Exchange.question h

theorem placing_injective {first second : FileAction.Answer (.rename (draftPath key) (path key))}
    (h : placing key first = placing key second) : first = second :=
  eq_of_heq (Program.Exchange.mk.inj h).2

/-- What is made of the answer to the reading of a manifest. -/
def loaded (key : String) : Except FileFault Text → Except StoreError Resource
  | .error .missing => .error (.notFound key)
  | .error fault => .error (.io fault)
  | .ok content => (Resource.codec.decode content).mapError (.malformed key)

/-- A manifest is read with one look at its file. -/
theorem trace_get {found : Except StoreError Resource} (h : (get key).Trace log found) :
    ∃ reply, log = [reading key reply] ∧ found = loaded key reply := by
  obtain ⟨reply, rest, rfl, hrest⟩ := Program.trace_ask_iff.mp h
  refine ⟨reply, ?_⟩
  cases reply with
  | error fault =>
      cases fault <;>
        · obtain ⟨rfl, rfl⟩ := Program.trace_done_iff.mp hrest
          exact ⟨rfl, rfl⟩
  | ok content =>
      obtain ⟨rfl, rfl⟩ := Program.trace_done_iff.mp hrest
      exact ⟨rfl, rfl⟩

/-- A manifest is written as a draft that is then moved into place. -/
theorem trace_put {outcome : Except StoreError Unit} (h : (put key resource).Trace log outcome) :
    (∃ fault, log = [drafting key resource (.error fault)] ∧ outcome = .error (.io fault)) ∨
      ∃ placed, log = [drafting key resource (.ok ()), placing key placed] ∧
        outcome = placed.mapError .io := by
  obtain ⟨drafted, rest, rfl, hrest⟩ := Program.trace_ask_iff.mp h
  cases drafted with
  | error fault =>
      obtain ⟨rfl, rfl⟩ := Program.trace_done_iff.mp hrest
      exact .inl ⟨fault, rfl, rfl⟩
  | ok =>
      obtain ⟨placed, last, rfl, hlast⟩ := Program.trace_ask_iff.mp hrest
      obtain ⟨rfl, rfl⟩ := Program.trace_done_iff.mp hlast
      exact .inr ⟨placed, rfl, rfl⟩

/-! ## What is read back -/

theorem run_get (key : String) (files : MemoryFiles) :
    (files.run (get key)).1 = loaded key (files.read (path key)) := by
  have hanswer : MemoryFiles.answer (.read (path key)) files = (files.read (path key), files) := rfl
  unfold MemoryFiles.run get FileAction.perform Program.perform
  simp only [Program.ask_bind, Program.done_bind, Program.run, bind, StateT.bind, hanswer]
  rcases files.read (path key) with fault | content
  · cases fault <;> rfl
  · rfl

/-- A resource is got if its manifest is found in the directory. -/
theorem get_of_find {found : Text} (hkey : IsKey key)
    (hfound : files.find (path key) = .ok (some (.file found)))
    (hdecode : Resource.codec.decode found = .ok resource) :
    (files.run (get key)).1 = .ok resource := by
  rw [run_get, MemoryFiles.read_of_isName hkey.isName_path, hfound]
  exact congrArg (Except.mapError _) hdecode

theorem run_keys (files : MemoryFiles) :
    (files.run keys).1 = files.list.map fun names => sortKeys (names.filterMap keyOf?) :=
  rfl

/-! ## Before the draft is moved -/

open MemoryFiles (spot)

/-- What a write leaves behind as long as its draft has not been moved. -/
structure Untouched (key : String) (files later : MemoryFiles) : Prop where
  get : ∀ other, IsKey other → (later.run (Store.get other)).1 = (files.run (Store.get other)).1
  keys : (later.run Store.keys).1 = (files.run Store.keys).1
  elsewhere : ∀ place, place ≠ spot (draftPath key) → later.entry? place = files.entry? place

theorem Untouched.refl (key : String) (files : MemoryFiles) : Untouched key files files :=
  ⟨fun _ _ => rfl, rfl, fun _ _ => rfl⟩

theorem Untouched.trans {middle : MemoryFiles} (hfirst : Untouched key files middle)
    (hsecond : Untouched key middle later) : Untouched key files later where
  get other hother := (hsecond.get other hother).trans (hfirst.get other hother)
  keys := hsecond.keys.trans hfirst.keys
  elsewhere place hplace := (hsecond.elsewhere place hplace).trans (hfirst.elsewhere place hplace)

/-- A name that belongs to no key may be listed or not. -/
theorem filterMap_keyOf?_without {name : String} (hname : keyOf? name = none)
    (names : List String) :
    (names.filter (· ≠ name)).filterMap keyOf? = names.filterMap keyOf? := by
  rw [List.filterMap_filter]
  refine List.filterMap_congr fun other _ => ?_
  by_cases hother : other = name
  · simp [hother, hname]
  · simp [hother]

/-- A draft is not listed, and has a name of its own. -/
theorem untouched_of_draft (part : Text) :
    Untouched key files (files.put (spot (draftPath key)) (.file part)) where
  get other hother := by
    rw [run_get, run_get, MemoryFiles.read_of_isName hother.isName_path,
      MemoryFiles.read_of_isName hother.isName_path, MemoryFiles.find_put_of_ne path_ne_draftPath]
  keys := by
    have hnames (names : List String) :
        (names.filter (· ≠ draftPath key) ++ [draftPath key]).filterMap keyOf? =
          names.filterMap keyOf? := by
      rw [List.filterMap_append, filterMap_keyOf?_without keyOf?_draftPath]
      simp [keyOf?_draftPath]
    rw [run_keys, run_keys, MemoryFiles.list_put]
    cases files.list with
    | error fault => rfl
    | ok names => exact congrArg (fun keys => Except.ok (sortKeys keys)) (hnames names)
  elsewhere place hplace := MemoryFiles.entry?_put_of_ne hplace

/-! ## After the draft was moved -/

/-- What a write leaves behind once its draft has been moved. -/
structure Stored (key : String) (resource : Resource) (files later : MemoryFiles) : Prop where
  get : (later.run (Store.get key)).1 = .ok resource
  /-- Every other manifest has the bytes that it had. -/
  others : ∀ other, IsKey other → other ≠ key → later.read (path other) = files.read (path other)
  keys : ∃ before after, (files.run Store.keys).1 = .ok before ∧
    (later.run Store.keys).1 = .ok after ∧ after.Pairwise (· < ·) ∧
    ∀ other, other ∈ after ↔ other = key ∨ other ∈ before
  undrafted : later.entry? (spot (draftPath key)) = none
  elsewhere : ∀ place, place ≠ spot (path key) → place ≠ spot (draftPath key) →
    later.entry? place = files.entry? place

/-- The files after a draft with some content was written and moved into place. -/
def moved (key : String) (content : Text) (files : MemoryFiles) : MemoryFiles :=
  ((files.put (spot (draftPath key)) (.file content)).drop (spot (draftPath key))).put
    (spot (path key)) (.file content)

theorem list_moved {names : List String} {content : Text} (h : files.list = .ok names) :
    (moved key content files).list =
      .ok ((names.filter (· ≠ draftPath key)).filter (· ≠ path key) ++ [path key]) := by
  rw [moved, MemoryFiles.list_put, MemoryFiles.list_drop, MemoryFiles.list_put, h]
  simp [Except.map]

theorem find_moved_of_ne {name : String} {content : Text} (hpath : name ≠ path key)
    (hdraft : name ≠ draftPath key) : (moved key content files).find name = files.find name := by
  rw [moved, MemoryFiles.find_put_of_ne hpath, MemoryFiles.find_drop_of_ne hdraft,
    MemoryFiles.find_put_of_ne hdraft]

theorem keys_moved {content : Text} {found : Option Entry} (hkey : IsKey key)
    (hfound : files.find (path key) = .ok found) :
    ∃ before after, (files.run Store.keys).1 = .ok before ∧
      ((moved key content files).run Store.keys).1 = .ok after ∧ after.Pairwise (· < ·) ∧
      ∀ other, other ∈ after ↔ other = key ∨ other ∈ before := by
  have hbefore := MemoryFiles.list_of_find hfound
  have hafter : (moved key content files).list = _ := list_moved hbefore
  refine ⟨_, _, (run_keys _).trans (congrArg (Except.map _) hbefore),
    (run_keys _).trans (congrArg (Except.map _) hafter), ?_, fun other => ?_⟩
  · exact ascending_sortKeys (nodup_filterMap_keyOf? (MemoryFiles.nodup_of_list hafter))
  · rw [mem_sortKeys_iff, mem_sortKeys_iff, mem_filterMap_keyOf?_iff, mem_filterMap_keyOf?_iff]
    by_cases hother : other = key
    · simp [hother, hkey.keyOf?_path]
    · have hne : path other ≠ path key := fun h => hother (path_injective h)
      simp [hother, hne, path_ne_draftPath]

/-- A draft that is moved into place becomes the manifest, and nothing else changes. -/
theorem stored_moved {found : Option Entry} (hkey : IsKey key)
    (hfound : files.find (path key) = .ok found) :
    Stored key resource files (moved key (content resource) files) where
  get := by
    have hopen : ((files.put (spot (draftPath key)) (.file (content resource))).drop
        (spot (draftPath key))).find (path key) = .ok found := by
      rw [MemoryFiles.find_drop_of_ne path_ne_draftPath,
        MemoryFiles.find_put_of_ne path_ne_draftPath, hfound]
    exact get_of_find hkey (MemoryFiles.find_put_self hopen) resource.decode_content
  others other hother hne := by
    rw [MemoryFiles.read_of_isName hother.isName_path,
      MemoryFiles.read_of_isName hother.isName_path,
      find_moved_of_ne (fun h => hne (path_injective h)) path_ne_draftPath]
  keys := keys_moved hkey hfound
  undrafted := by
    have hne : spot (draftPath key) ≠ spot (path key) :=
      fun h => path_ne_draftPath (MemoryFiles.spot_injective h).symm
    rw [moved, MemoryFiles.entry?_put_of_ne hne,
      MemoryFiles.entry?_drop_self _ MemoryFiles.spot_ne_nil]
  elsewhere place hpath hdraft := by
    rw [moved, MemoryFiles.entry?_put_of_ne hpath, MemoryFiles.entry?_drop_of_ne hdraft,
      MemoryFiles.entry?_put_of_ne hdraft]

/-! ## Writes that may be stopped -/

/-- Nothing but the draft is written, and nothing but the draft is moved. -/
theorem eq_drafting_or_placing {outcome : Except StoreError Unit}
    (h : (put key resource).Trace log outcome) :
    ∀ exchange ∈ log, (∃ reply, exchange = drafting key resource reply) ∨
      ∃ reply, exchange = placing key reply := by
  rcases trace_put h with ⟨fault, rfl, _⟩ | ⟨placed, rfl, _⟩
  · exact List.forall_mem_singleton.mpr (.inl ⟨_, rfl⟩)
  · exact List.forall_mem_cons.mpr
      ⟨.inl ⟨_, rfl⟩, List.forall_mem_singleton.mpr (.inr ⟨placed, rfl⟩)⟩

theorem untouched_of_drafting (hkey : IsKey key)
    {reply : FileAction.Answer (.write (draftPath key) (content resource))}
    (h : MemoryFiles.Performs files (drafting key resource reply) later) :
    Untouched key files later := by
  rcases MemoryFiles.performs_write hkey.isName_draftPath h with ⟨rfl, _⟩ | ⟨_, part, _, rfl, _⟩
  · exact .refl key later
  · exact untouched_of_draft part

/-- As long as no move succeeds, nothing but the draft changes. -/
theorem untouched_of_undergoes (hkey : IsKey key)
    (hparts : ∀ exchange ∈ log, (∃ reply, exchange = drafting key resource reply) ∨
      ∃ reply, exchange = placing key reply)
    (hunplaced : placing key (.ok ()) ∉ log) (hlog : MemoryFiles.Undergoes files log later) :
    Untouched key files later := by
  induction hlog with
  | none files => exact .refl key files
  | next hperforms _ ih =>
      obtain ⟨hpart, hparts⟩ := List.forall_mem_cons.mp hparts
      obtain ⟨hfirst, hunplaced⟩ := not_or.mp (mt List.mem_cons.mpr hunplaced)
      refine .trans ?_ (ih hparts hunplaced)
      rcases hpart with ⟨reply, rfl⟩ | ⟨reply, rfl⟩
      · exact untouched_of_drafting hkey hperforms
      · rcases MemoryFiles.performs_rename hkey.isName_draftPath hkey.isName_path hperforms with
          ⟨rfl, _⟩ | ⟨_, _, _, _, hok, _⟩
        · exact .refl key _
        · cases reply with
          | error fault => cases hok
          | ok => exact absurd rfl hfirst

/-- A write in which the draft was moved wrote it as a whole before. -/
theorem log_of_placed {outcome : Except StoreError Unit}
    (htrace : (put key resource).Trace log outcome) (hplaced : placing key (.ok ()) ∈ log) :
    log = [drafting key resource (.ok ()), placing key (.ok ())] := by
  rcases trace_put htrace with ⟨fault, rfl, _⟩ | ⟨placed, rfl, _⟩
  · exact absurd (List.mem_singleton.mp hplaced) placing_ne_drafting
  · rcases List.mem_cons.mp hplaced with hdraft | hplaced
    · exact absurd hdraft placing_ne_drafting
    · rw [placing_injective (List.mem_singleton.mp hplaced)]

/-- Such a write can be cut before the draft, between draft and move, or behind both. -/
theorem cut_of_placed {outcome : Except StoreError Unit}
    (htrace : (put key resource).Trace (log ++ rest) outcome)
    (hplaced : placing key (.ok ()) ∈ log ++ rest) :
    (log = [] ∧ rest = [drafting key resource (.ok ()), placing key (.ok ())]) ∨
      (log = [drafting key resource (.ok ())] ∧ rest = [placing key (.ok ())]) ∨
      (log = [drafting key resource (.ok ()), placing key (.ok ())] ∧ rest = []) := by
  have hall := log_of_placed htrace hplaced
  rcases List.append_eq_cons_iff.mp hall with ⟨rfl, hrest⟩ | ⟨front, rfl, hback⟩
  · exact .inl ⟨rfl, hrest⟩
  rcases List.append_eq_cons_iff.mp hback.symm with ⟨rfl, hrest⟩ | ⟨front, rfl, hend⟩
  · exact .inr (.inl ⟨rfl, hrest⟩)
  · obtain ⟨rfl, rfl⟩ := List.append_eq_nil_iff.mp hend.symm
    exact .inr (.inr ⟨rfl, rfl⟩)

/-- A write whose draft has been moved is over. -/
theorem eq_of_placed {outcome : Except StoreError Unit}
    (htrace : (put key resource).Trace (log ++ rest) outcome)
    (hplaced : placing key (.ok ()) ∈ log) :
    log = [drafting key resource (.ok ()), placing key (.ok ())] := by
  rcases cut_of_placed htrace (List.mem_append_left rest hplaced) with
    ⟨rfl, _⟩ | ⟨rfl, _⟩ | ⟨hlog, _⟩
  · cases hplaced
  · exact absurd (List.mem_singleton.mp hplaced) placing_ne_drafting
  · exact hlog

theorem placed_of_isOk (htrace : (put key resource).Trace log (.ok ())) :
    placing key (.ok ()) ∈ log := by
  rcases trace_put htrace with ⟨fault, rfl, hnot⟩ | ⟨placed, rfl, hok⟩
  · cases hnot
  · cases placed with
    | error fault => cases hok
    | ok => exact List.mem_cons_of_mem _ List.mem_cons_self

/-- A draft that is there as a whole becomes the manifest. -/
theorem find_of_placing {resting : Text} (hkey : IsKey key)
    (hdraft : files.find (draftPath key) = .ok (some (.file resting)))
    (hplace : MemoryFiles.Performs files (placing key (.ok ())) later) :
    (∃ found, files.find (path key) = .ok found) ∧
      later = (files.drop (spot (draftPath key))).put (spot (path key)) (.file resting) := by
  rcases MemoryFiles.performs_rename hkey.isName_draftPath hkey.isName_path hplace with
    ⟨_, hnot⟩ | ⟨moving, replaced, hmoving, hreplaced, _, rfl⟩
  · cases hnot
  · rw [hdraft] at hmoving
    have hsame : resting = moving := Entry.file.inj (Option.some.inj (Except.ok.inj hmoving))
    rw [hsame]
    exact ⟨⟨replaced, hreplaced⟩, rfl⟩

theorem draft_of_drafting (hkey : IsKey key)
    (hdraft : MemoryFiles.Performs files (drafting key resource (.ok ())) later) :
    (∃ found, files.find (draftPath key) = .ok found) ∧
      later = files.put (spot (draftPath key)) (.file (content resource)) := by
  rcases MemoryFiles.performs_write hkey.isName_draftPath hdraft with
    ⟨_, hnot⟩ | ⟨found, part, hfind, rfl, hpart⟩
  · cases hnot
  · rw [hpart rfl]
    exact ⟨⟨found, hfind⟩, rfl⟩

theorem stored_of_placed {outcome : Except StoreError Unit} (hkey : IsKey key)
    (htrace : (put key resource).Trace (log ++ rest) outcome)
    (hlog : MemoryFiles.Undergoes files log later) (hplaced : placing key (.ok ()) ∈ log) :
    Stored key resource files later := by
  rw [eq_of_placed htrace hplaced] at hlog
  obtain ⟨middle, hdraft, hlog⟩ := MemoryFiles.undergoes_cons_iff.mp hlog
  have hplace := MemoryFiles.undergoes_singleton_iff.mp hlog
  obtain ⟨⟨found, hfound⟩, hmiddle⟩ := draft_of_drafting hkey hdraft
  rw [hmiddle] at hplace
  obtain ⟨⟨replaced, hreplaced⟩, hlater⟩ :=
    find_of_placing hkey (MemoryFiles.find_put_self hfound) hplace
  rw [hlater]
  exact stored_moved hkey ((MemoryFiles.find_put_of_ne path_ne_draftPath).symm.trans hreplaced)

/-- Undisturbed, a write succeeds wherever neither file is a folder. -/
theorem run_put {found replaced : Option Entry} (hkey : IsKey key)
    (hfound : files.find (draftPath key) = .ok found) (hdraft : found ≠ some .folder)
    (hreplaced : files.find (path key) = .ok replaced) (hpath : replaced ≠ some .folder) :
    files.run (put key resource) = (.ok (), moved key (content resource) files) := by
  have hwrite : files.write (draftPath key) (content resource) = .ok _ :=
    (MemoryFiles.write_eq_ok_iff hkey.isName_draftPath).mpr ⟨⟨found, hfound, hdraft⟩, rfl⟩
  have hrename : (files.put (spot (draftPath key)) (.file (content resource))).rename
      (draftPath key) (path key) = .ok (moved key (content resource) files) :=
    (MemoryFiles.rename_eq_ok_iff hkey.isName_draftPath hkey.isName_path).mpr
      ⟨content resource, MemoryFiles.find_put_self hfound,
        ⟨replaced, (MemoryFiles.find_put_of_ne path_ne_draftPath).trans hreplaced, hpath⟩, rfl⟩
  unfold MemoryFiles.run put FileAction.perform Program.perform
  simp only [Program.ask_bind, Program.done_bind, Program.run, bind, StateT.bind,
    MemoryFiles.answer_write, MemoryFiles.answer_rename, hwrite, hrename]
  rfl

theorem undergoes_put {found replaced : Option Entry} (hkey : IsKey key)
    (hfound : files.find (draftPath key) = .ok found) (hdraft : found ≠ some .folder)
    (hreplaced : files.find (path key) = .ok replaced) (hpath : replaced ≠ some .folder) :
    files.Undergoes [drafting key resource (.ok ()), placing key (.ok ())]
      (moved key (content resource) files) := by
  obtain ⟨log, htrace, hlog⟩ := MemoryFiles.exists_undergoes_of_run (put key resource) files
  rw [run_put hkey hfound hdraft hreplaced hpath] at htrace hlog
  rwa [log_of_placed htrace (placed_of_isOk htrace)] at hlog

/-- However far a write gets, and whatever the system makes of it: if the draft was moved, the
new manifest is there and nothing else has changed, and otherwise everything is as it was.  A
write that succeeds has moved its draft. -/
theorem put_all_or_nothing {outcome : Except StoreError Unit} (hkey : IsKey key)
    (htrace : (put key resource).Trace (log ++ rest) outcome)
    (hlog : MemoryFiles.Undergoes files log later) :
    (placing key (.ok ()) ∈ log → Stored key resource files later) ∧
      (placing key (.ok ()) ∉ log → Untouched key files later) ∧
      (rest = [] → outcome = .ok () → placing key (.ok ()) ∈ log) := by
  refine ⟨stored_of_placed hkey htrace hlog, fun hunplaced => ?_, ?_⟩
  · have hparts := (List.forall_mem_append.mp (eq_drafting_or_placing htrace)).1
    exact untouched_of_undergoes hkey hparts hunplaced hlog
  · rintro rfl rfl
    rw [List.append_nil] at htrace
    exact placed_of_isOk htrace

/-- A project without a status. -/
def blankProject : Resource :=
  .project {
    metadata := .new "k"
    spec := { name := "k", accessRoles := [], integrations := [] }
    status := .blank }

/-- In an empty directory a project is stored, or a part of its draft is left behind. -/
theorem all_or_nothing_blankProject :
    (∃ log later, (put "k" blankProject).Trace (log ++ []) (.ok ()) ∧
      MemoryFiles.empty.Undergoes log later ∧ Stored "k" blankProject .empty later) ∧
    ∃ later, MemoryFiles.empty.Undergoes [drafting "k" blankProject (.error .busy)] later ∧
      later ≠ .empty ∧ Untouched "k" .empty later := by
  have hkey : IsKey "k" := ⟨by decide, by decide, by decide⟩
  have hdraft : MemoryFiles.empty.find (draftPath "k") = .ok none := by decide
  have hpath : MemoryFiles.empty.find (path "k") = .ok none := by decide
  constructor
  · have htrace : (put "k" blankProject).Trace
        ([drafting "k" blankProject (.ok ()), placing "k" (.ok ())] ++ []) (.ok ()) :=
      .ask _ (.ask _ (.done _))
    have hlog : MemoryFiles.empty.Undergoes
        [drafting "k" blankProject (.ok ()), placing "k" (.ok ())] _ :=
      undergoes_put hkey hdraft nofun hpath nofun
    obtain ⟨hstored, _, hmoved⟩ := put_all_or_nothing hkey htrace hlog
    exact ⟨_, _, htrace, hlog, hstored (hmoved rfl rfl)⟩
  · have hwrite : MemoryFiles.empty.write (draftPath "k") [] = .ok _ :=
      (MemoryFiles.write_eq_ok_iff hkey.isName_draftPath).mpr ⟨⟨none, hdraft, nofun⟩, rfl⟩
    have hlog : MemoryFiles.empty.Undergoes [drafting "k" blankProject (.error .busy)] _ :=
      .next (.torn .busy hwrite) (.none _)
    have htrace : (put "k" blankProject).Trace ([drafting "k" blankProject (.error .busy)] ++ [])
        (.error (.io .busy)) := .ask _ (.done _)
    have hunplaced : placing "k" (.ok ()) ∉ [drafting "k" blankProject (.error .busy)] :=
      fun hmem => placing_ne_drafting (List.mem_singleton.mp hmem)
    exact ⟨_, hlog, by decide, (put_all_or_nothing hkey htrace hlog).2.1 hunplaced⟩

end CloudSteward.Store
