import CloudSteward.Proofs.Files.Directory
import CloudSteward.Proofs.Trace

/-!
# A directory that may fail

A real system may refuse an action for reasons of its own, and a write that fails or is cut
short may leave anything behind in the file that it was writing.  Moving a file is different:
it is done or not done (`Performs`).  A program that is stopped has got as far as a first part
of one of its traces, so what a stop leaves behind is what the directory undergoes by that part
(`Undergoes`).
-/

namespace CloudSteward

/-- An action with the answer to it. -/
abbrev FileExchange :=
  Program.Exchange FileAction FileAction.Answer

namespace MemoryFiles

variable {files later : MemoryFiles} {name other : String} {content : Text}

/-- What may become of a directory when an action is performed and answered. -/
inductive Performs (files : MemoryFiles) : FileExchange → MemoryFiles → Prop where
  | regular (action : FileAction) :
      Performs files ⟨action, (answer action files).1⟩ (answer action files).2
  /-- The system refuses for a reason that only it knows. -/
  | refused (action : FileAction) (fault : FileFault) : Performs files ⟨action, .error fault⟩ files
  /-- A write fails on the way, or nobody is there any more to hear that it succeeded. -/
  | torn {path : String} {content part : Text} {later : MemoryFiles} (fault : FileFault) :
      files.write path part = .ok later → Performs files ⟨.write path content, .error fault⟩ later

/-- What may become of a directory by some actions after each other. -/
inductive Undergoes : MemoryFiles → List FileExchange → MemoryFiles → Prop where
  | none (files : MemoryFiles) : Undergoes files [] files
  | next {files middle later : MemoryFiles} {exchange : FileExchange}
      {exchanges : List FileExchange} : Performs files exchange middle →
        Undergoes middle exchanges later → Undergoes files (exchange :: exchanges) later

theorem undergoes_nil_iff : Undergoes files [] later ↔ later = files := by
  constructor
  · rintro ⟨⟩
    rfl
  · rintro rfl
    exact .none later

theorem undergoes_cons_iff {exchange : FileExchange} {exchanges : List FileExchange} :
    Undergoes files (exchange :: exchanges) later ↔
      ∃ middle, Performs files exchange middle ∧ Undergoes middle exchanges later := by
  constructor
  · rintro ⟨⟩
    exact ⟨_, ‹_›, ‹_›⟩
  · rintro ⟨middle, hfirst, hrest⟩
    exact .next hfirst hrest

theorem undergoes_singleton_iff {exchange : FileExchange} :
    Undergoes files [exchange] later ↔ Performs files exchange later := by
  rw [undergoes_cons_iff]
  constructor
  · rintro ⟨middle, hperforms, hrest⟩
    rw [undergoes_nil_iff.mp hrest]
    exact hperforms
  · intro hperforms
    exact ⟨later, hperforms, .none later⟩

/-- A program that runs undisturbed leaves a log behind that a failing system might show. -/
theorem exists_undergoes_of_run {α : Type} (program : FileProgram α) (files : MemoryFiles) :
    ∃ log, program.Trace log (files.run program).1 ∧ Undergoes files log (files.run program).2 := by
  induction program generalizing files with
  | done value => exact ⟨[], .done value, .none files⟩
  | ask action next ih =>
      obtain ⟨log, htrace, hlog⟩ := ih (answer action files).1 (answer action files).2
      exact ⟨_ :: log, .ask _ htrace, .next (.regular action) hlog⟩

theorem Performs.reading {path : String} (h : files.read path = .ok content) :
    Performs files ⟨.read path, .ok content⟩ files := by
  have hregular : Performs files ⟨.read path, files.read path⟩ files := .regular (.read path)
  rwa [h] at hregular

/-- Reading changes nothing, and shows what is there if it shows anything. -/
theorem performs_read {path : String} {reply : FileAction.Answer (.read path)}
    (h : Performs files ⟨.read path, reply⟩ later) :
    later = files ∧ ∀ content, reply = .ok content → files.read path = .ok content := by
  cases h with
  | regular => exact ⟨rfl, fun _ h => h⟩
  | refused => exact ⟨rfl, fun _ h => nomatch h⟩

/-- A change that is refused changes nothing. -/
theorem answer_write (files : MemoryFiles) (path : String) (content : Text) :
    answer (.write path content) files =
      match files.write path content with
      | .ok later => (.ok (), later)
      | .error fault => (.error fault, files) :=
  rfl

theorem answer_rename (files : MemoryFiles) (source target : String) :
    answer (.rename source target) files =
      match files.rename source target with
      | .ok later => (.ok (), later)
      | .error fault => (.error fault, files) :=
  rfl

/-- A write touches nothing but its file, which has the whole content if the write succeeds. -/
theorem performs_write (hname : IsName name) {reply : FileAction.Answer (.write name content)}
    (h : Performs files ⟨.write name content, reply⟩ later) :
    (later = files ∧ reply.isOk = false) ∨
      ∃ found part, files.find name = .ok found ∧ later = files.put (spot name) (.file part) ∧
        (reply.isOk = true → part = content) := by
  cases h with
  | regular =>
      rw [answer_write]
      cases hwrite : files.write name content with
      | error fault => exact .inl ⟨rfl, rfl⟩
      | ok later =>
          obtain ⟨⟨found, hfind, _⟩, rfl⟩ := (write_eq_ok_iff hname).mp hwrite
          exact .inr ⟨found, content, hfind, rfl, fun _ => rfl⟩
  | refused => exact .inl ⟨rfl, rfl⟩
  | torn fault hwrite =>
      obtain ⟨⟨found, hfind, _⟩, rfl⟩ := (write_eq_ok_iff hname).mp hwrite
      exact .inr ⟨found, _, hfind, rfl, nofun⟩

/-- A file is moved as a whole or stays where it is. -/
theorem performs_rename (hname : IsName name) (hother : IsName other)
    {reply : FileAction.Answer (.rename name other)}
    (h : Performs files ⟨.rename name other, reply⟩ later) :
    (later = files ∧ reply.isOk = false) ∨
      ∃ content replaced, files.find name = .ok (some (.file content)) ∧
        files.find other = .ok replaced ∧ reply.isOk = true ∧
        later = (files.drop (spot name)).put (spot other) (.file content) := by
  cases h with
  | regular =>
      rw [answer_rename]
      cases hrename : files.rename name other with
      | error fault => exact .inl ⟨rfl, rfl⟩
      | ok later =>
          obtain ⟨content, hfind, ⟨replaced, hreplaced, _⟩, rfl⟩ :=
            (rename_eq_ok_iff hname hother).mp hrename
          exact .inr ⟨content, replaced, hfind, hreplaced, rfl, rfl⟩
  | refused => exact .inl ⟨rfl, rfl⟩

end MemoryFiles

end CloudSteward
