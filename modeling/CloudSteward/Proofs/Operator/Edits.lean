import CloudSteward.Proofs.Frame
import CloudSteward.Proofs.Operator.Timing

/-!
# Edits that cross a pass

An author replaces a manifest, in one step, while the operator is at work on it: the log of the
visit is cut in two, and the edit falls between the parts.  The operator gives back what it has
read, with its own report on it (`Resource.Repeats`).  So the edit is there to stay if it comes
before the manifest is read, or if the draft has been moved already, or never is; and if it
crosses the pass, read before and written after, then what was read before is put in its place
(`stored_of_edit`).  The operator does not notice.
-/

namespace CloudSteward

open Json

namespace Operator

open MemoryFiles (spot)

/-! ## What the directory sees of a visit -/

/-- The exchange with the directory that an event is, if it is one. -/
def Event.file? : Event → Option FileExchange
  | ⟨.file action, reply⟩ => some ⟨action, reply⟩
  | _ => none

/-- What the directory sees of a log. -/
def filesOf (log : List Event) : List FileExchange :=
  log.filterMap Event.file?

variable {operator : Operator} {key : String} {now : Nat} {log first second : List Event}
  {outcome : Bool × Operator}

theorem filesOf_append : filesOf (first ++ second) = filesOf first ++ filesOf second :=
  List.filterMap_append

theorem filesOf_ofFile (exchanges : List FileExchange) :
    filesOf (exchanges.map Event.ofFile) = exchanges := by
  unfold filesOf
  rw [List.filterMap_map]
  exact List.filterMap_some

theorem filesOf_ofCall (exchanges : List Exchange) : filesOf (exchanges.map Event.ofCall) = [] := by
  unfold filesOf
  rw [List.filterMap_map]
  exact List.filterMap_eq_nil_iff.mpr fun _ _ => rfl

/-- What a visit does with the files: it reads the manifest, and perhaps writes what was read
back, with a report on it. -/
inductive Handled (key : String) : List FileExchange → Prop where
  | seen (reply : FileAction.Answer (.read (Store.path key))) :
      Handled key [Store.reading key reply]
  | answered {content : Text} {found after : Resource} {exchanges : List FileExchange}
      {outcome : Except StoreError Unit} : Resource.codec.decode content = .ok found →
        after.Repeats found → (Store.put key after).Trace exchanges outcome →
          Handled key (Store.reading key (.ok content) :: exchanges)

theorem handled_of_persist {content : Text} {found : Resource} {policy : Policy} {moment : Moment}
    {reconciled : Reconciled Resource} {exchanges : List Exchange} {writes : List Event}
    {outcome : Except StoreError Unit} (hdecode : Resource.codec.decode content = .ok found)
    (hpass : (found.reconcile policy moment).Trace exchanges reconciled)
    (hwrites : (persist key found reconciled.resource).Trace writes outcome) :
    Handled key (Store.reading key (.ok content) :: filesOf writes) := by
  unfold persist at hwrites
  split at hwrites
  · obtain ⟨rfl, _⟩ := Program.trace_done_iff.mp hwrites
    exact .seen _
  · obtain ⟨exchanges, hput, rfl⟩ := trace_liftFile_iff.mp hwrites
    rw [filesOf_ofFile]
    exact .answered hdecode (Resource.repeats_of_reconcile hpass) hput

theorem handled_of_visit (h : (operator.visit now key).Trace log outcome) :
    Handled key (filesOf log) := by
  have hfiles (content : Text) (moment : Moment) (exchanges : List Exchange) (writes : List Event) :
      filesOf (.reading key (.ok content) :: ⟨.moment, moment⟩ ::
        (exchanges.map Event.ofCall ++ writes)) =
          Store.reading key (.ok content) :: filesOf writes := by
    show Store.reading key (.ok content) :: filesOf (exchanges.map Event.ofCall ++ writes) = _
    rw [filesOf_append, filesOf_ofCall, List.nil_append]
  rcases trace_visit h with ⟨reply, rfl, _⟩ | ⟨round, _, hlogged, _⟩
  · exact .seen reply
  · cases hlogged with
    | left _ => exact .seen _
    | lost hdecode hpass hwrites =>
        rw [hfiles]
        exact handled_of_persist hdecode hpass hwrites
    | saved hdecode hpass hwrites =>
        rw [hfiles, filesOf_append]
        exact List.append_nil _ ▸ handled_of_persist hdecode hpass hwrites

/-! ## An edit in the middle of a visit -/

/-- Whether a manifest was read in the first part of a visit and written in the second. -/
structure Crossed (key : String) (first second : List FileExchange) : Prop where
  read : ∃ reply, Store.reading key reply ∈ first
  written : Store.placing key (.ok ()) ∈ second

section Edit

variable {files before edited later : MemoryFiles} {content : Text} {theirs after : Resource}
  {first second : List FileExchange} {written : Except StoreError Unit}

/-- Right after an edit the manifest is what the author wrote. -/
theorem find_of_edit (hkey : Store.IsKey key)
    (hedit : before.write (Store.path key) content = .ok edited) :
    edited.find (Store.path key) = .ok (some (.file content)) := by
  obtain ⟨⟨found, hfound, _⟩, rfl⟩ := (MemoryFiles.write_eq_ok_iff hkey.isName_path).mp hedit
  exact MemoryFiles.find_put_self hfound

/-- A draft that is moved after an edit takes its place, also if it was written before. -/
theorem get_of_placed (hkey : Store.IsKey key)
    (hput : (Store.put key after).Trace (first ++ second) written)
    (hfirst : files.Undergoes first before)
    (hedit : before.write (Store.path key) content = .ok edited)
    (hsecond : edited.Undergoes second later) (hplaced : Store.placing key (.ok ()) ∈ second) :
    (later.run (Store.get key)).1 = .ok after := by
  rcases Store.cut_of_placed hput (List.mem_append_right first hplaced) with
    ⟨rfl, _⟩ | ⟨rfl, rfl⟩ | ⟨_, rfl⟩
  · have hwhole : (Store.put key after).Trace (second ++ []) written := by
      rwa [List.append_nil]
    exact (Store.stored_of_placed hkey hwhole hsecond hplaced).get
  · have hdraft := MemoryFiles.undergoes_singleton_iff.mp hfirst
    have hplace := MemoryFiles.undergoes_singleton_iff.mp hsecond
    obtain ⟨⟨found, hfound⟩, hbefore⟩ := Store.draft_of_drafting hkey hdraft
    -- The edit leaves the draft alone, so it is still there as a whole.
    have hdrafted : edited.find (Store.draftPath key) =
        .ok (some (.file (Store.content after))) := by
      obtain ⟨_, rfl⟩ := (MemoryFiles.write_eq_ok_iff hkey.isName_path).mp hedit
      rw [MemoryFiles.find_put_of_ne Store.path_ne_draftPath.symm, hbefore]
      exact MemoryFiles.find_put_self hfound
    obtain ⟨⟨replaced, hreplaced⟩, hlater⟩ := Store.find_of_placing hkey hdrafted hplace
    have hopen : (edited.drop (spot (Store.draftPath key))).find (Store.path key) = .ok replaced :=
      (MemoryFiles.find_drop_of_ne Store.path_ne_draftPath).trans hreplaced
    rw [hlater]
    exact Store.get_of_find hkey (MemoryFiles.find_put_self hopen) after.decode_content
  · cases hplaced

/-- A write of which no draft is moved after an edit leaves the edit alone. -/
theorem get_of_unplaced (hkey : Store.IsKey key)
    (hput : (Store.put key after).Trace (first ++ second) written)
    (hedit : before.write (Store.path key) content = .ok edited)
    (htheirs : Resource.codec.decode content = .ok theirs)
    (hsecond : edited.Undergoes second later) (hunplaced : Store.placing key (.ok ()) ∉ second) :
    (later.run (Store.get key)).1 = .ok theirs := by
  have hparts := (List.forall_mem_append.mp (Store.eq_drafting_or_placing hput)).2
  have huntouched := Store.untouched_of_undergoes hkey hparts hunplaced hsecond
  exact (huntouched.get key hkey).trans (Store.get_of_find hkey (find_of_edit hkey hedit) htheirs)

/-- A visit that has not read the manifest yet reads what the author wrote. -/
theorem stored_of_handled_after (hkey : Store.IsKey key) (hhandled : Handled key second)
    (hedit : before.write (Store.path key) content = .ok edited)
    (htheirs : Resource.codec.decode content = .ok theirs)
    (hsecond : edited.Undergoes second later) :
    ∃ stored, (later.run (Store.get key)).1 = .ok stored ∧ stored.Repeats theirs := by
  have hthere := find_of_edit hkey hedit
  cases hhandled with
  | seen reply =>
      obtain ⟨rfl, _⟩ := MemoryFiles.performs_read (MemoryFiles.undergoes_singleton_iff.mp hsecond)
      exact ⟨theirs, Store.get_of_find hkey hthere htheirs, .refl theirs⟩
  | @answered old found after exchanges written hdecode hrepeats hput =>
      obtain ⟨middle, hreading, hrest⟩ := MemoryFiles.undergoes_cons_iff.mp hsecond
      obtain ⟨rfl, hshown⟩ := MemoryFiles.performs_read hreading
      have hread : middle.read (Store.path key) = .ok content := by
        rw [MemoryFiles.read_of_isName hkey.isName_path, hthere]
        rfl
      obtain rfl : content = old := Except.ok.inj (hread.symm.trans (hshown old rfl))
      obtain rfl : theirs = found := Except.ok.inj (htheirs.symm.trans hdecode)
      have hput : (Store.put key after).Trace ([] ++ exchanges) written := hput
      by_cases hplaced : Store.placing key (.ok ()) ∈ exchanges
      · exact ⟨after, get_of_placed hkey hput (.none before) hedit hrest hplaced, hrepeats⟩
      · exact ⟨theirs, get_of_unplaced hkey hput hedit htheirs hrest hplaced, .refl theirs⟩

/-- What a manifest says after an edit that falls into a visit. -/
theorem stored_of_handled (hkey : Store.IsKey key) (hhandled : Handled key (first ++ second))
    (hfirst : files.Undergoes first before)
    (hedit : before.write (Store.path key) content = .ok edited)
    (htheirs : Resource.codec.decode content = .ok theirs)
    (hsecond : edited.Undergoes second later) :
    ∃ stored, (later.run (Store.get key)).1 = .ok stored ∧
      (¬Crossed key first second → stored.Repeats theirs) ∧
      (Crossed key first second → ∃ old found, Store.reading key (.ok old) ∈ first ∧
        Resource.codec.decode old = .ok found ∧ stored.Repeats found) := by
  cases first with
  | nil =>
      obtain ⟨stored, hget, hrepeats⟩ :=
        stored_of_handled_after hkey hhandled hedit htheirs hsecond
      exact ⟨stored, hget, fun _ => hrepeats, fun ⟨⟨_, hread⟩, _⟩ => nomatch hread⟩
  | cons exchange first =>
      generalize hall : exchange :: first ++ second = all at hhandled
      cases hhandled with
      | seen reply =>
          obtain ⟨rfl, hnone⟩ := List.cons.inj hall
          obtain ⟨rfl, rfl⟩ := List.append_eq_nil_iff.mp hnone
          rw [MemoryFiles.undergoes_nil_iff.mp hsecond]
          exact ⟨theirs, Store.get_of_find hkey (find_of_edit hkey hedit) htheirs,
            fun _ => .refl theirs, fun ⟨_, hwritten⟩ => nomatch hwritten⟩
      | @answered old found after exchanges written hdecode hrepeats hput =>
          obtain ⟨rfl, rfl⟩ := List.cons.inj hall
          obtain ⟨middle, _, hfirst⟩ := MemoryFiles.undergoes_cons_iff.mp hfirst
          by_cases hplaced : Store.placing key (.ok ()) ∈ second
          · refine ⟨after, get_of_placed hkey hput hfirst hedit hsecond hplaced, fun hnot => ?_,
              fun _ => ⟨old, found, List.mem_cons_self, hdecode, hrepeats⟩⟩
            exact absurd ⟨⟨_, List.mem_cons_self⟩, hplaced⟩ hnot
          · exact ⟨theirs, get_of_unplaced hkey hput hedit htheirs hsecond hplaced,
              fun _ => .refl theirs, fun ⟨_, hwritten⟩ => absurd hwritten hplaced⟩

/-- After a visit with an edit in the middle of it the manifest says what the author wrote,
unless the edit crossed the pass; then it says what was read before. -/
theorem stored_of_edit {operator : Operator} {now : Nat} {first second : List Event}
    {outcome : Bool × Operator} (hkey : Store.IsKey key)
    (hvisit : (operator.visit now key).Trace (first ++ second) outcome)
    (hfirst : files.Undergoes (filesOf first) before)
    (hedit : before.write (Store.path key) content = .ok edited)
    (htheirs : Resource.codec.decode content = .ok theirs)
    (hsecond : edited.Undergoes (filesOf second) later) :
    ∃ stored, (later.run (Store.get key)).1 = .ok stored ∧
      (¬Crossed key (filesOf first) (filesOf second) → stored.Repeats theirs) ∧
      (Crossed key (filesOf first) (filesOf second) →
        ∃ old found, Store.reading key (.ok old) ∈ filesOf first ∧
          Resource.codec.decode old = .ok found ∧ stored.Repeats found) := by
  have hhandled := handled_of_visit hvisit
  rw [filesOf_append] at hhandled
  exact stored_of_handled hkey hhandled hfirst hedit htheirs hsecond

end Edit

/-! ### An edit that is lost -/

/-- A directory with the manifest of a project that the cloud does not know. -/
def shelf : MemoryFiles :=
  MemoryFiles.empty.put (spot (Store.path "k"))
    (.file (Store.content (.project (stray "first"))))

/-- The directory after the author chose another name for the project. -/
def rewritten : MemoryFiles :=
  shelf.put (spot (Store.path "k")) (.file (Store.content (.project (stray "second"))))

/-- The operator reads the manifest, and its pass begins. -/
def earlyLog : List Event :=
  [.reading "k" (.ok (Store.content (.project (stray "first")))),
    ⟨.moment, MemoryCloud.creationTime⟩]

/-- The operator writes back what the pass gave, and schedules the next one. -/
def lateLog : List Event :=
  [.drafting "k" (asked "first") (.ok ()), .placing "k" (.ok ()), ⟨.instant, (0 : Nat)⟩]

theorem isKey_shelf : Store.IsKey "k" :=
  ⟨by decide, by decide, by decide⟩

theorem find_shelf : shelf.find (Store.path "k") =
    .ok (some (.file (Store.content (.project (stray "first"))))) := by
  have hfound : MemoryFiles.empty.find (Store.path "k") = .ok none := by decide
  exact MemoryFiles.find_put_self hfound

theorem trace_visit_shelf : ∃ outcome,
    ((new lenient 30000).visit 0 "k").Trace (earlyLog ++ lateLog) outcome := by
  have hlogged : Logged (new lenient 30000).policy "k" (kept "first" 0) (keptLog "first" 0) :=
    logged_kept "first" 0
  exact ⟨_, hlogged.trace_visit rfl⟩

theorem undergoes_early : shelf.Undergoes (filesOf earlyLog) shelf := by
  have hread : shelf.read (Store.path "k") =
      .ok (Store.content (.project (stray "first"))) := by
    rw [MemoryFiles.read_of_isName isKey_shelf.isName_path, find_shelf]
    rfl
  exact .next (.reading hread) (.none shelf)

theorem write_shelf : shelf.write (Store.path "k") (Store.content (.project (stray "second"))) =
    .ok rewritten :=
  (MemoryFiles.write_eq_ok_iff isKey_shelf.isName_path).mpr ⟨⟨_, find_shelf, nofun⟩, rfl⟩

theorem undergoes_late : ∃ later, rewritten.Undergoes (filesOf lateLog) later := by
  have hdraft : MemoryFiles.empty.find (Store.draftPath "k") = .ok none := by decide
  have hfound : rewritten.find (Store.draftPath "k") = .ok none :=
    (MemoryFiles.find_put_of_ne Store.path_ne_draftPath.symm).trans
      ((MemoryFiles.find_put_of_ne Store.path_ne_draftPath.symm).trans hdraft)
  have hreplaced := find_of_edit isKey_shelf write_shelf
  exact ⟨_, Store.undergoes_put isKey_shelf hfound nofun hreplaced nofun⟩

theorem crossed_shelf : Crossed "k" (filesOf earlyLog) (filesOf lateLog) where
  read := ⟨_, List.mem_cons_self⟩
  written := List.mem_cons_of_mem _ List.mem_cons_self

/-- The author's new name crosses the pass, and the old one is put back. -/
theorem stored_of_lost_edit :
    ∃ outcome later stored,
      ((new lenient 30000).visit 0 "k").Trace (earlyLog ++ lateLog) outcome ∧
      rewritten.Undergoes (filesOf lateLog) later ∧
      (later.run (Store.get "k")).1 = .ok stored ∧ stored.Repeats (.project (stray "first")) := by
  obtain ⟨outcome, hvisit⟩ := trace_visit_shelf
  obtain ⟨later, hlate⟩ := undergoes_late
  obtain ⟨stored, hget, _, hold⟩ := stored_of_edit isKey_shelf hvisit undergoes_early write_shelf
    (decode_stray "second") hlate
  obtain ⟨old, found, hread, hdecode, hrepeats⟩ := hold crossed_shelf
  have hsame : old = Store.content (.project (stray "first")) :=
    Except.ok.inj (Store.reading_injective (List.mem_singleton.mp hread))
  rw [hsame, decode_stray] at hdecode
  rw [← Except.ok.inj hdecode] at hrepeats
  exact ⟨outcome, later, stored, hvisit, hlate, hget, hrepeats⟩

/-- So an edit may be lost although it was there when the manifest was written. -/
theorem not_forall_edits_kept :
    ¬∀ (operator : Operator) (key : String) (now : Nat) (first second : List Event)
      (outcome : Bool × Operator) (files before edited later : MemoryFiles) (content : Text)
      (theirs : Resource), Store.IsKey key →
      (operator.visit now key).Trace (first ++ second) outcome →
      files.Undergoes (filesOf first) before →
      before.write (Store.path key) content = .ok edited →
      Resource.codec.decode content = .ok theirs →
      edited.Undergoes (filesOf second) later →
        ∃ stored, (later.run (Store.get key)).1 = .ok stored ∧ stored.spec = theirs.spec ∧
          ∀ name, name ≠ lastAppliedName → stored.metadata.annotations.get? name =
            theirs.metadata.annotations.get? name := by
  intro h
  obtain ⟨outcome, hvisit⟩ := trace_visit_shelf
  obtain ⟨later, hlate⟩ := undergoes_late
  obtain ⟨stored, hget, hspec, _⟩ := h _ "k" 0 earlyLog lateLog outcome shelf shelf rewritten later
    _ _ isKey_shelf hvisit undergoes_early write_shelf (decode_stray "second") hlate
  have hput : (Store.put "k" (asked "first")).Trace ([] ++ filesOf lateLog) (.ok ()) :=
    .ask _ (.ask _ (.done _))
  have hlost := get_of_placed isKey_shelf hput (.none shelf) write_shelf hlate
    crossed_shelf.written
  rw [← Except.ok.inj (hlost.symm.trans hget)] at hspec
  have hname := congrArg ProjectSpec.name (Resource.Spec.project.inj hspec)
  exact absurd hname (by decide)

end Operator

end CloudSteward
