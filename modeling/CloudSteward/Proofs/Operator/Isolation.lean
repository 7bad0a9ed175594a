import CloudSteward.Proofs.Files.Agreement
import CloudSteward.Proofs.Operator.Edits
import CloudSteward.Proofs.Parallel

/-!
# Trouble with one key

A sweep goes on to the next key whatever became of the last one, and takes nothing along from
it.  There are two sides to this.

* **A broken manifest.**  A file in the directory that is no resource is read and passed over.
  The sweep over the directory without it would do and leave the same (`InStep`): two runs
  are compared in which the cloud, the clocks and the system act on the same rules
  (`Surroundings`), by anything that was done before except for looks at the directory.  Visits
  to other keys go alike (`alike_visit`), and the visit to the broken manifest leaves no trace
  (`run_visit_of_broken`), so the runs stay in step along the keys (`inStep_visitAll`).
* **A key that fails.**  However the questions of a sweep are answered, its log begins with the
  listing, and if there is one, it goes on with one turn of each key after the other (`Tour`),
  and what is remembered of a key when its turn comes is what was remembered before the sweep.
  So no failure before it, be it a pass that went wrong or a manifest that could not be written,
  keeps a key from its pass, or gives it a second one.
-/

namespace CloudSteward

namespace Operator

open MemoryFiles (OneMore home spot)

/-! ## Who answers -/

/-- Those who answer an operator.  What they say may depend on all that was done before. -/
structure Surroundings where
  /-- What the cloud and the clocks say. -/
  reply : List Event → (effect : Effect) → effect.Answer
  /-- Whether the system refuses an action on the files that it could perform. -/
  refusal? : List Event → FileAction → Option FileFault

/-- A directory, and all that was done so far except for looks at it. -/
structure Scene where
  files : MemoryFiles
  diary : List Event

def Scene.note (scene : Scene) (event : Event) : Scene :=
  if event.question.looks then scene else { scene with diary := scene.diary ++ [event] }

namespace Surroundings

/-- Performs an action on the files unless the system refuses. -/
def obey (around : Surroundings) (diary : List Event) (action : FileAction) :
    StateM MemoryFiles action.Answer := fun files =>
  match around.refusal? diary action with
  | some fault => (.error fault, files)
  | none => MemoryFiles.answer action files

/-- Performs an effect in a directory. -/
def perform (around : Surroundings) (diary : List Event) :
    (effect : Effect) → StateM MemoryFiles effect.Answer
  | .file action => around.obey diary action
  | effect => fun files => (around.reply diary effect, files)

def answer (around : Surroundings) (effect : Effect) : StateM Scene effect.Answer := fun scene =>
  let done := around.perform scene.diary effect scene.files
  (done.1, { scene with files := done.2 }.note ⟨effect, done.1⟩)

/-- What is listed when the directory is listed. -/
def listing (around : Surroundings) (scene : Scene) : Except FileFault (List String) :=
  match around.refusal? scene.diary .list with
  | some fault => .error fault
  | none => scene.files.list

/-- Runs a program of an operator on a scene. -/
def run {α : Type} (around : Surroundings) (program : OperatorProgram α) (scene : Scene) :
    α × Scene :=
  program.run around.answer scene

end Surroundings

variable {α : Type} {around : Surroundings} {operator fellow : Operator} {scene twin : Scene}
  {files other : MemoryFiles} {diary : List Event} {key name : String} {content : Text} {now : Nat}

theorem run_bind {β : Type} (program : OperatorProgram α) (next : α → OperatorProgram β)
    (scene : Scene) : around.run (program.bind next) scene =
      around.run (next (around.run program scene).1) (around.run program scene).2 :=
  Program.run_bind program next scene

theorem run_perform_bind (effect : Effect) (next : effect.Answer → OperatorProgram α)
    (scene : Scene) : around.run (effect.perform.bind next) scene =
      around.run (next (around.answer effect scene).1) (around.answer effect scene).2 :=
  rfl

/-! ## Visits to other keys -/

/-- What a visit to any other key may ask for. -/
inductive Beside (key : String) : Effect → Prop where
  | read {other : String} : Store.IsKey other → other ≠ key →
      Beside key (.file (.read (Store.path other)))
  | write {other : String} (content : Text) : Store.IsKey other →
      Beside key (.file (.write (Store.draftPath other) content))
  | rename {other : String} : Store.IsKey other → other ≠ key →
      Beside key (.file (.rename (Store.draftPath other) (Store.path other)))
  | call (made : Call) : Beside key (.call made)
  | moment : Beside key .moment
  | instant : Beside key .instant

/-- Two scenes with the same past, of which the first has a file more. -/
structure Similar (name : String) (content : Text) (scene twin : Scene) : Prop where
  diary_eq : scene.diary = twin.diary
  files : OneMore name content scene.files twin.files

theorem oneMore_obey {action : FileAction} (h : OneMore name content files other)
    (hregular : (MemoryFiles.answer action files).1 = (MemoryFiles.answer action other).1 ∧
      OneMore name content (MemoryFiles.answer action files).2
        (MemoryFiles.answer action other).2) :
    (around.obey diary action files).1 = (around.obey diary action other).1 ∧
      OneMore name content (around.obey diary action files).2
        (around.obey diary action other).2 := by
  unfold Surroundings.obey
  cases around.refusal? diary action with
  | some fault => exact ⟨rfl, h⟩
  | none => exact hregular

theorem oneMore_perform (around : Surroundings) (diary : List Event) {effect : Effect}
    (hbeside : Beside key effect) (h : OneMore (Store.path key) content files other) :
    (around.perform diary effect files).1 = (around.perform diary effect other).1 ∧
      OneMore (Store.path key) content (around.perform diary effect files).2
        (around.perform diary effect other).2 := by
  cases hbeside with
  | read hkey hother =>
      exact oneMore_obey h
        ⟨h.read_eq hkey.isName_path fun heq => hother (Store.path_injective heq), h⟩
  | write text hkey =>
      exact oneMore_obey h
        (h.answer_write hkey.isName_draftPath Store.path_ne_draftPath.symm text)
  | rename hkey hother =>
      exact oneMore_obey h (h.answer_rename hkey.isName_draftPath hkey.isName_path
        Store.path_ne_draftPath.symm fun heq => hother (Store.path_injective heq))
  | call => exact ⟨rfl, h⟩
  | moment => exact ⟨rfl, h⟩
  | instant => exact ⟨rfl, h⟩

theorem Similar.note (h : Similar name content scene twin) (event : Event) :
    Similar name content (scene.note event) (twin.note event) := by
  unfold Scene.note
  split
  · exact h
  · exact ⟨congrArg (· ++ [event]) h.diary_eq, h.files⟩

/-- Who asks for what belongs to another key learns nothing of the file that is more. -/
theorem similar_answer (around : Surroundings) {effect : Effect} (hbeside : Beside key effect)
    (h : Similar (Store.path key) content scene twin) :
    (around.answer effect scene).1 = (around.answer effect twin).1 ∧
      Similar (Store.path key) content (around.answer effect scene).2
        (around.answer effect twin).2 := by
  obtain ⟨files, diary⟩ := scene
  obtain ⟨other, diary'⟩ := twin
  obtain rfl : diary = diary' := h.diary_eq
  obtain ⟨hreply, hfiles⟩ := oneMore_perform around diary hbeside h.files
  have hsame : Similar (Store.path key) content
      ⟨(around.perform diary effect files).2, diary⟩
      ⟨(around.perform diary effect other).2, diary⟩ := ⟨rfl, hfiles⟩
  refine ⟨hreply, ?_⟩
  unfold Surroundings.answer
  simp only [← hreply]
  exact hsame.note _

/-- Operators that were told the same and remember the same of every other key. -/
structure Fellows (key : String) (operator fellow : Operator) : Prop where
  policy_eq : operator.policy = fellow.policy
  resync_eq : operator.resync = fellow.resync
  schedule_eq : ∀ other, other ≠ key →
    operator.schedules.get? other = fellow.schedules.get? other

theorem Fellows.refl (key : String) (operator : Operator) : Fellows key operator operator :=
  ⟨rfl, rfl, fun _ _ => rfl⟩

theorem Fellows.put (h : Fellows key operator fellow) (other : String) (schedule : Schedule) :
    Fellows key { operator with schedules := operator.schedules.put other schedule }
      { fellow with schedules := fellow.schedules.put other schedule } where
  policy_eq := h.policy_eq
  resync_eq := h.resync_eq
  schedule_eq another hanother := by
    by_cases hsame : another = other
    · simp [hsame]
    · rw [Table.get?_put_of_ne _ _ hsame, Table.get?_put_of_ne _ _ hsame,
        h.schedule_eq another hanother]

/-- A manifest is got by one look at its file. -/
theorem get_lift_eq (key : String) : (Store.get key).lift =
    (Effect.file (.read (Store.path key))).perform.bind fun reply =>
      .done (Store.loaded key reply) := by
  refine congrArg (Program.ask (Effect.file (.read (Store.path key)))) (funext fun reply => ?_)
  rcases reply with fault | content
  · cases fault <;> rfl
  · rfl

section Visits

variable {other : String} (hkey : Store.IsKey other) (hother : other ≠ key)
include hkey hother

theorem alike_persist (before after : Resource) :
    Program.Alike (Beside key) Eq (persist other before after) (persist other before after) := by
  unfold persist
  split
  · exact .done rfl
  · refine .ask (.write (Store.content after) hkey) fun drafted => ?_
    rcases drafted with fault | _
    · exact .done rfl
    · exact .ask (.rename hkey hother) fun placed => .done rfl

theorem alike_passOver (h : Fellows key operator fellow) (resource : Resource) :
    Program.Alike (Beside key) (Fellows key) (operator.passOver other resource)
      (fellow.passOver other resource) := by
  obtain ⟨policy, resync, schedules⟩ := operator
  obtain ⟨_, _, others⟩ := fellow
  obtain rfl := h.policy_eq
  obtain rfl := h.resync_eq
  refine .perform_bind .moment fun moment => ?_
  have hpass : Program.Alike (Beside key) Eq (resource.reconcile policy moment).lift
      (resource.reconcile policy moment).lift :=
    Program.alike_expand (fun call => .ask (.call call) fun _ => .done rfl) _
  refine hpass.bind fun reconciled same heq => heq ▸ ?_
  refine (alike_persist hkey hother _ _).bind fun outcome same heq => heq ▸ ?_
  cases outcome with
  | error fault => exact .done h
  | ok => exact .perform_bind .instant fun now => .done (h.put other _)

/-- Visits to another key go alike. -/
theorem alike_visit (h : Fellows key operator fellow) (now : Nat) :
    Program.Alike (Beside key)
      (fun first second => first.1 = second.1 ∧ Fellows key first.2 second.2)
      (operator.visit now other) (fellow.visit now other) := by
  unfold visit
  rw [get_lift_eq]
  refine .perform_bind (.read hkey hother) fun reply => ?_
  generalize Store.loaded other reply = loaded
  cases loaded with
  | error error => exact .done ⟨rfl, h⟩
  | ok resource =>
      have hdue : operator.schedules.isDue other resource now =
          fellow.schedules.isDue other resource now := by
        rw [isDue_eq_dueBy, isDue_eq_dueBy, h.schedule_eq other hother]
      simp only [hdue]
      split
      · exact (alike_passOver hkey hother h resource).bind fun _ _ hafter => .done ⟨rfl, hafter⟩
      · exact .done ⟨rfl, h⟩

end Visits

/-! ## The sweep without the broken manifest -/

/-- Two runs of operators that come to the same, but for what they know of a key and for its
file, which only the first has. -/
structure InStep (key : String) (content : Text) (first second : (α × Operator) × Scene) :
    Prop where
  result_eq : first.1.1 = second.1.1
  fellows : Fellows key first.1.2 second.1.2
  similar : Similar (Store.path key) content first.2 second.2

theorem inStep_visit {other : String} (hkey : Store.IsKey other) (hother : other ≠ key)
    (hfellows : Fellows key operator fellow) (h : Similar (Store.path key) content scene twin) :
    InStep key content (around.run (operator.visit now other) scene)
      (around.run (fellow.visit now other) twin) := by
  obtain ⟨⟨hresult, hfellows⟩, hsimilar⟩ :=
    (alike_visit hkey hother hfellows now).run
      (fun _ hbeside _ _ => similar_answer around hbeside) h
  exact ⟨hresult, hfellows, hsimilar⟩

/-- Nobody writes down a look at the directory. -/
theorem answer_of_looks {action : FileAction} (hlooks : (Effect.file action).looks = true) :
    around.answer (.file action) scene = ((around.obey scene.diary action scene.files).1,
      { scene with files := (around.obey scene.diary action scene.files).2 }) :=
  congrArg (Prod.mk (around.obey scene.diary action scene.files).1) (if_pos hlooks)

/-- A look at a manifest changes nothing, and shows what is there if it shows anything. -/
theorem exists_answer_read (around : Surroundings) (scene : Scene) (path : String) :
    ∃ reply, around.answer (.file (.read path)) scene = (reply, scene) ∧
      ∀ found, reply = .ok found → scene.files.read path = .ok found := by
  rw [answer_of_looks rfl]
  unfold Surroundings.obey
  cases around.refusal? scene.diary (.read path) with
  | some fault => exact ⟨.error fault, rfl, fun _ h => nomatch h⟩
  | none => exact ⟨scene.files.read path, rfl, fun _ h => h⟩

theorem answer_list (around : Surroundings) (scene : Scene) :
    around.answer (.file .list) scene = (around.listing scene, scene) := by
  rw [answer_of_looks rfl]
  unfold Surroundings.obey Surroundings.listing
  cases around.refusal? scene.diary .list <;> rfl

theorem exists_loaded_eq_error {reply : Except FileFault Text}
    (hnone : ∀ resource, ¬Holds reply resource) :
    ∃ error, Store.loaded key reply = .error error := by
  cases hload : Store.loaded key reply with
  | error error => exact ⟨error, rfl⟩
  | ok resource => exact absurd (holds_iff.mpr hload) (hnone resource)

/-- The visit to a broken manifest leaves no trace. -/
theorem run_visit_of_broken (hkey : Store.IsKey key)
    (hthere : scene.files.entry? (spot (Store.path key)) = some (.file content))
    (hbroken : ∀ resource, Resource.codec.decode content ≠ .ok resource) :
    around.run (operator.visit now key) scene = ((false, operator), scene) := by
  obtain ⟨reply, hreply, hfound⟩ := exists_answer_read around scene (Store.path key)
  have hnone (resource : Resource) : ¬Holds reply resource := by
    rintro ⟨found, rfl, hdecode⟩
    rw [MemoryFiles.eq_of_read hkey.isName_path hthere (hfound found rfl)] at hdecode
    exact hbroken resource hdecode
  obtain ⟨error, hloaded⟩ : ∃ error, Store.loaded key reply = .error error :=
    exists_loaded_eq_error hnone
  unfold visit
  rw [get_lift_eq, Program.bind_eq_bind, run_bind, run_perform_bind, hreply, hloaded]
  rfl

theorem run_visitAll_cons (first : String) (rest : List String) :
    around.run (operator.visitAll now (first :: rest)) scene =
      let visited := around.run (operator.visit now first) scene
      let others := around.run (visited.1.2.visitAll now rest) visited.2
      ((if visited.1.1 then others.1.1 + 1 else others.1.1, others.1.2), others.2) := by
  rw [visitAll, Program.bind_eq_bind, run_bind]
  exact run_bind _ _ _

/-- Along the keys the two runs stay in step. -/
theorem inStep_visitAll (now : Nat) {keys : List String} (hkeys : ∀ other ∈ keys, Store.IsKey other)
    (hbroken : ∀ resource, Resource.codec.decode content ≠ .ok resource)
    (hfellows : Fellows key operator fellow) (h : Similar (Store.path key) content scene twin) :
    InStep key content (around.run (operator.visitAll now keys) scene)
      (around.run (fellow.visitAll now (keys.filter (· ≠ key))) twin) := by
  induction keys generalizing operator fellow scene twin with
  | nil => exact ⟨rfl, hfellows, h⟩
  | cons first rest ih =>
      obtain ⟨hfirst, hrest⟩ := List.forall_mem_cons.mp hkeys
      rw [run_visitAll_cons]
      by_cases hown : first = key
      · -- Only the first run visits the broken manifest, and it goes on as if it had not.
        rw [List.filter_cons_of_neg (by simp [hown]), hown,
          run_visit_of_broken (hown ▸ hfirst) h.files.there hbroken]
        exact ih hrest hfellows h
      · rw [List.filter_cons_of_pos (by simp [hown]), run_visitAll_cons]
        have hvisit : InStep key content (around.run (operator.visit now first) scene)
            (around.run (fellow.visit now first) twin) := inStep_visit hfirst hown hfellows h
        obtain ⟨hresult, hfellows, hsimilar⟩ := ih hrest hvisit.fellows hvisit.similar
        refine ⟨?_, hfellows, hsimilar⟩
        show (if _ then _ + 1 else _) = if _ then _ + 1 else _
        rw [hvisit.result_eq, hresult]

/-- A sweep looks at the directory and at the clock, and then visits the keys. -/
theorem run_sweep (around : Surroundings) (operator : Operator) (scene : Scene) :
    around.run operator.sweep scene =
      match around.listing scene with
      | .error fault => ((.error fault, operator), scene)
      | .ok names =>
          let keys := Store.sortKeys (names.filterMap Store.keyOf?)
          let started := around.answer .instant scene
          let visited := around.run (visitAll
            { operator with schedules := operator.schedules.keep keys.contains } started.1 keys)
            started.2
          ((.ok visited.1.1, visited.1.2), visited.2) := by
  unfold sweep
  rw [Program.bind_eq_bind, run_bind]
  have hkeys : around.run Store.keys.lift scene =
      ((around.listing scene).map fun names => Store.sortKeys (names.filterMap Store.keyOf?),
        scene) := by
    show (_, (around.answer (.file .list) scene).2) = _
    rw [answer_list]
    exact congrArg (·, scene) (congrArg _ (congrArg Prod.fst (answer_list around scene)))
  rw [hkeys]
  cases around.listing scene with
  | error fault => rfl
  | ok names =>
      refine (run_perform_bind .instant _ scene).trans ?_
      exact run_bind _ _ _

/-- Without a file, a directory lists the keys that it lists with it, except for its own. -/
theorem sortKeys_without {names : List String} (hdistinct : names.Nodup) (key : String) :
    Store.sortKeys ((names.filter (· ≠ Store.path key)).filterMap Store.keyOf?) =
      (Store.sortKeys (names.filterMap Store.keyOf?)).filter (· ≠ key) := by
  rw [Store.filterMap_keyOf?_filter,
    Store.sortKeys_filter (Store.nodup_filterMap_keyOf? hdistinct)]

/-- At the beginning of a sweep the same is forgotten of every other key. -/
theorem fellows_keep (operator : Operator) (key : String) (keys : List String) :
    Fellows key { operator with schedules := operator.schedules.keep keys.contains }
      { operator with schedules := operator.schedules.keep (keys.filter (· ≠ key)).contains } :=
  ⟨rfl, rfl, fun other hother => by simp [Table.get?_keep, hother]⟩

/-- The sweep over a directory with a broken manifest is in step with the one without it. -/
theorem inStep_sweep (hthere : files.entry? (spot (Store.path key)) = some (.file content))
    (hbroken : ∀ resource, Resource.codec.decode content ≠ .ok resource)
    (hflat : ∀ name ∈ files.namesIn home, '/' ∉ name.toList) :
    InStep key content (around.run operator.sweep ⟨files, diary⟩)
      (around.run operator.sweep ⟨files.drop (spot (Store.path key)), diary⟩) := by
  have hsimilar : Similar (Store.path key) content ⟨files, diary⟩
      ⟨files.drop (spot (Store.path key)), diary⟩ := ⟨rfl, MemoryFiles.oneMore_drop hthere⟩
  rw [run_sweep, run_sweep]
  cases hrefusal : around.refusal? diary .list with
  | some fault =>
      simp only [Surroundings.listing, hrefusal]
      exact ⟨rfl, .refl key operator, hsimilar⟩
  | none =>
      simp only [Surroundings.listing, hrefusal, MemoryFiles.list_drop]
      cases hlist : files.list with
      | error fault => exact ⟨rfl, .refl key operator, hsimilar⟩
      | ok names =>
          have hkeys : ∀ other ∈ Store.sortKeys (names.filterMap Store.keyOf?),
              Store.IsKey other := fun other hmem =>
            Store.isKey_of_mem_listing (MemoryFiles.eq_namesIn_of_list hlist ▸ hflat) hmem
          obtain ⟨hstart, hstarted⟩ := similar_answer around .instant hsimilar
          simp only [Except.map, sortKeys_without (MemoryFiles.nodup_of_list hlist)]
          rw [← hstart]
          obtain ⟨hresult, hafter, hlast⟩ :=
            inStep_visitAll _ hkeys hbroken (fellows_keep operator key _) hstarted
          exact ⟨congrArg Except.ok hresult, hafter, hlast⟩

/-! ## A turn for each key -/

/-- The log of a sweep behind its listing, with the number of passes.  Each key has one turn, and
what is remembered of it then is what was remembered before the sweep. -/
inductive Tour (operator : Operator) (names : List String) : List Event → Nat → Prop where
  | turns {start : Nat} {turns : List (List Event × Bool)} :
      (Store.sortKeys (names.filterMap Store.keyOf?)).Pairwise (· < ·) →
      List.Forall₂ (fun key => Turn operator.policy start key (operator.schedules.get? key))
        (Store.sortKeys (names.filterMap Store.keyOf?)) turns →
        Tour operator names (⟨.instant, start⟩ :: (turns.map Prod.fst).flatten)
          (turns.countP Prod.snd)

/-- Whatever is answered, a sweep begins with the listing, and is a tour of the manifests if
they are listed. -/
theorem tour_of_sweep {log : List Event} {outcome : Except FileFault Nat × Operator}
    (h : operator.sweep.Trace log outcome) :
    (∃ fault, log = [⟨.file .list, .error fault⟩] ∧ outcome = (.error fault, operator)) ∨
      ∃ (names : List String) (rest : List Event), log = ⟨.file .list, .ok names⟩ :: rest ∧
        (names.Nodup → ∃ count, outcome.1 = .ok count ∧ Tour operator names rest count) := by
  rcases trace_sweep_iff.mp h with
    hunlisted | ⟨names, _, start, visits, visited, rfl, rfl, hall, rfl⟩
  · exact .inl hunlisted
  refine .inr ⟨names, _, rfl, fun hdistinct => ?_⟩
  have hkeys : (names.filterMap Store.keyOf?).Nodup := Store.nodup_filterMap_keyOf? hdistinct
  obtain ⟨turns, hturns, rfl, hcount⟩ := exists_turns_of_visitAll (Store.nodup_sortKeys hkeys)
    (fun _ hkey => get?_keep_of_mem operator.schedules hkey) hall
  exact ⟨visited.1, rfl, hcount ▸ .turns (Store.ascending_sortKeys hkeys) hturns⟩

/-- A broken manifest makes no difference to a sweep but that it is there, and a key that fails
makes no difference to the other keys.  That no name in a directory has a slash is what makes it
a name. -/
theorem sweep_isolates (operator : Operator) :
    (∀ (around : Surroundings) (files : MemoryFiles) (diary : List Event) (key : String)
      (content : Text), files.entry? (spot (Store.path key)) = some (.file content) →
      (∀ resource, Resource.codec.decode content ≠ .ok resource) →
      (∀ name ∈ files.namesIn home, '/' ∉ name.toList) →
        InStep key content (around.run operator.sweep ⟨files, diary⟩)
          (around.run operator.sweep ⟨files.drop (spot (Store.path key)), diary⟩)) ∧
    ∀ (log : List Event) (outcome : Except FileFault Nat × Operator),
      operator.sweep.Trace log outcome →
        (∃ fault, log = [⟨.file .list, .error fault⟩] ∧ outcome = (.error fault, operator)) ∨
          ∃ (names : List String) (rest : List Event), log = ⟨.file .list, .ok names⟩ :: rest ∧
            (names.Nodup → ∃ count, outcome.1 = .ok count ∧ Tour operator names rest count) :=
  ⟨fun _ _ _ _ _ hthere hbroken hflat => inStep_sweep hthere hbroken hflat,
    fun _ _ h => tour_of_sweep h⟩

/-- A cloud that answers no call, with clocks that stand still. -/
def stillness : Surroundings where
  reply _ effect := match effect with
    | .file _ => .error .busy
    | .call _ => .error (.transport .bodyCut)
    | .moment => MemoryCloud.creationTime
    | .instant => (0 : Nat)
    | .wait _ => ()
  refusal? _ _ := none

/-- What an author may leave behind. -/
def scrap : Text :=
  Text.ofString "\x7b not json"

theorem decode_scrap (resource : Resource) : Resource.codec.decode scrap ≠ .ok resource := by
  have hfails : (Resource.codec.decode scrap).isOk = false := by decide +kernel
  intro hdecode
  rw [hdecode] at hfails
  cases hfails

/-- A manifest that is fine, one that is broken, and one that cannot be written, as there is a
folder in the way of its draft. -/
def clutter : MemoryFiles :=
  ((shelf.put (spot (Store.draftPath "blocked")) .folder).put (spot (Store.path "blocked"))
    (.file (Store.content (.project (stray "second"))))).put (spot (Store.path "broken"))
      (.file scrap)

def clutterNames : List String :=
  [".blocked.json.tmp", "blocked.json", "broken.json", "k.json"]

/-- The operator cannot write the first manifest back, looks at the broken one, and goes on to
the last one. -/
def clutterLog : List Event :=
  ⟨.instant, (0 : Nat)⟩ :: (blockedLog "blocked" "second" ++
    (.reading "broken" (.ok scrap) :: keptLog "first" 0))

theorem sortKeys_clutter :
    Store.sortKeys (clutterNames.filterMap Store.keyOf?) = ["blocked", "broken", "k"] := by
  have hkeys : clutterNames.filterMap Store.keyOf? = ["blocked", "broken", "k"] := by decide
  rw [hkeys]
  exact List.mergeSort_of_pairwise (by decide)

/-- Every visit in vain is a visit. -/
theorem trace_visit_of_vain {reply : FileAction.Answer (.read (Store.path key))}
    (hnone : ∀ resource, ¬Holds reply resource) :
    (operator.visit now key).Trace [Event.reading key reply] (false, operator) := by
  obtain ⟨error, hloaded⟩ : ∃ error, Store.loaded key reply = .error error :=
    exists_loaded_eq_error hnone
  have hget : (Store.get key).lift.Trace [Event.reading key reply] (.error error) := by
    rw [get_lift_eq, ← hloaded]
    exact Program.trace_perform_bind_iff.mpr ⟨reply, [], rfl, .done _⟩
  exact hget.bind (.done _)

theorem trace_sweep_clutter : ∃ outcome, (new lenient 30000).sweep.Trace
    (⟨.file .list, .ok clutterNames⟩ :: clutterLog) outcome := by
  have hvain (resource : Resource) : ¬Holds (.ok scrap) resource := by
    rintro ⟨found, hfound, hdecode⟩
    exact decode_scrap resource (Except.ok.inj hfound ▸ hdecode)
  have hblocked : Logged (new lenient 30000).policy "blocked" (blocked "second" 0)
      (blockedLog "blocked" "second") := logged_blocked "blocked" "second" 0
  have hkept : Logged (new lenient 30000).policy "k" (kept "first" 0) (keptLog "first" 0) :=
    logged_kept "first" 0
  -- Neither the pass that got lost nor the broken manifest leaves anything behind.
  have hlast := trace_visitAll_cons_iff.mpr
    ⟨keptLog "first" 0, [], _, _, rfl, hkept.trace_visit rfl, trace_visitAll_nil, rfl⟩
  have hrest := trace_visitAll_cons_iff.mpr
    ⟨[Event.reading "broken" (.ok scrap)], _, _, _, rfl, trace_visit_of_vain hvain, hlast, rfl⟩
  have hall := trace_visitAll_cons_iff.mpr
    ⟨blockedLog "blocked" "second", _, _, _, rfl, hblocked.trace_visit rfl, hrest, rfl⟩
  exact ⟨_, trace_sweep_iff.mpr (.inr ⟨clutterNames, _, 0, _, _, sortKeys_clutter.symm, rfl, hall,
    rfl⟩)⟩

/-- Beside a broken manifest the others are attended to as if it were not there, and behind one
that cannot be written they have their turns. -/
theorem sweep_isolates_clutter :
    InStep "broken" scrap (stillness.run (new lenient 30000).sweep ⟨clutter, []⟩)
      (stillness.run (new lenient 30000).sweep
        ⟨clutter.drop (spot (Store.path "broken")), []⟩) ∧
    ∃ outcome, (new lenient 30000).sweep.Trace
        (⟨.file .list, .ok clutterNames⟩ :: clutterLog) outcome ∧
      ∃ count, outcome.1 = .ok count ∧ Tour (new lenient 30000) clutterNames clutterLog count := by
  obtain ⟨hbroken, htour⟩ := sweep_isolates (new lenient 30000)
  have hthere : clutter.entry? (spot (Store.path "broken")) = some (.file scrap) :=
    MemoryFiles.entry?_put_self _ MemoryFiles.spot_ne_nil
  refine ⟨hbroken stillness clutter [] "broken" scrap hthere decode_scrap (by decide), ?_⟩
  obtain ⟨outcome, hsweep⟩ := trace_sweep_clutter
  refine ⟨outcome, hsweep, ?_⟩
  rcases htour _ outcome hsweep with ⟨fault, hlog, -⟩ | ⟨names, rest, hlog, hlisted⟩
  · cases hlog
  · cases hlog
    exact hlisted (by decide)

end Operator

end CloudSteward
