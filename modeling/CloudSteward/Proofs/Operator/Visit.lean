import CloudSteward.Operator.Sweep
import CloudSteward.Proofs.Store.Writes

/-!
# What a sweep does about one manifest

A sweep visits the manifests one after the other.  This module looks at it from the side of
one key.  A `Round` is what the visit to that key comes to: when the sweep began, what was
read, and whether the resource was left alone, reconciled and lost on the way back to the
directory, or reconciled and saved.  `Logged` says which events a round leaves in the log,
so a round is something that a bystander sees, and not something that the operator claims.

A round alone decides what is remembered of its key (`get?_remember`), and the visits to other
keys leave that as it is (`Keeps`).  `trace_visitAll_append` and `trace_sweep_iff` cut the log
of a sweep into the visits.
-/

namespace CloudSteward

open Json

namespace Operator

/-- Something that an operator asked for, and the answer. -/
abbrev Event := Program.Exchange Effect Effect.Answer

/-- A call to the cloud as an event. -/
def Event.ofCall (exchange : Exchange) : Event := ⟨.call exchange.question, exchange.answer⟩

/-- The reading of a manifest. -/
def Event.reading (key : String) (reply : FileAction.Answer (.read (Store.path key))) : Event :=
  ⟨.file (.read (Store.path key)), reply⟩

/-- The writing of a draft. -/
def Event.drafting (key : String) (resource : Resource)
    (reply : FileAction.Answer (.write (Store.draftPath key) (Store.content resource))) : Event :=
  ⟨.file (.write (Store.draftPath key) (Store.content resource)), reply⟩

/-- The moving of a draft into place. -/
def Event.placing (key : String)
    (reply : FileAction.Answer (.rename (Store.draftPath key) (Store.path key))) : Event :=
  ⟨.file (.rename (Store.draftPath key) (Store.path key)), reply⟩

variable {α : Type} {log : List Event}

theorem trace_liftCall_iff {program : CloudProgram α} {value : α} :
    program.lift.Trace log value ↔
      ∃ exchanges, program.Trace exchanges value ∧ log = exchanges.map Event.ofCall :=
  Program.trace_expand_iff fun _ _ _ _ => Program.trace_perform_bind_iff

/-- An action on the files as an event. -/
def Event.ofFile (exchange : FileExchange) : Event := ⟨.file exchange.question, exchange.answer⟩

theorem trace_liftFile_iff {program : FileProgram α} {value : α} :
    program.lift.Trace log value ↔
      ∃ exchanges, program.Trace exchanges value ∧ log = exchanges.map Event.ofFile :=
  Program.trace_expand_iff fun _ _ _ _ => Program.trace_perform_bind_iff

/-! ## The store -/

section Store

variable {key : String} {resource : Resource}

/-- Whether a reply to the reading of a manifest holds this resource. -/
def Holds (reply : Except FileFault Text) (resource : Resource) : Prop :=
  ∃ content, reply = .ok content ∧ Resource.codec.decode content = .ok resource

theorem holds_iff {reply : Except FileFault Text} :
    Holds reply resource ↔ Store.loaded key reply = .ok resource := by
  cases reply with
  | error fault =>
      refine iff_of_false (fun ⟨_, hreply, _⟩ => nomatch hreply) ?_
      cases fault <;> exact nofun
  | ok content =>
      constructor
      · rintro ⟨_, hreply, hdecode⟩
        obtain rfl := Except.ok.inj hreply
        exact congrArg (Except.mapError _) hdecode
      · intro hloaded
        refine ⟨content, rfl, ?_⟩
        cases hdecode : Resource.codec.decode content with
        | ok found =>
            rw [Store.loaded, hdecode] at hloaded
            exact congrArg Except.ok (Except.ok.inj hloaded)
        | error error =>
            rw [Store.loaded, hdecode] at hloaded
            cases hloaded

/-- A manifest is read with one look at its file. -/
theorem trace_get {found : Except StoreError Resource} (h : (Store.get key).lift.Trace log found) :
    ∃ reply, log = [.reading key reply] ∧
      ((∃ resource, found = .ok resource ∧ Holds reply resource) ∨
        ∃ error, found = .error error ∧ ∀ resource, ¬Holds reply resource) := by
  obtain ⟨exchanges, htrace, rfl⟩ := trace_liftFile_iff.mp h
  obtain ⟨reply, rfl, rfl⟩ := Store.trace_get htrace
  refine ⟨reply, rfl, ?_⟩
  cases hloaded : Store.loaded key reply with
  | ok resource => exact .inl ⟨resource, rfl, holds_iff.mpr hloaded⟩
  | error error =>
      refine .inr ⟨error, rfl, fun resource hholds => ?_⟩
      exact nomatch hloaded.symm.trans (holds_iff.mp hholds)

/-- A manifest is written as a draft that is then moved into place. -/
theorem trace_put {outcome : Except StoreError Unit}
    (h : (Store.put key resource).lift.Trace log outcome) :
    ∃ drafted, (log = [.drafting key resource drafted] ∧ outcome.isOk = false) ∨
      ∃ placed, log = [.drafting key resource drafted, .placing key placed] ∧
        outcome.isOk = placed.isOk := by
  obtain ⟨exchanges, htrace, rfl⟩ := trace_liftFile_iff.mp h
  rcases Store.trace_put htrace with ⟨fault, rfl, rfl⟩ | ⟨placed, rfl, rfl⟩
  · exact ⟨.error fault, .inl ⟨rfl, rfl⟩⟩
  · exact ⟨.ok (), .inr ⟨placed, rfl, by cases placed <;> rfl⟩⟩

/-- What a write or a move leaves behind that was made to bring a resource back. -/
theorem trace_persist {before : Resource} {outcome : Except StoreError Unit}
    (h : (persist key before resource).Trace log outcome) :
    ∀ event ∈ log, (∃ reply, event = .drafting key resource reply) ∨
      ∃ reply, event = .placing key reply := by
  unfold persist at h
  split at h
  · obtain ⟨rfl, rfl⟩ := Program.trace_done_iff.mp h
    exact List.forall_mem_nil _
  · obtain ⟨drafted, ⟨rfl, _⟩ | ⟨placed, rfl, _⟩⟩ := trace_put h
    · exact List.forall_mem_singleton.mpr (.inl ⟨drafted, rfl⟩)
    · exact List.forall_mem_cons.mpr ⟨.inl ⟨drafted, rfl⟩,
        List.forall_mem_singleton.mpr (.inr ⟨placed, rfl⟩)⟩

end Store

/-! ## Rounds -/

/-- What became of a resource in a sweep. -/
inductive Care where
  | left
  /-- A pass was made, but what it gave back could not be written. -/
  | lost (after : Resource) (result : PassResult)
  /-- A pass was made, and was over at `finish` with all that it gave back written. -/
  | saved (after : Resource) (result : PassResult) (finish : Nat)

/-- What a sweep does about a manifest that can be read. -/
structure Round where
  /-- When the sweep began. -/
  start : Nat
  content : Text
  /-- What the content says. -/
  found : Resource
  care : Care

namespace Round

/-- Whether a pass was made. -/
def reconciled (round : Round) : Bool :=
  match round.care with
  | .left => false
  | .lost _ _ => true
  | .saved _ _ _ => true

/-- What is remembered after a round. -/
def schedule? (resync : Nat) (before : Option Schedule) (round : Round) : Option Schedule :=
  match round.care with
  | .left => before
  | .lost _ _ => before
  | .saved after result finish =>
      some { next := Schedule.nextAfter resync finish result, fingerprint := after.fingerprint }

end Round

/-- The events of a round. -/
inductive Logged (policy : Policy) (key : String) : Round → List Event → Prop where
  | left {start : Nat} {content : Text} {found : Resource} :
      Resource.codec.decode content = .ok found →
        Logged policy key ⟨start, content, found, .left⟩ [.reading key (.ok content)]
  | lost {start : Nat} {content : Text} {found after : Resource} {result : PassResult}
      {moment : Moment} {exchanges : List Exchange} {writes : List Event} {error : StoreError} :
      Resource.codec.decode content = .ok found →
      (found.reconcile policy moment).Trace exchanges ⟨after, result⟩ →
      (persist key found after).Trace writes (.error error) →
        Logged policy key ⟨start, content, found, .lost after result⟩
          (.reading key (.ok content) :: ⟨.moment, moment⟩ ::
            (exchanges.map Event.ofCall ++ writes))
  | saved {start finish : Nat} {content : Text} {found after : Resource} {result : PassResult}
      {moment : Moment} {exchanges : List Exchange} {writes : List Event} :
      Resource.codec.decode content = .ok found →
      (found.reconcile policy moment).Trace exchanges ⟨after, result⟩ →
      (persist key found after).Trace writes (.ok ()) →
        Logged policy key ⟨start, content, found, .saved after result finish⟩
          (.reading key (.ok content) :: ⟨.moment, moment⟩ ::
            (exchanges.map Event.ofCall ++ (writes ++ [⟨.instant, finish⟩])))

theorem Logged.decode_eq {policy : Policy} {key : String} {round : Round}
    (h : Logged policy key round log) : Resource.codec.decode round.content = .ok round.found := by
  cases h <;> assumption

/-- What an operator remembers once a round is over. -/
def remember (operator : Operator) (key : String) (round : Round) : Operator :=
  match round.care with
  | .left => operator
  | .lost _ _ => operator
  | .saved after result finish => { operator with
      schedules := operator.schedules.put key {
        next := Schedule.nextAfter operator.resync finish result
        fingerprint := after.fingerprint } }

variable {operator after : Operator} {key other : String} {now : Nat}

theorem trace_passOver {start : Nat} {content : Text} {found : Resource}
    (hdecode : Resource.codec.decode content = .ok found)
    (h : (operator.passOver key found).Trace log after) :
    ∃ round : Round, round.start = start ∧ round.content = content ∧ round.found = found ∧
      round.reconciled = true ∧
      Logged operator.policy key round (.reading key (.ok content) :: log) ∧
      after = operator.remember key round := by
  obtain ⟨moment, rest, rfl, hrest⟩ := Program.trace_perform_bind_iff.mp h
  obtain ⟨calls, behind, reconciled, rfl, hcalls, hbehind⟩ := Program.trace_bind_iff.mp hrest
  obtain ⟨exchanges, hpass, rfl⟩ := trace_liftCall_iff.mp hcalls
  obtain ⟨writes, last, outcome, rfl, hwrites, hlast⟩ := Program.trace_bind_iff.mp hbehind
  cases outcome with
  | error error =>
      obtain ⟨rfl, rfl⟩ := Program.trace_done_iff.mp hlast
      rw [List.append_nil]
      exact ⟨⟨start, content, found, .lost reconciled.resource reconciled.result⟩, rfl, rfl, rfl,
        rfl, .lost hdecode hpass hwrites, rfl⟩
  | ok =>
      obtain ⟨finish, silence, rfl, hsilence⟩ := Program.trace_perform_bind_iff.mp hlast
      obtain ⟨rfl, rfl⟩ := Program.trace_done_iff.mp hsilence
      exact ⟨⟨start, content, found, .saved reconciled.resource reconciled.result finish⟩, rfl, rfl,
        rfl, rfl, .saved hdecode hpass hwrites, rfl⟩

/-- A visit finds no resource, or comes to a round in which a pass is made exactly if the
resource is due. -/
theorem trace_visit {outcome : Bool × Operator}
    (h : (operator.visit now key).Trace log outcome) :
    (∃ reply, log = [.reading key reply] ∧ (∀ resource, ¬Holds reply resource) ∧
        outcome = (false, operator)) ∨
      ∃ round : Round, round.start = now ∧ Logged operator.policy key round log ∧
        round.reconciled = operator.schedules.isDue key round.found now ∧
        outcome = (round.reconciled, operator.remember key round) := by
  obtain ⟨first, rest, found, rfl, hget, hrest⟩ := Program.trace_bind_iff.mp h
  obtain ⟨reply, rfl, ⟨resource, rfl, content, rfl, hdecode⟩ | ⟨error, rfl, hnone⟩⟩ :=
    trace_get hget
  · right
    simp only at hrest
    by_cases hdue : operator.schedules.isDue key resource now = true
    · rw [if_pos hdue] at hrest
      obtain ⟨later, hpass, rfl⟩ := Program.trace_map_iff.mp hrest
      obtain ⟨round, hstart, _, rfl, hreconciled, hlogged, rfl⟩ := trace_passOver hdecode hpass
      exact ⟨round, hstart, hlogged, hreconciled.trans hdue.symm, hreconciled ▸ rfl⟩
    · rw [if_neg hdue] at hrest
      obtain ⟨rfl, rfl⟩ := Program.trace_done_iff.mp hrest
      exact ⟨⟨now, content, resource, .left⟩, rfl, .left hdecode,
        (Bool.not_eq_true _ ▸ hdue : _ = false).symm, rfl⟩
  · obtain ⟨rfl, rfl⟩ := Program.trace_done_iff.mp hrest
    exact .inl ⟨reply, rfl, hnone, rfl⟩

/-! ## What is remembered -/

/-- Whether a resource is due by what is remembered of it, if anything. -/
def dueBy (remembered : Option Schedule) (resource : Resource) (now : Nat) : Bool :=
  match remembered with
  | some schedule => schedule.isDue resource now
  | none => true

theorem isDue_eq_dueBy (schedules : Schedules) (key : String) (resource : Resource) (now : Nat) :
    schedules.isDue key resource now = dueBy (schedules.get? key) resource now := rfl

theorem get?_remember (round : Round) :
    (operator.remember key round).schedules.get? key =
      round.schedule? operator.resync (operator.schedules.get? key) := by
  obtain ⟨start, content, found, care⟩ := round
  cases care with
  | left => rfl
  | lost => rfl
  | saved => exact Table.get?_put_self _ _ _

theorem remember_policy_resync (round : Round) :
    (operator.remember key round).policy = operator.policy ∧
      (operator.remember key round).resync = operator.resync := by
  obtain ⟨start, content, found, care⟩ := round
  cases care <;> exact ⟨rfl, rfl⟩

/-- An operator that was told the same and remembers the same of a key. -/
structure Keeps (key : String) (operator after : Operator) : Prop where
  policy_eq : after.policy = operator.policy
  resync_eq : after.resync = operator.resync
  schedule_eq : after.schedules.get? key = operator.schedules.get? key

theorem Keeps.refl (key : String) (operator : Operator) : Keeps key operator operator :=
  ⟨rfl, rfl, rfl⟩

theorem Keeps.trans {middle : Operator} (hfirst : Keeps key operator middle)
    (hsecond : Keeps key middle after) : Keeps key operator after where
  policy_eq := hsecond.policy_eq.trans hfirst.policy_eq
  resync_eq := hsecond.resync_eq.trans hfirst.resync_eq
  schedule_eq := hsecond.schedule_eq.trans hfirst.schedule_eq

theorem keeps_remember (hother : other ≠ key) (round : Round) :
    Keeps key operator (operator.remember other round) := by
  obtain ⟨start, content, found, care⟩ := round
  cases care with
  | left => exact .refl key operator
  | lost => exact .refl key operator
  | saved => exact ⟨rfl, rfl, Table.get?_put_of_ne _ _ hother.symm⟩

theorem keeps_of_visit (hother : other ≠ key) {outcome : Bool × Operator}
    (h : (operator.visit now other).Trace log outcome) : Keeps key operator outcome.2 := by
  rcases trace_visit h with ⟨_, _, _, rfl⟩ | ⟨round, _, _, _, rfl⟩
  · exact .refl key operator
  · exact keeps_remember hother round

theorem policy_resync_of_visit {outcome : Bool × Operator}
    (h : (operator.visit now key).Trace log outcome) :
    outcome.2.policy = operator.policy ∧ outcome.2.resync = operator.resync := by
  rcases trace_visit h with ⟨_, _, _, rfl⟩ | ⟨round, _, _, _, rfl⟩
  · exact ⟨rfl, rfl⟩
  · exact remember_policy_resync round

/-! ## Visits one after the other -/

theorem trace_visitAll_nil : (operator.visitAll now []).Trace [] (0, operator) :=
  .done _

theorem trace_visitAll_cons_iff {keys : List String} {outcome : Nat × Operator} :
    (operator.visitAll now (key :: keys)).Trace log outcome ↔
      ∃ own others visited rest, log = own ++ others ∧
        (operator.visit now key).Trace own visited ∧
        (visited.2.visitAll now keys).Trace others rest ∧
        outcome = (if visited.1 then rest.1 + 1 else rest.1, rest.2) := by
  constructor
  · intro h
    obtain ⟨own, behind, visited, rfl, hvisit, hbehind⟩ := Program.trace_bind_iff.mp h
    obtain ⟨rest, hrest, rfl⟩ := Program.trace_map_iff.mp hbehind
    exact ⟨own, behind, visited, rest, rfl, hvisit, hrest, rfl⟩
  · rintro ⟨own, others, visited, rest, rfl, hvisit, hothers, rfl⟩
    exact hvisit.bind (Program.trace_map_iff.mpr ⟨rest, hothers, rfl⟩)

theorem trace_visitAll_append {keys others : List String} {outcome : Nat × Operator}
    (h : (operator.visitAll now (keys ++ others)).Trace log outcome) :
    ∃ front back middle rest, log = front ++ back ∧
      (operator.visitAll now keys).Trace front middle ∧
      (middle.2.visitAll now others).Trace back rest ∧ outcome.2 = rest.2 := by
  induction keys generalizing operator log outcome with
  | nil => exact ⟨[], log, (0, operator), outcome, rfl, trace_visitAll_nil, h, rfl⟩
  | cons first keys ih =>
      obtain ⟨own, behind, visited, last, rfl, hvisit, hbehind, rfl⟩ := trace_visitAll_cons_iff.mp h
      obtain ⟨front, back, middle, rest, rfl, hfront, hback, hlast⟩ := ih hbehind
      refine ⟨own ++ front, back, _, rest, (List.append_assoc ..).symm,
        hvisit.bind (Program.trace_map_iff.mpr ⟨middle, hfront, rfl⟩), hback, hlast⟩

/-- Visits to other keys leave what is remembered of a key as it is. -/
theorem keeps_of_visitAll {keys : List String} (hkey : key ∉ keys) {outcome : Nat × Operator}
    (h : (operator.visitAll now keys).Trace log outcome) : Keeps key operator outcome.2 := by
  induction keys generalizing operator log outcome with
  | nil =>
      obtain ⟨rfl, rfl⟩ := Program.trace_done_iff.mp h
      exact .refl key operator
  | cons first rest ih =>
      obtain ⟨hfirst, hrest⟩ := not_or.mp (mt List.mem_cons.mpr hkey)
      obtain ⟨own, others, visited, last, rfl, hvisit, hothers, rfl⟩ := trace_visitAll_cons_iff.mp h
      have hbehind : Keeps key visited.2 last.2 := ih hrest hothers
      exact (keeps_of_visit (Ne.symm hfirst) hvisit).trans hbehind

/-- A sweep begins with the listing, and goes on if there is one. -/
theorem trace_sweep_iff {outcome : Except FileFault Nat × Operator} :
    operator.sweep.Trace log outcome ↔
      (∃ fault, log = [⟨.file .list, .error fault⟩] ∧ outcome = (.error fault, operator)) ∨
      ∃ (names keys : List String) (start : Nat) (visits : List Event) (visited : Nat × Operator),
        keys = Store.sortKeys (names.filterMap Store.keyOf?) ∧
        log = ⟨.file .list, .ok names⟩ :: ⟨.instant, start⟩ :: visits ∧
        (visitAll { operator with schedules := operator.schedules.keep keys.contains }
          start keys).Trace visits visited ∧
        outcome = (.ok visited.1, visited.2) := by
  constructor
  · intro h
    obtain ⟨listing, rest, listed, rfl, hlisting, hrest⟩ := Program.trace_bind_iff.mp h
    obtain ⟨reply, silence, rfl, hsilence⟩ := Program.trace_ask_iff.mp hlisting
    obtain ⟨rfl, rfl⟩ := Program.trace_done_iff.mp hsilence
    cases reply with
    | error fault =>
        obtain ⟨rfl, rfl⟩ := Program.trace_done_iff.mp hrest
        exact .inl ⟨fault, rfl, rfl⟩
    | ok names =>
        obtain ⟨start, visits, rfl, hvisits⟩ := Program.trace_perform_bind_iff.mp hrest
        obtain ⟨visited, hall, rfl⟩ := Program.trace_map_iff.mp hvisits
        exact .inr ⟨names, _, start, visits, visited, rfl, rfl, hall, rfl⟩
  · have hlisted (reply : Except FileFault (List String)) : Store.keys.lift.Trace
        [(⟨.file .list, reply⟩ : Event)]
        (reply.map fun names => Store.sortKeys (names.filterMap Store.keyOf?)) :=
      Program.trace_ask_iff.mpr ⟨reply, [], rfl, .done _⟩
    rintro (⟨fault, rfl, rfl⟩ | ⟨names, keys, start, visits, visited, rfl, rfl, hall, rfl⟩)
    · exact (hlisted (.error fault)).bind (.done _)
    · exact (hlisted (.ok names)).bind (Program.trace_perform_bind_iff.mpr
        ⟨start, visits, rfl, Program.trace_map_iff.mpr ⟨visited, hall, rfl⟩⟩)

/-- What a sweep forgets is only about keys that were not listed. -/
theorem get?_keep_of_mem (schedules : Schedules) {keys : List String} (hkey : key ∈ keys) :
    (schedules.keep keys.contains).get? key = schedules.get? key := by
  rw [Table.get?_keep, if_pos (List.contains_iff_mem.mpr hkey)]

/-! ## Visits that there are -/

/-- Every round that decides by the schedule is the visit of some operator. -/
theorem Logged.trace_visit {round : Round} (h : Logged operator.policy key round log)
    (hdue : round.reconciled = operator.schedules.isDue key round.found round.start) :
    (operator.visit round.start key).Trace log (round.reconciled, operator.remember key round) := by
  have hget {content : Text} {found : Resource}
      (hdecode : Resource.codec.decode content = .ok found) :
      (Store.get key).lift.Trace [Event.reading key (.ok content)] (.ok found) := by
    have hfound : (Resource.codec.decode content).mapError (StoreError.malformed key) =
        .ok found := congrArg (Except.mapError _) hdecode
    exact hfound ▸ .ask _ (.done _)
  cases h with
  | @left start content found hdecode =>
      have hdue : operator.schedules.isDue key found start = false := hdue.symm
      refine (hget hdecode).bind ?_
      simp only [hdue]
      exact .done _
  | @lost start content found _ _ _ _ writes _ hdecode hpass hwrites =>
      have hdue : operator.schedules.isDue key found start = true := hdue.symm
      refine (hget hdecode).bind ?_
      simp only [hdue]
      refine Program.trace_map_iff.mpr ⟨operator, ?_, rfl⟩
      refine Program.trace_perform_bind_iff.mpr ⟨_, _, rfl, ?_⟩
      refine (trace_liftCall_iff.mpr ⟨_, hpass, rfl⟩).bind ?_
      rw [← List.append_nil writes]
      exact hwrites.bind (.done _)
  | @saved start _ content found _ _ _ _ _ hdecode hpass hwrites =>
      have hdue : operator.schedules.isDue key found start = true := hdue.symm
      refine (hget hdecode).bind ?_
      simp only [hdue]
      refine Program.trace_map_iff.mpr ⟨_, ?_, rfl⟩
      refine Program.trace_perform_bind_iff.mpr ⟨_, _, rfl, ?_⟩
      refine (trace_liftCall_iff.mpr ⟨_, hpass, rfl⟩).bind (hwrites.bind ?_)
      exact .ask _ (.done _)

end Operator

end CloudSteward
