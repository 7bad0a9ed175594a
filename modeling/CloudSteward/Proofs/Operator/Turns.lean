import CloudSteward.Proofs.Operator.Visit
import Mathlib.Data.List.SplitBy

/-!
# The turns of the keys in a sweep

A sweep takes the listed keys one after the other, and each has its `Turn`.  A turn begins with
the reading of a manifest, and nothing else is read in it, so the log of a sweep falls into
turns in one way only (`eq_of_flatten_eq`), and an event belongs to the key whose manifest was
read last.

`Shows` says which round the log of a sweep shows for a key: the one of the turn of this key.
As a program that gets the same answers does the same, a turn is logged for one round only, and
so the round is a function of the log (`Shows.unique`).  A sweep over a directory that has the
manifest of a key comes to a round for it, which alone decides what is remembered
(`exists_round_of_sweep`).  Conversely every round that decides by the schedule is a sweep over
a directory with that manifest alone (`exists_sweep_of_round`).
-/

namespace CloudSteward

open Json

/-- Whether an effect is no more than a look at the directory. -/
def Effect.looks : Effect → Bool
  | .file .list => true
  | .file (.read _) => true
  | _ => false

namespace Operator

variable {operator : Operator} {policy : Policy} {key : String} {now : Nat} {round : Round}
  {log own : List Event}

/-! ## Turns -/

/-- What a sweep does when it is the turn of a key, with what was remembered of the key, and
whether a pass is made. -/
inductive Turn (policy : Policy) (start : Nat) (key : String) (remembered : Option Schedule) :
    List Event × Bool → Prop where
  /-- There is no resource. -/
  | vain {reply : FileAction.Answer (.read (Store.path key))} :
      (∀ resource, ¬Holds reply resource) →
        Turn policy start key remembered ([.reading key reply], false)
  /-- A pass is made exactly if the resource is due. -/
  | round {round : Round} {own : List Event} : round.start = start →
      Logged policy key round own → round.reconciled = dueBy remembered round.found start →
        Turn policy start key remembered (own, round.reconciled)

theorem turn_of_visit {outcome : Bool × Operator}
    (h : (operator.visit now key).Trace log outcome) :
    Turn operator.policy now key (operator.schedules.get? key) (log, outcome.1) := by
  rcases trace_visit h with ⟨reply, rfl, hnone, rfl⟩ | ⟨round, hstart, hlogged, hdue, rfl⟩
  · exact .vain hnone
  · exact .round hstart hlogged hdue

/-- Visits to keys without repetition are turns, by what is remembered at the beginning. -/
theorem exists_turns_of_visitAll {keys : List String} {before : String → Option Schedule}
    (hdistinct : keys.Nodup) (hbefore : ∀ key ∈ keys, operator.schedules.get? key = before key)
    {outcome : Nat × Operator} (h : (operator.visitAll now keys).Trace log outcome) :
    ∃ turns, List.Forall₂ (fun key => Turn operator.policy now key (before key)) keys turns ∧
      log = (turns.map Prod.fst).flatten ∧ outcome.1 = turns.countP Prod.snd := by
  induction keys generalizing operator log outcome with
  | nil =>
      obtain ⟨rfl, rfl⟩ := Program.trace_done_iff.mp h
      exact ⟨[], .nil, rfl, rfl⟩
  | cons first rest ih =>
      obtain ⟨hfirst, hrest⟩ := List.nodup_cons.mp hdistinct
      obtain ⟨hown, hothers⟩ := List.forall_mem_cons.mp hbefore
      obtain ⟨own, others, visited, last, rfl, hvisit, hlast, rfl⟩ := trace_visitAll_cons_iff.mp h
      have hkeeps (key : String) (hkey : key ∈ rest) : Keeps key operator visited.2 :=
        keeps_of_visit (ne_of_mem_of_not_mem hkey hfirst).symm hvisit
      obtain ⟨turns, hturns, rfl, hcount⟩ := ih hrest
        (fun key hkey => ((hkeeps key hkey).schedule_eq).trans (hothers key hkey)) hlast
      refine ⟨(own, visited.1) :: turns, .cons (hown ▸ turn_of_visit hvisit)
        ((policy_resync_of_visit hvisit).1 ▸ hturns), rfl, ?_⟩
      rw [List.countP_cons, ← hcount]
      cases visited.1 <;> rfl

/-- Whether some events are a turn of a key, whatever was remembered of it. -/
def Attended (policy : Policy) (start : Nat) (key : String) (events : List Event) : Prop :=
  ∃ remembered due, Turn policy start key remembered (events, due)

theorem attended_of_visitAll {keys : List String} (hdistinct : keys.Nodup)
    {outcome : Nat × Operator} (h : (operator.visitAll now keys).Trace log outcome) :
    ∃ turns, List.Forall₂ (Attended operator.policy now) keys turns ∧ log = turns.flatten := by
  obtain ⟨turns, hturns, rfl, -⟩ := exists_turns_of_visitAll hdistinct (fun _ _ => rfl) h
  refine ⟨turns.map Prod.fst, List.forall₂_map_right_iff.mpr (hturns.imp ?_), rfl⟩
  exact fun _ turn hturn => ⟨_, turn.2, hturn⟩

/-- Among visits to keys without repetition there is one to each, and what is remembered of its
key is changed by no other one. -/
theorem exists_visit_of_visitAll {keys : List String} (hkey : key ∈ keys) (hdistinct : keys.Nodup)
    {outcome : Nat × Operator} (h : (operator.visitAll now keys).Trace log outcome) :
    ∃ before after earlier own later middle visited,
      keys = before ++ key :: after ∧ key ∉ before ∧ key ∉ after ∧
      log = (earlier ++ own :: later).flatten ∧
      List.Forall₂ (Attended operator.policy now) before earlier ∧
      (Operator.visit middle now key).Trace own visited ∧
      List.Forall₂ (Attended operator.policy now) after later ∧
      Keeps key operator middle ∧ Keeps key visited.2 outcome.2 := by
  obtain ⟨before, after, rfl⟩ := List.append_of_mem hkey
  obtain ⟨honce, hothers⟩ := List.nodup_cons.mp (List.nodup_middle.mp hdistinct)
  obtain ⟨hbefore, hafter⟩ := not_or.mp (mt List.mem_append.mpr honce)
  obtain ⟨front, behind, middle, last, rfl, hfront, hbehind, hlast⟩ := trace_visitAll_append h
  obtain ⟨own, back, visited, rest, rfl, hvisit, hback, rfl⟩ := trace_visitAll_cons_iff.mp hbehind
  obtain ⟨earlier, hearlier, rfl⟩ := attended_of_visitAll hothers.of_append_left hfront
  obtain ⟨later, hlater, rfl⟩ := attended_of_visitAll hothers.of_append_right hback
  have hmiddle : Keeps key operator middle.2 := keeps_of_visitAll hbefore hfront
  have hrest : Keeps key visited.2 rest.2 := keeps_of_visitAll hafter hback
  have hpolicy : visited.2.policy = operator.policy :=
    (policy_resync_of_visit hvisit).1.trans hmiddle.policy_eq
  rw [← List.flatten_cons, ← List.flatten_append]
  exact ⟨before, after, earlier, own, later, middle.2, visited, rfl, hbefore, hafter, rfl, hearlier,
    hvisit, hpolicy ▸ hlater, hmiddle, hlast ▸ hrest⟩

/-! ## Telling the turns apart -/

/-- Whether some events begin with a look at the directory, the only one among them. -/
def Begun (events : List Event) : Prop :=
  ∃ first rest, events = first :: rest ∧ first.question.looks = true ∧
    ∀ event ∈ rest, event.question.looks = false

theorem looks_of_mem_calls {exchanges : List Exchange} {event : Event}
    (h : event ∈ exchanges.map Event.ofCall) : event.question.looks = false := by
  obtain ⟨exchange, -, rfl⟩ := List.mem_map.mp h
  rfl

theorem looks_of_persist {before resource : Resource} {outcome : Except StoreError Unit}
    {writes : List Event} (h : (persist key before resource).Trace writes outcome) :
    ∀ event ∈ writes, event.question.looks = false := by
  intro event hevent
  rcases trace_persist h event hevent with ⟨reply, rfl⟩ | ⟨reply, rfl⟩ <;> rfl

/-- A round begins with the reading of its manifest, and looks at nothing else. -/
theorem Logged.eq_cons (h : Logged policy key round log) :
    ∃ rest, log = .reading key (.ok round.content) :: rest ∧
      ∀ event ∈ rest, event.question.looks = false := by
  cases h with
  | left => exact ⟨[], rfl, List.forall_mem_nil _⟩
  | lost _ _ hwrites =>
      exact ⟨_, rfl, List.forall_mem_cons.mpr ⟨rfl, List.forall_mem_append.mpr
        ⟨fun _ => looks_of_mem_calls, looks_of_persist hwrites⟩⟩⟩
  | saved _ _ hwrites =>
      exact ⟨_, rfl, List.forall_mem_cons.mpr ⟨rfl, List.forall_mem_append.mpr
        ⟨fun _ => looks_of_mem_calls, List.forall_mem_append.mpr
          ⟨looks_of_persist hwrites, List.forall_mem_singleton.mpr rfl⟩⟩⟩⟩

theorem Logged.begun (h : Logged policy key round own) : Begun own := by
  obtain ⟨rest, rfl, hrest⟩ := h.eq_cons
  exact ⟨_, rest, rfl, rfl, hrest⟩

theorem Attended.begun {start : Nat} (h : Attended policy start key own) : Begun own := by
  obtain ⟨remembered, due, hturn⟩ := h
  cases hturn with
  | vain => exact ⟨_, [], rfl, rfl, List.forall_mem_nil _⟩
  | round _ hlogged => exact hlogged.begun

theorem begun_of_attended {start : Nat} {keys : List String} {turns : List (List Event)}
    (h : List.Forall₂ (Attended policy start) keys turns) : ∀ turn ∈ turns, Begun turn := by
  induction h with
  | nil => exact List.forall_mem_nil _
  | cons hturn _ ih => exact List.forall_mem_cons.mpr ⟨hturn.begun, ih⟩

/-- Turns are found in a log by cutting it at the looks. -/
theorem splitBy_flatten_of_begun {turns : List (List Event)} (h : ∀ turn ∈ turns, Begun turn) :
    turns.flatten.splitBy (fun _ event => !event.question.looks) = turns := by
  refine List.splitBy_flatten ?_ ?_ ?_
  · intro hnil
    obtain ⟨first, rest, heq, -⟩ := h [] hnil
    cases heq
  · intro turn hturn
    obtain ⟨first, rest, rfl, -, hrest⟩ := h turn hturn
    have hsilent : ∀ event ∈ rest, (!event.question.looks) = true := fun event hevent =>
      congrArg (! ·) (hrest event hevent)
    exact (List.pairwise_cons.mpr ⟨hsilent,
      List.pairwise_of_forall_mem_list fun _ _ event hevent => hsilent event hevent⟩).isChain
  · refine (List.pairwise_of_forall_mem_list fun turn hturn next hnext => ?_).isChain
    obtain ⟨_, _, rfl, -, -⟩ := h turn hturn
    obtain ⟨look, rest, rfl, hlook, -⟩ := h next hnext
    exact ⟨List.cons_ne_nil _ _, List.cons_ne_nil _ _, congrArg (! ·) hlook⟩

theorem eq_of_flatten_eq {first second : List (List Event)} (hfirst : ∀ turn ∈ first, Begun turn)
    (hsecond : ∀ turn ∈ second, Begun turn) (h : first.flatten = second.flatten) :
    first = second := by
  rw [← splitBy_flatten_of_begun hfirst, h, splitBy_flatten_of_begun hsecond]

/-! ## The round that a log shows -/

/-- What was read, what a pass over it gave back, and whether that was written, is seen in the
log, and so is where the pass ends. -/
theorem pass_unique {content content' : Text} {moment moment' : Moment} {found found' : Resource}
    {exchanges exchanges' : List Exchange} {reconciled reconciled' : Reconciled Resource}
    {writes writes' behind behind' : List Event} {outcome outcome' : Except StoreError Unit}
    (hdecode : Resource.codec.decode content = .ok found)
    (hpass : (found.reconcile policy moment).Trace exchanges reconciled)
    (hwrites : (persist key found reconciled.resource).Trace writes outcome)
    (hdecode' : Resource.codec.decode content' = .ok found')
    (hpass' : (found'.reconcile policy moment').Trace exchanges' reconciled')
    (hwrites' : (persist key found' reconciled'.resource).Trace writes' outcome')
    (h : Event.reading key (.ok content) :: ⟨.moment, moment⟩ ::
        (exchanges.map Event.ofCall ++ (writes ++ behind)) =
      .reading key (.ok content') :: ⟨.moment, moment'⟩ ::
        (exchanges'.map Event.ofCall ++ (writes' ++ behind'))) :
    content = content' ∧ found = found' ∧ reconciled = reconciled' ∧ outcome = outcome' ∧
      behind = behind' := by
  obtain ⟨hread, hlater⟩ := List.cons.inj h
  cases hread
  obtain ⟨hmoment, hcalls⟩ := List.cons.inj hlater
  cases hmoment
  obtain rfl : found = found' := Except.ok.inj (hdecode.symm.trans hdecode')
  obtain ⟨-, rfl, hbehind⟩ := (trace_liftCall_iff.mpr ⟨exchanges, hpass, rfl⟩).unique
    (trace_liftCall_iff.mpr ⟨exchanges', hpass', rfl⟩) hcalls
  obtain ⟨-, rfl, hlast⟩ := hwrites.unique hwrites' hbehind
  exact ⟨rfl, rfl, rfl, rfl, hlast⟩

/-- A turn is logged for one round only. -/
theorem Logged.unique {first second : Round} (hfirst : Logged policy key first own)
    (hsecond : Logged policy key second own) (hstart : first.start = second.start) :
    first = second := by
  generalize hown : own = turn at hsecond
  cases hfirst with
  | @left start content found hdecode =>
      cases hsecond with
      | @left start' content' found' hdecode' =>
          cases hown
          obtain rfl : found = found' := Except.ok.inj (hdecode.symm.trans hdecode')
          exact congrArg (Round.mk · content found .left) hstart
      | lost => cases hown
      | saved => cases hown
  | @lost _ _ _ _ _ _ _ writes _ hdecode hpass hwrites =>
      rw [← List.append_nil writes] at hown
      cases hsecond with
      | left => cases hown
      | @lost _ _ _ _ _ _ _ writes' _ hdecode' hpass' hwrites' =>
          rw [← List.append_nil writes'] at hown
          obtain ⟨rfl, rfl, hreconciled, -⟩ :=
            pass_unique hdecode hpass hwrites hdecode' hpass' hwrites' hown
          cases hreconciled
          cases hstart
          rfl
      | saved hdecode' hpass' hwrites' =>
          obtain ⟨-, -, -, houtcome, -⟩ :=
            pass_unique hdecode hpass hwrites hdecode' hpass' hwrites' hown
          cases houtcome
  | saved hdecode hpass hwrites =>
      cases hsecond with
      | left => cases hown
      | @lost _ _ _ _ _ _ _ writes' _ hdecode' hpass' hwrites' =>
          rw [← List.append_nil writes'] at hown
          obtain ⟨-, -, -, houtcome, -⟩ :=
            pass_unique hdecode hpass hwrites hdecode' hpass' hwrites' hown
          cases houtcome
      | saved hdecode' hpass' hwrites' =>
          obtain ⟨rfl, rfl, hreconciled, -, hfinish⟩ :=
            pass_unique hdecode hpass hwrites hdecode' hpass' hwrites' hown
          cases hreconciled
          cases hfinish
          cases hstart
          rfl

/-- A sweep in which the turn of a key, which is listed once, comes to this round. -/
inductive Shows (policy : Policy) (key : String) : List Event → Round → Prop where
  | sweep {names : List String} {before after : List String} {round : Round}
      {earlier later : List (List Event)} {own : List Event} :
      Store.sortKeys (names.filterMap Store.keyOf?) = before ++ key :: after →
      key ∉ before → key ∉ after →
      List.Forall₂ (Attended policy round.start) before earlier →
      Logged policy key round own →
      List.Forall₂ (Attended policy round.start) after later →
        Shows policy key (⟨.file .list, .ok names⟩ :: ⟨.instant, round.start⟩ ::
          (earlier ++ own :: later).flatten) round

theorem begun_of_shown {start : Nat} {before after : List String}
    {earlier later : List (List Event)}
    (hearlier : List.Forall₂ (Attended policy start) before earlier)
    (hown : Logged policy key round own)
    (hlater : List.Forall₂ (Attended policy start) after later) :
    ∀ turn ∈ earlier ++ own :: later, Begun turn :=
  List.forall_mem_append.mpr ⟨begun_of_attended hearlier,
    List.forall_mem_cons.mpr ⟨hown.begun, begun_of_attended hlater⟩⟩

/-- The log of a sweep shows one round for a key, if any. -/
theorem Shows.unique {first second : Round} (hfirst : Shows policy key log first)
    (hsecond : Shows policy key log second) : first = second := by
  cases hfirst with
  | @sweep names before after first earlier later own hkeys hbefore hafter hearlier hown hlater =>
      generalize hlog : (_ :: _ :: _ : List Event) = log at hsecond
      cases hsecond with
      | @sweep names' before' after' second earlier' later' own' hkeys' hbefore' hafter'
          hearlier' hown' hlater' =>
          obtain ⟨hlisting, hrest⟩ := List.cons.inj hlog
          obtain ⟨hinstant, hturns⟩ := List.cons.inj hrest
          cases hlisting
          have hstart : first.start = second.start := by injection hinstant
          -- The looks in the log tell the turns apart, and the keys tell which turn it is.
          have hbegun := eq_of_flatten_eq (begun_of_shown hearlier hown hlater)
            (begun_of_shown hearlier' hown' hlater') hturns
          obtain ⟨rfl, -, rfl⟩ := (List.append_cons_inj_of_notMem hbefore hafter).mp
            (hkeys.symm.trans hkeys')
          have hlength : earlier.length = earlier'.length :=
            hearlier.length_eq.symm.trans hearlier'.length_eq
          obtain ⟨-, hsame⟩ := List.append_inj hbegun hlength
          obtain ⟨rfl, -⟩ := List.cons.inj hsame
          exact hown.unique hown' hstart

/-! ## Sweeps -/

/-- A directory that has the manifest of a key: it is listed, once, and whatever is read of
it is a resource. -/
structure Present (key : String) (log : List Event) : Prop where
  proper : Store.keyOf? (Store.path key) = some key
  listed : ∀ reply : FileAction.Answer .list, (⟨.file .list, reply⟩ : Event) ∈ log →
    ∃ names : List String, reply = .ok names ∧ names.Nodup ∧ Store.path key ∈ names
  readable : ∀ reply, Event.reading key reply ∈ log → ∃ resource, Holds reply resource

/-- What one sweep does about a key: it decides by what was remembered whether a pass is
made, and remembers what came of it. -/
structure Advances (resync : Nat) (before : Option Schedule) (round : Round)
    (after : Option Schedule) : Prop where
  decode_eq : Resource.codec.decode round.content = .ok round.found
  decided : round.reconciled = dueBy before round.found round.start
  remembered : after = round.schedule? resync before

/-- A sweep over a directory that has the manifest of a key comes to one round for it. -/
theorem exists_round_of_sweep {outcome : Except FileFault Nat × Operator}
    (hpresent : Present key log) (h : operator.sweep.Trace log outcome) :
    ∃ round, Shows operator.policy key log round ∧
      outcome.2.policy = operator.policy ∧ outcome.2.resync = operator.resync ∧
      Advances operator.resync (operator.schedules.get? key) round
        (outcome.2.schedules.get? key) := by
  rcases trace_sweep_iff.mp h with
    ⟨fault, rfl, -⟩ | ⟨names, keys, start, visits, visited, hlisted, rfl, hall, rfl⟩
  · obtain ⟨_, hreply, -⟩ := hpresent.listed (.error fault) List.mem_cons_self
    cases hreply
  obtain ⟨_, hreply, hdistinct, hmem⟩ := hpresent.listed (.ok names) List.mem_cons_self
  cases hreply
  have hkey : key ∈ keys := hlisted ▸
    Store.mem_sortKeys_iff.mpr (Store.mem_filterMap_keyOf?_iff.mpr ⟨hmem, hpresent.proper⟩)
  have hkeys : keys.Nodup := hlisted ▸
    Store.nodup_sortKeys (Store.nodup_filterMap_keyOf? hdistinct)
  obtain ⟨before, after, earlier, own, later, middle, seen, hsplit, hbefore, hafter, rfl, hearlier,
    hvisit, hlater, hmiddle, hlast⟩ := exists_visit_of_visitAll hkey hkeys hall
  have hremembered : middle.schedules.get? key = operator.schedules.get? key :=
    hmiddle.schedule_eq.trans (get?_keep_of_mem operator.schedules hkey)
  rcases trace_visit hvisit with ⟨reply, rfl, hnone, _⟩ | ⟨round, rfl, hlogged, hdue, rfl⟩
  · obtain ⟨resource, hholds⟩ := hpresent.readable reply (by simp)
    exact absurd hholds (hnone resource)
  · obtain ⟨hpolicy, hresync⟩ : (middle.remember key round).policy = middle.policy ∧
        (middle.remember key round).resync = middle.resync := remember_policy_resync round
    refine ⟨round, .sweep (hlisted.symm.trans hsplit) hbefore hafter hearlier
      (hmiddle.policy_eq ▸ hlogged) hlater, ?_, ?_, hlogged.decode_eq, ?_, ?_⟩
    · rw [hlast.policy_eq, hpolicy, hmiddle.policy_eq]
    · rw [hlast.resync_eq, hresync, hmiddle.resync_eq]
    · rw [hdue, isDue_eq_dueBy, hremembered]
    · rw [hlast.schedule_eq, get?_remember, hremembered, hmiddle.resync_eq]

/-! ## Sweeps that there are -/

/-- A sweep whose log shows a round alone is one over a directory that has the manifest. -/
theorem Logged.present {names : List String} {start : Nat} (h : Logged policy key round own)
    (hproper : Store.keyOf? (Store.path key) = some key) (hdistinct : names.Nodup)
    (hmem : Store.path key ∈ names) :
    Present key (⟨.file .list, .ok names⟩ :: ⟨.instant, start⟩ :: own) := by
  obtain ⟨rest, rfl, hrest⟩ := h.eq_cons
  -- The directory is looked at twice.
  have hlooks (event : Event) (hevent : event ∈ (⟨.file .list, .ok names⟩ ::
      ⟨.instant, start⟩ :: .reading key (.ok round.content) :: rest : List Event))
      (hlook : event.question.looks = true) :
      event = ⟨.file .list, .ok names⟩ ∨ event = .reading key (.ok round.content) := by
    simp only [List.mem_cons] at hevent
    rcases hevent with rfl | rfl | rfl | hevent
    · exact .inl rfl
    · cases hlook
    · exact .inr rfl
    · exact absurd ((hrest event hevent).symm.trans hlook) Bool.false_ne_true
  refine ⟨hproper, fun reply hreply => ?_, fun reply hreply => ?_⟩
  · rcases hlooks _ hreply rfl with heq | heq
    · cases heq
      exact ⟨names, rfl, hdistinct, hmem⟩
    · cases heq
  · rcases hlooks _ hreply rfl with heq | heq
    · cases heq
    · cases heq
      exact ⟨round.found, round.content, rfl, h.decode_eq⟩

/-- The log of a sweep that visits nothing else shows the round. -/
theorem Logged.shows {names : List String}
    (honly : Store.sortKeys (names.filterMap Store.keyOf?) = [key])
    (h : Logged policy key round own) :
    Shows policy key (⟨.file .list, .ok names⟩ :: ⟨.instant, round.start⟩ :: own) round := by
  have hsweep : Shows policy key
      (⟨.file .list, .ok names⟩ :: ⟨.instant, round.start⟩ :: ([] ++ [own]).flatten) round :=
    .sweep honly List.not_mem_nil List.not_mem_nil .nil h .nil
  rwa [List.nil_append, List.flatten_singleton] at hsweep

/-- Where a key is the only one, every round that decides by the schedule is a sweep. -/
theorem exists_sweep_of_round {names : List String}
    (honly : Store.sortKeys (names.filterMap Store.keyOf?) = [key]) {policy : Policy}
    (hpolicy : operator.policy = policy) {round : Round} {own : List Event}
    (hlogged : Logged policy key round own)
    (hdecided : round.reconciled =
      dueBy (operator.schedules.get? key) round.found round.start) :
    ∃ outcome, operator.sweep.Trace
        (⟨.file .list, .ok names⟩ :: ⟨.instant, round.start⟩ :: own) outcome ∧
      outcome.2.policy = operator.policy ∧ outcome.2.resync = operator.resync ∧
      outcome.2.schedules.get? key =
        round.schedule? operator.resync (operator.schedules.get? key) := by
  subst hpolicy
  have hkept : (operator.schedules.keep [key].contains).get? key = operator.schedules.get? key :=
    get?_keep_of_mem _ List.mem_cons_self
  have hdue : round.reconciled =
      Schedules.isDue (operator.schedules.keep [key].contains) key round.found round.start := by
    rw [hdecided, isDue_eq_dueBy, hkept]
  -- The sweep begins with forgetting the other keys, which does not change the policy.
  have hswept : Logged
      ({ operator with schedules := operator.schedules.keep [key].contains } : Operator).policy
      key round own := hlogged
  have hvisits := trace_visitAll_cons_iff.mpr
    ⟨own, [], _, _, (List.append_nil own).symm, hswept.trace_visit hdue, trace_visitAll_nil, rfl⟩
  refine ⟨_, trace_sweep_iff.mpr (.inr ⟨names, [key], round.start, own, _, honly.symm, rfl,
    hvisits, rfl⟩), ?_, ?_, ?_⟩
  · exact (remember_policy_resync round).1
  · exact (remember_policy_resync round).2
  · rw [get?_remember, hkept]

end Operator

end CloudSteward
