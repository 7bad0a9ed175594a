import CloudSteward.Proofs.Manifest
import CloudSteward.Proofs.Operator.Turns
import CloudSteward.Proofs.Project.Pass
import Mathlib.Data.List.Chain

/-!
# When a resource is looked at again

Sweeps follow each other, each with what the one before remembered, and a manifest that is
always there and can be read goes through one round after the other.  The logs of the sweeps
show these rounds and no others (`rounds_unique`), and `Punctual` says when they make a pass.

After a pass whose outcome was saved the operator has patience with the resource, for a time
that depends on the result (`patience`), and what it wrote itself does not disturb it: the
manifest says what the pass gave back, and so declares the same
(`Round.echoes_leaves`).  As long as nobody else writes the manifest, all rounds within that
time leave the resource alone, and the schedule stays what it is (`left_of_early`); the first
round behind it makes a pass.

What is remembered belongs to the last pass that was saved.  So a pass that got lost is made
again if the manifest still says the same, and a round notices every change since the round
before, unless that one was lost.  A change that takes the manifest back to what the last
saved pass left behind, from something whose pass was lost, is not noticed: that is the
detour at the end of this module.
-/

namespace CloudSteward.Operator

open Json

/-! ## Patience -/

/-- For how many milliseconds a resource is left alone after a pass; without a bound if
trying again makes no sense. -/
def patience (resync : Nat) (result : PassResult) : Option Nat :=
  if result.isOk then some resync
  else if result.isInProgress || result.retryable then some retryDelay
  else none

theorem nextAfter_eq (resync now : Nat) (result : PassResult) :
    Schedule.nextAfter resync now result = (patience resync result).map (now + ·) := by
  obtain ⟨outcome, retryable, warning⟩ := result
  cases outcome with
  | ok => rfl
  | inProgress reason message => rfl
  | terminate reason message => cases retryable <;> rfl

/-- Whether a moment lies within some patience that began at `finish`. -/
def Early (finish : Nat) (patience : Option Nat) (start : Nat) : Prop :=
  ∀ delay, patience = some delay → start < finish + delay

/-- Patience without a bound does not end. -/
theorem early_none {finish start : Nat} : Early finish none start :=
  fun _ hdelay => nomatch hdelay

theorem Early.mono {finish start earlier : Nat} {patience : Option Nat}
    (h : Early finish patience start) (hle : earlier ≤ start) : Early finish patience earlier :=
  fun delay hdelay => Nat.lt_of_le_of_lt hle (h delay hdelay)

/-- What is remembered of a pass that was saved. -/
def planned (resync finish : Nat) (after : Resource) (result : PassResult) : Schedule where
  next := Schedule.nextAfter resync finish result
  fingerprint := after.fingerprint

theorem isDue_planned_iff {resync finish start : Nat} {after found : Resource}
    {result : PassResult} :
    (planned resync finish after result).isDue found start = true ↔
      found.declared ≠ after.declared ∨ ¬Early finish (patience resync result) start := by
  have hfingerprint : decide (after.fingerprint ≠ found.fingerprint) = true ↔
      found.declared ≠ after.declared := by
    rw [decide_eq_true_iff, ne_eq, Resource.fingerprint_eq_iff, ne_eq, eq_comm]
  unfold planned Schedule.isDue
  rw [Bool.or_eq_true, hfingerprint, nextAfter_eq]
  refine or_congr_right ?_
  cases patience resync result with
  | none => simp [Early]
  | some delay => simp [Early]

theorem isDue_planned_eq_false {resync finish start : Nat} {after found : Resource}
    {result : PassResult} (hdeclared : found.declared = after.declared)
    (hearly : Early finish (patience resync result) start) :
    (planned resync finish after result).isDue found start = false := by
  rw [← Bool.not_eq_true, isDue_planned_iff]
  exact not_or.mpr ⟨not_not_intro hdeclared, not_not_intro hearly⟩

theorem isDue_mono {schedule : Schedule} {found : Resource} {start later : Nat}
    (h : schedule.isDue found start = true) (hle : start ≤ later) :
    schedule.isDue found later = true := by
  unfold Schedule.isDue at h ⊢
  rw [Bool.or_eq_true] at h ⊢
  refine h.imp_right fun hnext => ?_
  cases hschedule : schedule.next with
  | none =>
      rw [hschedule] at hnext
      exact hnext
  | some next =>
      rw [hschedule] at hnext
      exact decide_eq_true (Nat.le_trans (of_decide_eq_true hnext) hle)

/-! ## Rounds after each other -/

namespace Round

/-- What the manifest says after a round, if nobody else has written it. -/
def leaves (round : Round) : Text :=
  match round.care with
  | .left => round.content
  | .lost _ _ => round.content
  | .saved after _ _ => if after = round.found then round.content else Store.content after

/-- The resource as the operator knows it after a round. -/
def known (round : Round) : Resource :=
  match round.care with
  | .left => round.found
  | .lost _ _ => round.found
  | .saved after _ _ => after

end Round

/-- Whether nobody but the operator wrote the manifest between some rounds. -/
def Undisturbed (rounds : List Round) : Prop :=
  rounds.IsChain fun earlier later => later.content = earlier.leaves

/-- Whatever a content is read as declares what this resource declares. -/
def Echoes (content : Text) (resource : Resource) : Prop :=
  ∀ found, Resource.codec.decode content = .ok found → found.declared = resource.declared

/-- Some rounds after each other, with what is remembered before and after them. -/
inductive Proceeds (resync : Nat) : Option Schedule → List Round → Option Schedule → Prop where
  | nil {schedule : Option Schedule} : Proceeds resync schedule [] schedule
  | cons {before between after : Option Schedule} {round : Round} {rounds : List Round} :
      Advances resync before round between → Proceeds resync between rounds after →
        Proceeds resync before (round :: rounds) after

variable {resync finish : Nat} {before between after : Option Schedule} {round : Round}
  {earlier later : List Round} {resource : Resource} {result : PassResult}

theorem Proceeds.append (h : Proceeds resync before (earlier ++ later) after) :
    ∃ between, Proceeds resync before earlier between ∧ Proceeds resync between later after := by
  induction earlier generalizing before with
  | nil => exact ⟨before, .nil, h⟩
  | cons first rest ih =>
      cases h with
      | cons hfirst hrest =>
          obtain ⟨between, hbehind, hlater⟩ := ih hrest
          exact ⟨between, .cons hfirst hbehind, hlater⟩

/-- What is remembered is that of the last pass that was saved. -/
theorem Advances.remembered_of_saved (h : Advances resync before round after)
    (hcare : round.care = .saved resource result finish) :
    after = some (planned resync finish resource result) := by
  rw [h.remembered, Round.schedule?, hcare]
  rfl

theorem Advances.remembered_of_not_saved (h : Advances resync before round after)
    (hcare : ∀ resource result finish, round.care ≠ .saved resource result finish) :
    after = before := by
  rw [h.remembered, Round.schedule?]
  cases hround : round.care with
  | left => rfl
  | lost => rfl
  | saved resource result finish => exact absurd hround (hcare resource result finish)

theorem Round.left_iff : round.care = .left ↔ round.reconciled = false := by
  rw [Round.reconciled]
  cases round.care <;> simp

/-- With the schedule of a pass that was saved, a round makes a pass exactly if the manifest
declares something else or the time is up. -/
theorem Advances.reconciled_iff
    (h : Advances resync (some (planned resync finish resource result)) round after) :
    round.reconciled = true ↔ round.found.declared ≠ resource.declared ∨
      ¬Early finish (patience resync result) round.start := by
  rw [h.decided]
  exact isDue_planned_iff

/-- What a saved pass leaves in the manifest declares what it gave back. -/
theorem Round.echoes_leaves (hdecode : Resource.codec.decode round.content = .ok round.found)
    (hcare : round.care = .saved resource result finish) : Echoes round.leaves resource := by
  intro found hfound
  rw [Round.leaves, hcare] at hfound
  by_cases hsame : resource = round.found
  · simp only [if_pos hsame] at hfound
    rw [Except.ok.inj (hfound.symm.trans hdecode), hsame]
  · simp only [if_neg hsame] at hfound
    rw [Except.ok.inj (hfound.symm.trans resource.decode_content)]

/-- As long as nobody else writes the manifest and the time is not up, the resource is left
alone, and what is remembered stays. -/
theorem left_of_early {previous : Round} (hechoes : Echoes previous.leaves resource)
    (h : Proceeds resync (some (planned resync finish resource result)) later after)
    (hundisturbed : Undisturbed (previous :: later))
    (hearly : ∀ round ∈ later, Early finish (patience resync result) round.start) :
    (∀ round ∈ later, round.care = .left) ∧
      after = some (planned resync finish resource result) := by
  induction later generalizing previous with
  | nil =>
      cases h
      exact ⟨List.forall_mem_nil _, rfl⟩
  | cons round rest ih =>
      obtain ⟨hcontent, hchain⟩ := List.isChain_cons_cons.mp hundisturbed
      obtain ⟨hnow, hlater⟩ := List.forall_mem_cons.mp hearly
      cases h with
      | cons hround hrest =>
          -- Nobody else wrote the manifest, so it still declares what the pass gave back.
          have hdeclared : round.found.declared = resource.declared :=
            hechoes round.found (hcontent ▸ hround.decode_eq)
          have hleft : round.care = .left :=
            Round.left_iff.mpr (hround.decided.trans (isDue_planned_eq_false hdeclared hnow))
          have hsame := hround.remembered_of_not_saved
            fun _ _ _ hcare => nomatch hleft.symm.trans hcare
          have hleaves : round.leaves = previous.leaves := by
            rw [Round.leaves, hleft]
            exact hcontent
          -- The rounds behind begin with the same schedule and the same manifest.
          subst hsame
          obtain ⟨hall, hafter⟩ := ih (hleaves ▸ hechoes) hrest hchain hlater
          exact ⟨List.forall_mem_cons.mpr ⟨hleft, hall⟩, hafter⟩

/-! ## Punctuality -/

/-- When rounds after each other make a pass, where `before` is remembered at first. -/
structure Punctual (resync : Nat) (before : Option Schedule) (rounds : List Round) : Prop where
  /-- If nothing is remembered, all rounds make a pass until one is saved. -/
  begins : before = none → ∀ {earlier later : List Round} {next : Round},
    rounds = earlier ++ next :: later →
    (∀ round ∈ earlier, ∀ resource result finish, round.care ≠ .saved resource result finish) →
    next.reconciled = true
  /-- After a saved pass, no round within its patience makes another. -/
  waits : ∀ {earlier later : List Round} {saved : Round} {resource : Resource}
    {result : PassResult} {finish : Nat}, rounds = earlier ++ saved :: later →
    saved.care = .saved resource result finish → Undisturbed (saved :: later) →
    ∀ round ∈ later, Early finish (patience resync result) round.start → round.care = .left
  /-- The first round behind it does. -/
  returns : ∀ {earlier between later : List Round} {saved next : Round} {resource : Resource}
    {result : PassResult} {finish : Nat}, rounds = earlier ++ saved :: (between ++ next :: later) →
    saved.care = .saved resource result finish → Undisturbed (saved :: between) →
    (∀ round ∈ between, Early finish (patience resync result) round.start) →
    ¬Early finish (patience resync result) next.start → next.reconciled = true
  /-- A pass that got lost is made again in the next round, if the manifest still says the
  same. -/
  retries : ∀ {earlier later : List Round} {lost next : Round} {resource : Resource}
    {result : PassResult}, rounds = earlier ++ lost :: next :: later →
    lost.care = .lost resource result → next.content = lost.leaves → next.reconciled = true
  /-- A change of what is declared is noticed in the next round, unless the pass of the round
  before got lost. -/
  notices : ∀ {earlier later : List Round} {previous next : Round},
    rounds = earlier ++ previous :: next :: later →
    (∀ resource result, previous.care ≠ .lost resource result) →
    next.found.declared ≠ previous.known.declared → next.reconciled = true
  /-- Whatever happened to the manifest since the last saved pass, what counts is whether it
  now declares what that pass left behind. -/
  decides : ∀ {earlier between later : List Round} {saved next : Round} {resource : Resource}
    {result : PassResult} {finish : Nat}, rounds = earlier ++ saved :: (between ++ next :: later) →
    saved.care = .saved resource result finish →
    (∀ round ∈ between, ∀ resource result finish, round.care ≠ .saved resource result finish) →
    (next.reconciled = true ↔ next.found.declared ≠ resource.declared ∨
      ¬Early finish (patience resync result) next.start)

theorem Proceeds.cons_iff {rounds : List Round} :
    Proceeds resync before (round :: rounds) after ↔
      ∃ between, Advances resync before round between ∧ Proceeds resync between rounds after := by
  constructor
  · rintro (_ | ⟨hround, hrest⟩)
    exact ⟨_, hround, hrest⟩
  · rintro ⟨between, hround, hrest⟩
    exact .cons hround hrest

/-- Rounds without a saved pass leave the schedule as it is. -/
theorem Proceeds.same (h : Proceeds resync before later after)
    (hcare : ∀ round ∈ later, ∀ resource result finish,
      round.care ≠ .saved resource result finish) : after = before := by
  induction h with
  | nil => rfl
  | cons hround _ ih =>
      obtain ⟨hfirst, hrest⟩ := List.forall_mem_cons.mp hcare
      exact (ih hrest).trans (hround.remembered_of_not_saved hfirst)

/-- A saved pass is followed by rounds that begin with its schedule. -/
theorem Proceeds.behind_saved {saved : Round}
    (h : Proceeds resync before (earlier ++ saved :: later) after)
    (hcare : saved.care = .saved resource result finish) :
    Echoes saved.leaves resource ∧
      Proceeds resync (some (planned resync finish resource result)) later after := by
  obtain ⟨between, -, hbehind⟩ := h.append
  obtain ⟨remembered, hsaved, hlater⟩ := Proceeds.cons_iff.mp hbehind
  exact ⟨Round.echoes_leaves hsaved.decode_eq hcare, hsaved.remembered_of_saved hcare ▸ hlater⟩

theorem Proceeds.retries {lost next : Round} (hstart : lost.start ≤ next.start)
    (h : Proceeds resync before (lost :: next :: later) after)
    (hcare : lost.care = .lost resource result) (hcontent : next.content = lost.leaves) :
    next.reconciled = true := by
  obtain ⟨remembered, hlost, hrest⟩ := Proceeds.cons_iff.mp h
  obtain ⟨_, hnext, _⟩ := Proceeds.cons_iff.mp hrest
  obtain rfl := hlost.remembered_of_not_saved fun _ _ _ hsaved => nomatch hcare.symm.trans hsaved
  -- The manifest says the same, so the same resource is judged by the same schedule.
  have hleaves : lost.leaves = lost.content := by
    rw [Round.leaves, hcare]
  have hfound : next.found = lost.found := by
    have hdecode := hnext.decode_eq
    rw [hcontent, hleaves, hlost.decode_eq] at hdecode
    exact (Except.ok.inj hdecode).symm
  have hreconciled : lost.reconciled = true := by
    rw [Round.reconciled, hcare]
  rw [hlost.decided] at hreconciled
  rw [hnext.decided, hfound]
  cases remembered with
  | none => rfl
  | some schedule => exact isDue_mono hreconciled hstart

theorem Proceeds.notices {previous next : Round}
    (h : Proceeds resync before (previous :: next :: later) after)
    (hcare : ∀ resource result, previous.care ≠ .lost resource result)
    (hdeclared : next.found.declared ≠ previous.known.declared) : next.reconciled = true := by
  obtain ⟨remembered, hprevious, hrest⟩ := Proceeds.cons_iff.mp h
  obtain ⟨_, hnext, _⟩ := Proceeds.cons_iff.mp hrest
  cases hround : previous.care with
  | lost resource result => exact absurd hround (hcare resource result)
  | saved resource result finish =>
      obtain rfl := hprevious.remembered_of_saved hround
      rw [Round.known, hround] at hdeclared
      exact hnext.reconciled_iff.mpr (.inl hdeclared)
  | left =>
      obtain rfl := hprevious.remembered_of_not_saved fun _ _ _ hsaved =>
        nomatch hround.symm.trans hsaved
      have hleft := Round.left_iff.mp hround
      rw [hprevious.decided] at hleft
      rw [Round.known, hround] at hdeclared
      rw [hnext.decided]
      cases remembered with
      | none => rfl
      | some schedule =>
          -- Left alone, so what was read had the fingerprint that is remembered.
          have hsame : schedule.fingerprint = previous.found.fingerprint := by
            simpa using (Bool.or_eq_false_iff.mp hleft).1
          have hdiffers : schedule.fingerprint ≠ next.found.fingerprint := fun heq =>
            hdeclared (Resource.fingerprint_eq_iff.mp (heq.symm.trans hsame))
          exact Bool.or_eq_true_iff.mpr (.inl (decide_eq_true hdiffers))

/-- Rounds whose sweeps began one after the other are punctual. -/
theorem Proceeds.punctual {rounds : List Round} (h : Proceeds resync before rounds after)
    (hclock : rounds.Pairwise fun first second => first.start ≤ second.start) :
    Punctual resync before rounds where
  begins := by
    rintro rfl earlier later next rfl hnone
    obtain ⟨between, hearlier, hbehind⟩ := h.append
    obtain rfl := hearlier.same hnone
    obtain ⟨_, hnext, _⟩ := Proceeds.cons_iff.mp hbehind
    exact hnext.decided
  waits := by
    rintro earlier later saved resource result finish rfl hcare hundisturbed round hround hearly
    obtain ⟨hechoes, hlater⟩ := h.behind_saved hcare
    obtain ⟨front, back, rfl⟩ := List.append_of_mem hround
    have hordered := (List.pairwise_append.mp
      (List.pairwise_cons.mp (List.pairwise_append.mp hclock).2.1).2).2.2
    -- The clock does not go back, so the rounds before this one are early as well.
    have hbefore : ∀ other ∈ front ++ [round],
        Early finish (patience resync result) other.start := by
      refine List.forall_mem_append.mpr
        ⟨fun other hother => ?_, List.forall_mem_singleton.mpr hearly⟩
      exact hearly.mono (hordered other hother round List.mem_cons_self)
    rw [List.append_cons] at hlater hundisturbed
    obtain ⟨between, hfront, -⟩ := hlater.append
    exact (left_of_early hechoes hfront (List.IsChain.left_of_append hundisturbed) hbefore).1 round
      (by simp)
  returns := by
    rintro earlier between later saved next resource result finish rfl hcare hundisturbed hearly
      hlate
    obtain ⟨hechoes, hlater⟩ := h.behind_saved hcare
    obtain ⟨remembered, hbetween, hbehind⟩ := hlater.append
    obtain ⟨-, rfl⟩ := left_of_early hechoes hbetween hundisturbed hearly
    obtain ⟨_, hnext, _⟩ := Proceeds.cons_iff.mp hbehind
    exact hnext.reconciled_iff.mpr (.inr hlate)
  retries := by
    rintro earlier later lost next resource result rfl hcare hcontent
    obtain ⟨between, -, hbehind⟩ := h.append
    have hstart : lost.start ≤ next.start :=
      (List.pairwise_cons.mp (List.pairwise_append.mp hclock).2.1).1 next List.mem_cons_self
    exact hbehind.retries hstart hcare hcontent
  notices := by
    rintro earlier later previous next rfl hcare hdeclared
    obtain ⟨between, -, hbehind⟩ := h.append
    exact hbehind.notices hcare hdeclared
  decides := by
    rintro earlier between later saved next resource result finish rfl hcare hnone
    obtain ⟨-, hlater⟩ := h.behind_saved hcare
    obtain ⟨remembered, hbetween, hbehind⟩ := hlater.append
    obtain rfl := hbetween.same hnone
    obtain ⟨_, hnext, _⟩ := Proceeds.cons_iff.mp hbehind
    exact hnext.reconciled_iff

/-! ## Sweeps after each other -/

/-- Some sweeps after each other, with their logs. -/
inductive Sweeps : Operator → List (List Event) → Operator → Prop where
  | none {operator : Operator} : Sweeps operator [] operator
  | next {operator after : Operator} {outcome : Except FileFault Nat × Operator}
      {log : List Event} {logs : List (List Event)} :
      operator.sweep.Trace log outcome → Sweeps outcome.2 logs after →
        Sweeps operator (log :: logs) after

variable {operator later : Operator} {logs : List (List Event)} {key : String}

theorem exists_rounds_of_sweeps (h : Sweeps operator logs later)
    (hpresent : ∀ log ∈ logs, Present key log) :
    ∃ rounds, List.Forall₂ (Shows operator.policy key) logs rounds ∧
      Proceeds operator.resync (operator.schedules.get? key) rounds
        (later.schedules.get? key) := by
  induction h with
  | none => exact ⟨[], .nil, .nil⟩
  | @next operator _ outcome _ _ hsweep _ ih =>
      obtain ⟨hfirst, hrest⟩ := List.forall_mem_cons.mp hpresent
      obtain ⟨round, hshows, hpolicy, hresync, hadvances⟩ := exists_round_of_sweep hfirst hsweep
      obtain ⟨rounds, hall, hproceeds⟩ := ih hrest
      rw [hpolicy] at hall
      rw [hresync] at hproceeds
      exact ⟨round :: rounds, .cons hshows hall, .cons hadvances hproceeds⟩

/-- What the planning clock showed, if that was asked. -/
def Event.instant? (event : Event) : Option Nat :=
  match event with
  | ⟨.instant, time⟩ => some time
  | _ => none

/-- What the planning clock showed whenever it was looked at. -/
def instants (log : List Event) : List Nat :=
  log.filterMap Event.instant?

/-- The beginnings of the sweeps are among what the clock showed. -/
theorem starts_sublist {policy : Policy} {rounds : List Round}
    (h : List.Forall₂ (Shows policy key) logs rounds) :
    (rounds.map Round.start).Sublist (instants logs.flatten) := by
  induction h with
  | nil => exact .slnil
  | @cons log round logs rounds hshows _ ih =>
      have hfirst : [round.start].Sublist (instants log) := by
        cases hshows with
        | sweep => exact List.singleton_sublist.mpr List.mem_cons_self
      rw [List.flatten_cons, instants, List.filterMap_append]
      exact hfirst.append ih

/-- The logs of the sweeps leave no choice which rounds they show. -/
theorem rounds_unique {policy : Policy} {rounds others : List Round}
    (h : List.Forall₂ (Shows policy key) logs rounds)
    (hothers : List.Forall₂ (Shows policy key) logs others) : others = rounds := by
  have hunique : Relator.RightUnique (Shows policy key) := fun _ _ _ => Shows.unique
  exact hunique.forall₂ hothers h

/-- Sweeps over a directory that always has the manifest of a key, by a clock that never goes
back, are punctual about it: the rounds that their logs show are, and the logs show no others. -/
theorem punctual_of_sweeps (hsweeps : Sweeps operator logs later)
    (hpresent : ∀ log ∈ logs, Present key log)
    (hclock : (instants logs.flatten).Pairwise (· ≤ ·)) :
    ∃ rounds, List.Forall₂ (Shows operator.policy key) logs rounds ∧
      (∀ others, List.Forall₂ (Shows operator.policy key) logs others → others = rounds) ∧
      Punctual operator.resync (operator.schedules.get? key) rounds := by
  obtain ⟨rounds, hshows, hproceeds⟩ := exists_rounds_of_sweeps hsweeps hpresent
  have hstarts := hclock.sublist (starts_sublist hshows)
  exact ⟨rounds, hshows, fun others => rounds_unique hshows,
    hproceeds.punctual (List.pairwise_map.mp hstarts)⟩

/-! ## A detour -/

/-- A project that the cloud does not know, under a name of the author's choice. -/
def stray (name : String) : Project where
  metadata := .new "k"
  spec := { name, accessRoles := [], integrations := [] }
  status := .blank

/-- What a pass makes of it: the pass asks for an id and gives up. -/
def asked (name : String) : Resource :=
  .project (Project.strayed MemoryCloud.creationTime (stray name)).resource

/-- A policy without protection. -/
def lenient : Policy where
  org := none
  guardObjects := false
  guardParts := false

theorem decode_stray (name : String) :
    Resource.codec.decode (Store.content (.project (stray name))) = .ok (.project (stray name)) :=
  Resource.decode_content _

theorem trace_reconcile_stray (name : String) :
    ((Resource.project (stray name)).reconcile lenient MemoryCloud.creationTime).Trace []
      ⟨asked name, Project.unidentified⟩ :=
  Program.trace_map_iff.mpr
    ⟨Project.strayed MemoryCloud.creationTime (stray name), .done _, rfl⟩

theorem asked_ne (name : String) : asked name ≠ .project (stray name) := fun h =>
  List.cons_ne_nil _ _
    (congrArg (fun project => project.status.conditions.entries) (Resource.project.inj h))

/-- The project is passed over and written back. -/
def kept (name : String) (start : Nat) : Round where
  start
  content := Store.content (.project (stray name))
  found := .project (stray name)
  care := .saved (asked name) Project.unidentified start

def keptLog (name : String) (start : Nat) : List Event :=
  [.reading "k" (.ok (Store.content (.project (stray name)))),
    ⟨.moment, MemoryCloud.creationTime⟩, .drafting "k" (asked name) (.ok ()),
    .placing "k" (.ok ()), ⟨.instant, start⟩]

theorem logged_kept (name : String) (start : Nat) :
    Logged lenient "k" (kept name start) (keptLog name start) := by
  have hwrites : (persist "k" (.project (stray name)) (asked name)).Trace
      [Event.drafting "k" (asked name) (.ok ()), Event.placing "k" (.ok ())] (.ok ()) := by
    rw [persist, if_neg (asked_ne name)]
    exact .ask _ (.ask _ (.done _))
  exact .saved (decode_stray name) (trace_reconcile_stray name) hwrites

/-- The project is passed over, but there is a folder in the way of the draft. -/
def blocked (name : String) (start : Nat) : Round where
  start
  content := Store.content (.project (stray name))
  found := .project (stray name)
  care := .lost (asked name) Project.unidentified

def blockedLog (key name : String) : List Event :=
  [.reading key (.ok (Store.content (.project (stray name)))),
    ⟨.moment, MemoryCloud.creationTime⟩, .drafting key (asked name) (.error .isFolder)]

theorem logged_blocked (key name : String) (start : Nat) :
    Logged lenient key (blocked name start) (blockedLog key name) := by
  have hwrites : (persist key (.project (stray name)) (asked name)).Trace
      [Event.drafting key (asked name) (.error .isFolder)] (.error (.io .isFolder)) := by
    rw [persist, if_neg (asked_ne name)]
    exact .ask _ (.done _)
  exact .lost (decode_stray name) (trace_reconcile_stray name) hwrites

/-- The project is left alone. -/
def ignored (name : String) (start : Nat) : Round where
  start
  content := Store.content (.project (stray name))
  found := .project (stray name)
  care := .left

def ignoredLog (name : String) : List Event :=
  [.reading "k" (.ok (Store.content (.project (stray name))))]

theorem logged_ignored (name : String) (start : Nat) :
    Logged lenient "k" (ignored name start) (ignoredLog name) :=
  .left (decode_stray name)

/-- One sweep over a directory with the only manifest of the project. -/
def sweepLog (names : List String) (start : Nat) (own : List Event) : List Event :=
  ⟨.file .list, .ok names⟩ :: ⟨.instant, start⟩ :: own

/-- The logs of the detour: the project is kept under one name, is blocked under another,
and gets its first name back. -/
def detourLogs : List (List Event) :=
  [sweepLog ["k.json"] 0 (keptLog "first" 0),
    sweepLog [".k.json.tmp", "k.json"] 1 (blockedLog "k" "second"),
    sweepLog ["k.json"] 2 (ignoredLog "first")]

def detourRounds : List Round :=
  [kept "first" 0, blocked "second" 1, ignored "first" 2]

theorem sortKeys_plain : Store.sortKeys (["k.json"].filterMap Store.keyOf?) = ["k"] :=
  List.mergeSort_singleton _

/-- A draft that was left behind is no manifest. -/
theorem sortKeys_drafted :
    Store.sortKeys ([".k.json.tmp", "k.json"].filterMap Store.keyOf?) = ["k"] :=
  List.mergeSort_singleton _

theorem sweeps_detour : ∃ later, Sweeps (.new lenient 30000) detourLogs later := by
  obtain ⟨first, hfirst, hpolicy, -, hschedule⟩ :=
    exists_sweep_of_round sortKeys_plain (show (new lenient 30000).policy = lenient from rfl)
      (logged_kept "first" 0) rfl
  -- The first pass is remembered, and its schedule has no next time.
  have hremembered : first.2.schedules.get? "k" =
      some (planned 30000 0 (asked "first") Project.unidentified) := hschedule
  have hchanged : (planned 30000 0 (asked "first") Project.unidentified).isDue
      (.project (stray "second")) 1 = true := isDue_planned_iff.mpr (.inl (by decide))
  obtain ⟨second, hsecond, hpolicy₂, -, hschedule₂⟩ :=
    exists_sweep_of_round sortKeys_drafted hpolicy (logged_blocked "k" "second" 1) (by
      rw [hremembered]
      exact hchanged.symm)
  have hforgotten : second.2.schedules.get? "k" =
      some (planned 30000 0 (asked "first") Project.unidentified) :=
    hschedule₂.trans hremembered
  have hwaits : (planned 30000 0 (asked "first") Project.unidentified).isDue
      (.project (stray "first")) 2 = false := isDue_planned_eq_false rfl early_none
  obtain ⟨third, hthird, -⟩ :=
    exists_sweep_of_round sortKeys_plain (hpolicy₂.trans hpolicy) (logged_ignored "first" 2) (by
      rw [hforgotten]
      exact hwaits.symm)
  exact ⟨third.2, .next hfirst (.next hsecond (.next hthird .none))⟩

theorem present_detour : ∀ log ∈ detourLogs, Present "k" log := by
  refine List.forall_mem_cons.mpr ⟨?_, List.forall_mem_cons.mpr ⟨?_,
    List.forall_mem_singleton.mpr ?_⟩⟩
  · exact (logged_kept "first" 0).present (by decide) (by decide) (by decide)
  · exact (logged_blocked "k" "second" 1).present (by decide) (by decide) (by decide)
  · exact (logged_ignored "first" 2).present (by decide) (by decide) (by decide)

theorem shows_detour : List.Forall₂ (Shows lenient "k") detourLogs detourRounds :=
  .cons ((logged_kept "first" 0).shows sortKeys_plain)
    (.cons ((logged_blocked "k" "second" 1).shows sortKeys_drafted)
      (.cons ((logged_ignored "first" 2).shows sortKeys_plain) .nil))

theorem clock_detour : (instants detourLogs.flatten).Pairwise (· ≤ ·) := by
  decide

/-- The sweeps of the detour are punctual, as all sweeps are. -/
theorem punctual_detour :
    ∃ later, Sweeps (.new lenient 30000) detourLogs later ∧
      ∃ rounds, List.Forall₂ (Shows lenient "k") detourLogs rounds ∧
        (∀ others, List.Forall₂ (Shows lenient "k") detourLogs others → others = rounds) ∧
        Punctual 30000 none rounds := by
  obtain ⟨later, hsweeps⟩ := sweeps_detour
  exact ⟨later, hsweeps, punctual_of_sweeps hsweeps present_detour clock_detour⟩

/-- But not every change of what is declared is noticed in the next round. -/
theorem not_forall_changes_noticed :
    ¬∀ (operator later : Operator) (key : String) (logs : List (List Event))
      (rounds : List Round), Sweeps operator logs later → (∀ log ∈ logs, Present key log) →
      (instants logs.flatten).Pairwise (· ≤ ·) →
      List.Forall₂ (Shows operator.policy key) logs rounds →
      ∀ (earlier behind : List Round) (previous next : Round),
        rounds = earlier ++ previous :: next :: behind →
        next.found.declared ≠ previous.known.declared → next.reconciled = true := by
  intro h
  obtain ⟨later, hsweeps⟩ := sweeps_detour
  have hnoticed := h _ later "k" detourLogs detourRounds hsweeps present_detour clock_detour
    shows_detour [kept "first" 0] [] (blocked "second" 1) (ignored "first" 2) rfl (by decide)
  exact Bool.false_ne_true hnoticed

end CloudSteward.Operator
