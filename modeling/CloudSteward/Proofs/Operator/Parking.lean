import CloudSteward.Proofs.Operator.Timing

/-!
# Parked resources

After a pass that is terminated and makes no sense to try again, a resource is parked: no
time is planned for it.  The next sweep makes a pass over it exactly if its manifest
declares something else than what the last pass gave back (`reconciled_iff_of_parked`).

The status is not declared, and the operator cannot tell who wrote it.  But a pass over a
project without an id asks the author to write the id into the status and parks the project,
so an author who does as he was told is not heard (`not_forall_changes_heard`).
-/

namespace CloudSteward.Operator

open Json

variable {operator : Operator} {key : String} {log : List Event} {finish : Nat}
  {recorded : Resource} {result : PassResult} {outcome : Except FileFault Nat × Operator}

/-- How a pass ends that parks its resource. -/
structure Parks (result : PassResult) : Prop where
  terminated : result.isTerminated = true
  final : result.retryable = false

theorem patience_eq_none_iff {resync : Nat} : patience resync result = none ↔ Parks result := by
  obtain ⟨reported, retryable, warning⟩ := result
  constructor
  · intro h
    cases reported with
    | ok => cases h
    | inProgress reason message => cases h
    | terminate reason message =>
        cases retryable with
        | true => cases h
        | false => exact ⟨rfl, rfl⟩
  · rintro ⟨hterminated, rfl⟩
    cases reported with
    | ok => cases hterminated
    | inProgress reason message => cases hterminated
    | terminate reason message => rfl

/-- A parked resource is looked at again in the next sweep exactly if its manifest declares
something else; so says the only round that the log of the sweep shows. -/
theorem reconciled_iff_of_parked (hparks : Parks result)
    (hremembered : operator.schedules.get? key =
      some (planned operator.resync finish recorded result))
    (hpresent : Present key log) (hsweep : operator.sweep.Trace log outcome) :
    ∃ round, Shows operator.policy key log round ∧
      (∀ other, Shows operator.policy key log other → other = round) ∧
      (round.reconciled = true ↔ round.found.declared ≠ recorded.declared) := by
  obtain ⟨round, hshows, -, -, hadvances⟩ := exists_round_of_sweep hpresent hsweep
  rw [hremembered] at hadvances
  have hearly : Early finish (patience operator.resync result) round.start := by
    rw [patience_eq_none_iff.mpr hparks]
    exact early_none
  refine ⟨round, hshows, fun other hother => hother.unique hshows, ?_⟩
  rw [hadvances.reconciled_iff]
  exact or_iff_left (not_not_intro hearly)

/-! ## An author who is not heard -/

/-- The project that the cloud did not know, with the id that the pass asked for. -/
def identified : Project :=
  { stray "first" with status := { ProjectStatus.blank with id := "p-1" } }

/-- The project is left alone. -/
def unheard : Round where
  start := 1
  content := Store.content (.project identified)
  found := .project identified
  care := .left

def unheardLog : List Event :=
  sweepLog ["k.json"] 1 [.reading "k" (.ok (Store.content (.project identified)))]

theorem logged_unheard : Logged lenient "k" unheard
    [.reading "k" (.ok (Store.content (.project identified)))] :=
  .left (Resource.decode_content _)

/-- The project is parked in a first sweep, and the second one does not look at it. -/
theorem sweeps_unheard : ∃ operator later,
    Sweeps (.new lenient 30000) [sweepLog ["k.json"] 0 (keptLog "first" 0)] operator ∧
      operator.policy = lenient ∧
      operator.schedules.get? "k" =
        some (planned operator.resync 0 (asked "first") Project.unidentified) ∧
      operator.sweep.Trace unheardLog later := by
  obtain ⟨first, hfirst, hpolicy, hresync, hschedule⟩ :=
    exists_sweep_of_round sortKeys_plain (show (new lenient 30000).policy = lenient from rfl)
      (logged_kept "first" 0) rfl
  have hremembered : first.2.schedules.get? "k" =
      some (planned first.2.resync 0 (asked "first") Project.unidentified) := by
    rw [hresync]
    exact hschedule
  have hparked : (planned first.2.resync 0 (asked "first") Project.unidentified).isDue
      (.project identified) 1 = false := isDue_planned_eq_false rfl early_none
  obtain ⟨second, hsecond, -⟩ := exists_sweep_of_round sortKeys_plain hpolicy logged_unheard (by
    rw [hremembered]
    exact hparked.symm)
  exact ⟨first.2, second, .next hfirst .none, hpolicy, hremembered, hsecond⟩

theorem present_unheard : Present "k" unheardLog :=
  logged_unheard.present (by decide) (by decide) (by decide)

/-- The second sweep makes no pass, as the id is not declared. -/
theorem parked_unheard :
    ∃ (operator : Operator) (later : Except FileFault Nat × Operator),
      operator.sweep.Trace unheardLog later ∧
        ∃ round, Shows operator.policy "k" unheardLog round ∧
          (∀ other, Shows operator.policy "k" unheardLog other → other = round) ∧
          (round.reconciled = true ↔ round.found.declared ≠ (asked "first").declared) := by
  obtain ⟨operator, later, -, -, hremembered, hsweep⟩ := sweeps_unheard
  exact ⟨operator, later, hsweep,
    reconciled_iff_of_parked ⟨rfl, rfl⟩ hremembered present_unheard hsweep⟩

/-- So not every change of the manifest of a parked resource is heard. -/
theorem not_forall_changes_heard :
    ¬∀ (operator : Operator) (key : String) (finish : Nat) (recorded : Resource)
      (result : PassResult) (log : List Event) (outcome : Except FileFault Nat × Operator)
      (round : Round), Parks result →
      operator.schedules.get? key = some (planned operator.resync finish recorded result) →
      Present key log → operator.sweep.Trace log outcome →
      Shows operator.policy key log round → round.found ≠ recorded →
        round.reconciled = true := by
  intro h
  obtain ⟨operator, later, -, hpolicy, hremembered, hsweep⟩ := sweeps_unheard
  have hshows : Shows operator.policy "k" unheardLog unheard :=
    hpolicy ▸ logged_unheard.shows sortKeys_plain
  have hheard := h operator "k" 0 (asked "first") Project.unidentified unheardLog later unheard
    ⟨rfl, rfl⟩ hremembered present_unheard hsweep hshows (by
      intro heq
      have hid := congrArg (fun project : Project => project.status.id) (Resource.project.inj heq)
      exact absurd hid (by decide))
  exact Bool.false_ne_true hheard

end CloudSteward.Operator
