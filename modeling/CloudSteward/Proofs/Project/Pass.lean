import CloudSteward.Proofs.Integrations.Soundness

/-!
# Passes over a project, one after the other

A pass over a project is a pass over its integrations, unless the project is left
alone or unknown to the cloud (`trace_reconcile`).  `Project.Passes` is what happens
if passes follow each other, each over the project that the one before gave back,
and nobody else touches the cloud; failures may still be ordered at any moment.
-/

namespace CloudSteward

open MemoryCloud

namespace Project

variable {now : Moment} {guarded : Bool} {project : Project} {exchanges : List Exchange}
  {reconciled : Reconciled Project} {cloud later : MemoryCloud}

/-- What a pass gives for a project that the cloud does not know. -/
def strayed (now : Moment) (project : Project) : Reconciled Project where
  resource := { project with
    status := { project.status with
      conditions := project.status.conditions.publish now .ready unidentified } }
  result := unidentified

/-- The ways in which a pass over a project can go. -/
theorem trace_reconcile (h : (project.reconcile now guarded).Trace exchanges reconciled) :
    (project.metadata.isSkipped = true ∧ exchanges = [] ∧ reconciled = .skipped project) ∨
      (project.metadata.isSkipped = false ∧ project.id = "" ∧ exchanges = [] ∧
        reconciled = strayed now project) ∨
      (project.metadata.isSkipped = false ∧ project.id ≠ "" ∧ ∃ ensured,
        (Integrations.ensure now project guarded project.status.conditions).Trace
          exchanges ensured ∧ reconciled = after now project ensured) := by
  unfold reconcile at h
  by_cases hskipped : project.metadata.isSkipped = true
  · rw [if_pos hskipped] at h
    obtain ⟨rfl, rfl⟩ := Program.trace_done_iff.mp h
    exact .inl ⟨hskipped, rfl, rfl⟩
  · rw [if_neg hskipped] at h
    have hskipped : project.metadata.isSkipped = false := Bool.not_eq_true _ ▸ hskipped
    by_cases hid : project.id = ""
    · rw [if_pos hid] at h
      obtain ⟨rfl, rfl⟩ := Program.trace_done_iff.mp h
      exact .inr (.inl ⟨hskipped, hid, rfl, rfl⟩)
    · rw [if_neg hid] at h
      obtain ⟨ensured, hensure, rfl⟩ := Program.trace_map_iff.mp h
      exact .inr (.inr ⟨hskipped, hid, ensured, hensure, rfl⟩)

/-- A pass leaves the specification and the identity of a project as they are. -/
theorem spec_eq_of_reconcile (h : (project.reconcile now guarded).Trace exchanges reconciled) :
    reconciled.resource.spec = project.spec ∧ reconciled.resource.id = project.id := by
  rcases trace_reconcile h with ⟨_, _, rfl⟩ | ⟨_, _, _, rfl⟩ | ⟨_, _, ensured, _, rfl⟩ <;>
    exact ⟨rfl, rfl⟩

/-- Some passes after each other, with what they make of a project and a cloud. -/
inductive Passes (project : Project) (guarded : Bool) (cloud : MemoryCloud) :
    Project → MemoryCloud → Prop where
  | none : Passes project guarded cloud project cloud
  | next {now : Moment} {earlier : Project} {before after : MemoryCloud}
      {reconciled : Reconciled Project} : Passes project guarded cloud earlier before →
      before.Execution (earlier.reconcile now guarded) reconciled after →
        Passes project guarded cloud reconciled.resource after

end Project

namespace MemoryCloud

variable {cloud after : MemoryCloud} {now : Moment} {guarded : Bool} {project later : Project}
  {reconciled : Reconciled Project}

/-- A pass over a project leads to clouds that passes over integrations lead to. -/
theorem Reachable.reconcile (h : cloud.Reachable)
    (hpass : cloud.Execution (project.reconcile now guarded) reconciled after) :
    after.Reachable := by
  obtain ⟨exchanges, htrace, hanswers⟩ := hpass
  rcases Project.trace_reconcile htrace with
    ⟨_, rfl, _⟩ | ⟨_, _, rfl, _⟩ | ⟨_, _, ensured, hensure, _⟩
  · exact h.answers_nil hanswers
  · exact h.answers_nil hanswers
  · exact h.pass ⟨exchanges, hensure, hanswers⟩

theorem Reachable.passes (h : cloud.Reachable)
    (hpasses : project.Passes guarded cloud later after) : after.Reachable := by
  induction hpasses with
  | none => exact h
  | next _ hpass ih => exact ih.reconcile hpass

end MemoryCloud

end CloudSteward
