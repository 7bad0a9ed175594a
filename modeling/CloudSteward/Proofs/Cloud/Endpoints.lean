import CloudSteward.Proofs.Cloud.Execution
import Mathlib.Data.Finset.Card

/-!
# Endpoints of the cloud in memory

The cloud refuses a second endpoint with an id, and has nothing to delete under an id that
is not listed.  So where no failure is ordered, a call that creates or deletes an endpoint
fails only if what it asks for is the case already; and it is the case afterwards anyway
(`creation_of_calm`, `deletion_of_calm`).

`Replies` are the exchanges of a run during which nothing is ordered, which is what an
execution leaves open.
-/

namespace CloudSteward

/-- The ids of some endpoints. -/
def idsOf (endpoints : List Endpoint) : Finset String :=
  (endpoints.map Endpoint.endpointId).toFinset

section Ids

variable {endpoints : List Endpoint} {id : String}

theorem mem_idsOf_iff :
    id ∈ idsOf endpoints ↔ ∃ endpoint ∈ endpoints, endpoint.endpointId = id := by
  simp [idsOf]

theorem idsOf_append_singleton (endpoint : Endpoint) :
    idsOf (endpoints ++ [endpoint]) = insert endpoint.endpointId (idsOf endpoints) := by
  ext other
  simp only [mem_idsOf_iff, List.mem_append, List.mem_singleton, Finset.mem_insert]
  constructor
  · rintro ⟨_, hmem | rfl, rfl⟩
    · exact .inr ⟨_, hmem, rfl⟩
    · exact .inl rfl
  · rintro (rfl | ⟨known, hknown, rfl⟩)
    · exact ⟨endpoint, .inr rfl, rfl⟩
    · exact ⟨known, .inl hknown, rfl⟩

theorem idsOf_filter_ne :
    idsOf (endpoints.filter fun endpoint => endpoint.endpointId ≠ id) =
      (idsOf endpoints).erase id := by
  ext other
  simp only [mem_idsOf_iff, List.mem_filter, decide_eq_true_iff, Finset.mem_erase]
  constructor
  · rintro ⟨endpoint, ⟨hmem, hne⟩, rfl⟩
    exact ⟨hne, endpoint, hmem, rfl⟩
  · rintro ⟨hne, endpoint, hmem, rfl⟩
    exact ⟨endpoint, ⟨hmem, hne⟩, rfl⟩

end Ids

namespace MemoryCloud

variable {α : Type} {cloud after : MemoryCloud} {project : String}

/-! ## Runs during which nothing is ordered -/

/-- The cloud gives these replies to these calls, and nobody orders a failure meanwhile. -/
inductive Replies : MemoryCloud → List Exchange → MemoryCloud → Prop where
  | none (cloud : MemoryCloud) : Replies cloud [] cloud
  | call {cloud between after : MemoryCloud} {exchanges : List Exchange} {call : Call}
      {reply : call.Reply} : answer call cloud = (reply, between) →
        Replies between exchanges after → Replies cloud (⟨call, reply⟩ :: exchanges) after

theorem Replies.eq_of_nil (h : cloud.Replies [] after) : after = cloud := by
  cases h
  rfl

theorem exists_replies_of_run (program : CloudProgram α) (cloud : MemoryCloud) :
    ∃ exchanges, program.Trace exchanges (cloud.run program).1 ∧
      cloud.Replies exchanges (cloud.run program).2 := by
  induction program generalizing cloud with
  | done value => exact ⟨[], .done value, .none cloud⟩
  | ask call next ih =>
      obtain ⟨exchanges, htrace, hreplies⟩ := ih (answer call cloud).1 (answer call cloud).2
      exact ⟨_ :: exchanges, .ask _ htrace, .call rfl hreplies⟩

/-! ## Creating and deleting -/

theorem any_endpointId_iff {id : String} :
    ((cloud.endpointsOf project).any fun endpoint => endpoint.endpointId = id) = true ↔
      id ∈ idsOf (cloud.endpointsOf project) := by
  rw [mem_idsOf_iff, List.any_eq_true]
  simp only [decide_eq_true_iff]

theorem endpointsOf_addEndpoint (endpoint : Endpoint) :
    (cloud.addEndpoint project endpoint).endpointsOf project =
      cloud.endpointsOf project ++ [endpoint] := by
  simp [endpointsOf, addEndpoint]

theorem endpointsOf_filter (id : String) :
    endpointsOf { cloud with
      endpoints := cloud.endpoints.filter fun entry =>
        !(entry.1 = project && entry.2.endpointId = id) } project =
      (cloud.endpointsOf project).filter fun endpoint => endpoint.endpointId ≠ id := by
  unfold endpointsOf
  rw [List.filter_map, List.filter_filter, List.filter_filter]
  refine congrArg _ (List.filter_congr fun entry _ => ?_)
  by_cases hproject : entry.1 = project <;> simp [hproject]

section Calm

variable (hcalm : cloud.failures = [])

include hcalm

/-- An endpoint is put behind the others, unless its id is listed. -/
theorem creation_of_calm (project : String) (endpoint : Endpoint) :
    (answer (.createEndpoint project endpoint) cloud).2.failures = [] ∧
      (answer (.createEndpoint project endpoint) cloud).2.endpointsOf project =
        if endpoint.endpointId ∈ idsOf (cloud.endpointsOf project) then cloud.endpointsOf project
        else cloud.endpointsOf project ++ [endpoint] := by
  rw [answer_of_calm hcalm]
  simp only [perform]
  split
  case isTrue hany =>
    have hlisted : endpoint.endpointId ∈ idsOf (cloud.endpointsOf project) :=
      any_endpointId_iff.mp hany
    exact ⟨hcalm, (if_pos hlisted).symm⟩
  case isFalse hany =>
    have hfresh : endpoint.endpointId ∉ idsOf (cloud.endpointsOf project) :=
      fun hlisted => hany (any_endpointId_iff.mpr hlisted)
    exact ⟨hcalm, (endpointsOf_addEndpoint endpoint).trans (if_neg hfresh).symm⟩

/-- All endpoints with an id are deleted, unless there are none. -/
theorem deletion_of_calm (project id : String) :
    (answer (.deleteEndpoint project id) cloud).2.failures = [] ∧
      (answer (.deleteEndpoint project id) cloud).2.endpointsOf project =
        if id ∈ idsOf (cloud.endpointsOf project) then
          (cloud.endpointsOf project).filter fun endpoint => endpoint.endpointId ≠ id
        else cloud.endpointsOf project := by
  rw [answer_of_calm hcalm]
  simp only [perform]
  split
  case isTrue hany =>
    have hlisted : id ∈ idsOf (cloud.endpointsOf project) := any_endpointId_iff.mp hany
    exact ⟨hcalm, (endpointsOf_filter id).trans (if_pos hlisted).symm⟩
  case isFalse hany =>
    have habsent : id ∉ idsOf (cloud.endpointsOf project) :=
      fun hlisted => hany (any_endpointId_iff.mpr hlisted)
    exact ⟨hcalm, (if_neg habsent).symm⟩

end Calm

end MemoryCloud

end CloudSteward
