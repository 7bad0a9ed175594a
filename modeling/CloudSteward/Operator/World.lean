import CloudSteward.Cloud.Memory
import CloudSteward.Files.Memory
import CloudSteward.Operator.Effect

/-!
# A world in memory

A directory and a cloud in memory, and two clocks that move only when they are
told to: all that an operator asks for.
-/

namespace CloudSteward

/-- What surrounds an operator. -/
structure World where
  files : MemoryFiles
  cloud : MemoryCloud
  /-- What the wall clock shows. -/
  moment : Moment
  /-- What the planning clock shows, in milliseconds. -/
  instant : Nat

namespace World

/-- Performs a step in a part of the world. -/
private def within {σ α : Type} (get : World → σ) (set : World → σ → World) (step : StateM σ α) :
    StateM World α := fun world =>
  let (value, part) := step (get world)
  (value, set world part)

/-- Answers one request of an operator. -/
def answer : (effect : Effect) → StateM World effect.Answer
  | .file action =>
      within World.files (fun world files => { world with files }) (MemoryFiles.answer action)
  | .call call =>
      within World.cloud (fun world cloud => { world with cloud }) (MemoryCloud.answer call)
  | .moment => fun world => (world.moment, world)
  | .instant => fun world => (world.instant, world)
  | .wait duration => fun world => ((), { world with instant := world.instant + duration })

/-- Runs a program of an operator in the world. -/
def run {α : Type} (program : OperatorProgram α) (world : World) : α × World :=
  program.run answer world

end World

end CloudSteward
