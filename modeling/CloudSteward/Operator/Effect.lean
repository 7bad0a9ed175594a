import CloudSteward.Cloud.Call
import CloudSteward.Files.Action
import CloudSteward.Time.Moment

/-!
# What an operator asks for

An operator works with the directory of manifests, makes calls to the cloud, and
looks at two clocks: the wall clock, whose moments are published, and a clock of
milliseconds that never goes back, by which it plans.
-/

namespace CloudSteward

/-- One thing that an operator asks for. -/
inductive Effect where
  | file (action : FileAction)
  | call (call : Call)
  /-- The time on the wall clock. -/
  | moment
  /-- The time on the planning clock, in milliseconds. -/
  | instant
  /-- Lets some milliseconds pass on the planning clock. -/
  | wait (duration : Nat)
deriving DecidableEq

namespace Effect

def Answer : Effect → Type
  | .file action => action.Answer
  | .call made => made.Reply
  | .moment => Moment
  | .instant => Nat
  | .wait _ => Unit

end Effect

/-- A program of an operator. -/
abbrev OperatorProgram :=
  Program Effect Effect.Answer

/-- Performs an effect. -/
def Effect.perform (effect : Effect) : OperatorProgram effect.Answer :=
  Program.perform effect

/-- A program that works with the directory, as part of an operator. -/
def FileProgram.lift {α : Type} (program : FileProgram α) : OperatorProgram α :=
  program.expand fun action => (Effect.file action).perform

/-- A program that makes calls, as part of an operator. -/
def CloudProgram.lift {α : Type} (program : CloudProgram α) : OperatorProgram α :=
  program.expand fun call => (Effect.call call).perform

end CloudSteward
