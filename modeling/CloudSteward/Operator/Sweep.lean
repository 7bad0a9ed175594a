import CloudSteward.Operator.Effect
import CloudSteward.Operator.Schedule
import CloudSteward.Pass.Reconcile
import CloudSteward.Store

/-!
# Sweeps over all manifests

A sweep lists the manifests, forgets what it knew of those that are gone, and
takes the others one after the other: it reads the manifest, makes a pass over the
resource if it is due, and writes it back if the pass changed it.  A manifest that
cannot be read is passed over, and one that cannot be written is not scheduled, so
the next sweep tries again.
-/

namespace CloudSteward

/-- An operator: what it was told, and what it remembers. -/
structure Operator where
  policy : Policy
  /-- How many milliseconds a resource is left alone after a pass that was fine. -/
  resync : Nat
  schedules : Schedules
deriving DecidableEq

namespace Operator

/-- An operator that remembers nothing. -/
def new (policy : Policy) (resync : Nat) : Operator where
  policy
  resync
  schedules := .empty

/-- Writes a resource back unless it is what was read. -/
def persist (key : String) (before after : Resource) :
    OperatorProgram (Except StoreError Unit) :=
  if after = before then return .ok () else (Store.put key after).lift

/-- Makes a pass over a resource, writes it back and schedules the next pass. -/
def passOver (operator : Operator) (key : String) (resource : Resource) :
    OperatorProgram Operator := do
  let moment ← Effect.moment.perform
  let reconciled ← (resource.reconcile operator.policy moment).lift
  match ← persist key resource reconciled.resource with
  | .error _ => return operator
  | .ok () =>
      let now ← Effect.instant.perform
      let schedule := {
        next := Schedule.nextAfter operator.resync now reconciled.result
        fingerprint := reconciled.resource.fingerprint }
      return { operator with schedules := operator.schedules.put key schedule }

/-- Takes one key in a sweep that began at `now`; tells whether its resource was due. -/
def visit (operator : Operator) (now : Nat) (key : String) :
    OperatorProgram (Bool × Operator) := do
  match ← (Store.get key).lift with
  | .error _ => return (false, operator)
  | .ok resource =>
      if operator.schedules.isDue key resource now then
        return (true, ← operator.passOver key resource)
      else return (false, operator)

/-- Takes keys one after the other; counts those whose resources were due. -/
def visitAll (operator : Operator) (now : Nat) : List String → OperatorProgram (Nat × Operator)
  | [] => return (0, operator)
  | key :: rest => do
      let (due, operator) ← operator.visit now key
      let (count, operator) ← operator.visitAll now rest
      return (if due then count + 1 else count, operator)

/-- One sweep; gives the number of resources that were due.  It fails only if the
manifests cannot be listed. -/
def sweep (operator : Operator) : OperatorProgram (Except FileFault Nat × Operator) := do
  match ← Store.keys.lift with
  | .error fault => return (.error fault, operator)
  | .ok keys =>
      let kept := { operator with schedules := operator.schedules.keep keys.contains }
      let now ← Effect.instant.perform
      let (count, operator) ← kept.visitAll now keys
      return (.ok count, operator)

/-- What is said about a sweep that failed. -/
def sweepFailure (fault : FileFault) : String :=
  "Failed to list manifests: " ++ (StoreError.io fault).text "" ++ ": " ++ fault.text

/-! ## Sweeping again and again -/

/-- The milliseconds between the starts of two sweeps: often enough to try again
what failed, and to look again at what was fine. -/
def period (operator : Operator) : Nat :=
  min operator.resync retryDelay

/-- What is said about an operator without a pause between its sweeps. -/
def periodFailure : String := "\x60period\x60 must be non-zero."

/-- Sweeps and waits, a number of times. -/
def watch (operator : Operator) : Nat → OperatorProgram Operator
  | 0 => return operator
  | rounds + 1 => do
      let (_, operator) ← operator.sweep
      (Effect.wait operator.period).perform
      operator.watch rounds

/-- How many sweeps begin within some milliseconds. -/
def roundsWithin (operator : Operator) (duration : Nat) : Nat :=
  (duration + operator.period - 1) / operator.period

end Operator

end CloudSteward
