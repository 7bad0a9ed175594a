import CloudSteward.Outcome
import CloudSteward.Table
import CloudSteward.Wire.Resource

/-!
# When resources are due

After a pass the operator remembers when the resource is due again, and the
declared part of it.  A resource that is not remembered is due, and so is one
whose declared part has changed since.  Changes of the status alone do not count:
the operator makes those itself.
-/

namespace CloudSteward

namespace Resource

/-- The declared part of a resource, as one text. -/
def fingerprint (resource : Resource) : String :=
  let spec := match resource with
    | .project value => ProjectSpec.codec.write value.spec
    | .dataFederation value => DataFederationSpec.codec.write value.spec
    | .federatedAuth value => FederatedAuthSpec.codec.write value.spec
  (Json.array [Metadata.codec.write resource.metadata, spec]).compact

end Resource

/-- What is remembered of the last pass over a resource. -/
structure Schedule where
  /-- When the resource is due again, if it is before its declared part changes. -/
  next : Option Nat
  fingerprint : String
deriving DecidableEq, Repr

/-- The schedules of all resources that are remembered, by their keys. -/
abbrev Schedules := Table String Schedule

namespace Schedule

/-- When a resource is due again after a pass that ended at `now`; one that is fine
is looked at again after the `resync` interval. -/
def nextAfter (resync now : Nat) (result : PassResult) : Option Nat :=
  match result.delay? with
  | some delay => some (now + delay)
  | none => if result.isOk then some (now + resync) else none

/-- Whether a resource with this schedule is due. -/
def isDue (schedule : Schedule) (resource : Resource) (now : Nat) : Bool :=
  schedule.fingerprint ≠ resource.fingerprint ||
    match schedule.next with
    | some next => next ≤ now
    | none => false

end Schedule

namespace Schedules

def isDue (schedules : Schedules) (key : String) (resource : Resource) (now : Nat) : Bool :=
  match schedules.get? key with
  | some schedule => schedule.isDue resource now
  | none => true

end Schedules

end CloudSteward
