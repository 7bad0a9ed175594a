import CloudSteward.Outcome
import CloudSteward.Time.Moment

/-!
# Published conditions

A resource publishes conditions, at most one of each kind if it starts without
any.  A condition knows since when it has had its status, so the time is taken
only when a condition appears and when its status flips.
-/

namespace CloudSteward

/-- What a condition is about. -/
inductive ConditionKind where
  | ready
  | cloudProviderIntegrationReady
  | privateEndpointReady
  | federatedAuthReady
deriving DecidableEq, Repr

namespace ConditionKind

def name : ConditionKind → String
  | .ready => "Ready"
  | .cloudProviderIntegrationReady => "CloudProviderIntegrationReady"
  | .privateEndpointReady => "PrivateEndpointReady"
  | .federatedAuthReady => "FederatedAuthReady"

/-- All kinds, in the order in which messages list them. -/
def all : List ConditionKind :=
  [.ready, .cloudProviderIntegrationReady, .privateEndpointReady, .federatedAuthReady]

end ConditionKind

/-- One condition of a resource. -/
structure Condition where
  kind : ConditionKind
  status : Bool
  reason : Option String
  message : Option String
  /-- When the status last flipped. -/
  since : Moment
deriving DecidableEq, Repr

/-- The conditions of a resource, in the order in which they first appeared. -/
structure Conditions where
  entries : List Condition
deriving DecidableEq, Repr

namespace Conditions

def empty : Conditions := ⟨[]⟩

def get? (conditions : Conditions) (kind : ConditionKind) : Option Condition :=
  conditions.entries.find? fun condition => condition.kind = kind

def isTrue (conditions : Conditions) (kind : ConditionKind) : Bool :=
  match conditions.get? kind with
  | some condition => condition.status
  | none => false

def isEmpty (conditions : Conditions) : Bool :=
  conditions.entries.isEmpty

/-- Replaces the first condition of the kind of `condition`, or adds it at the end.
The time of the old one stays if the status does. -/
def put (condition : Condition) : List Condition → List Condition
  | [] => [condition]
  | first :: rest =>
      if first.kind = condition.kind then
        { condition with
          since := if first.status = condition.status then first.since else condition.since } ::
          rest
      else first :: put condition rest

/-- Sets a condition at the moment `now`. -/
def set (conditions : Conditions) (now : Moment) (kind : ConditionKind) (status : Bool)
    (reason message : Option String) : Conditions :=
  ⟨put { kind, status, reason, message, since := now } conditions.entries⟩

/-- Removes the conditions of a kind. -/
def unset (conditions : Conditions) (kind : ConditionKind) : Conditions :=
  ⟨conditions.entries.filter fun condition => condition.kind ≠ kind⟩

/-- A message, unless it is empty. -/
def shown (message : String) : Option String :=
  if message = "" then none else some message

/-- Makes the condition of a kind true, without a reason. -/
def confirm (conditions : Conditions) (now : Moment) (kind : ConditionKind)
    (message : String) : Conditions :=
  conditions.set now kind true none (shown message)

/-- Makes the condition of a kind false, without a reason. -/
def deny (conditions : Conditions) (now : Moment) (kind : ConditionKind) : Conditions :=
  conditions.set now kind false none none

/-- Publishes the result of a pass: true if it is done, and otherwise false with its
reason and message. -/
def publish (conditions : Conditions) (now : Moment) (kind : ConditionKind)
    (result : PassResult) : Conditions :=
  if result.isOk then conditions.set now kind true none (shown result.message)
  else conditions.set now kind false (result.reason.map Reason.text) (some result.message)

end Conditions

end CloudSteward
