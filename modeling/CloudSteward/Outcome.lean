/-!
# Results of a pass

A pass over a resource is done, still in progress, or terminated.  Unless it is
done it has a reason and a message, and it says whether trying again makes sense.
-/

namespace CloudSteward

/-- Why a pass is not done. -/
inductive Reason where
  | internal
  | deletionProtection
  | cloudIntegrationsNotReady
  | privateEndpointsNotReady
  | federatedAuthNotReady
  | apiAccessNotConfigured
deriving DecidableEq, Repr

namespace Reason

/-- The text that conditions and messages show. -/
def text : Reason → String
  | .internal => "InternalError"
  | .deletionProtection => "DeletionProtection"
  | .cloudIntegrationsNotReady => "CloudIntegrationsNotReady"
  | .privateEndpointsNotReady => "PrivateEndpointsNotReady"
  | .federatedAuthNotReady => "FederatedAuthNotReady"
  | .apiAccessNotConfigured => "ApiAccessNotConfigured"

/-- The name in records. -/
def name : Reason → String
  | .internal => "Internal"
  | reason => reason.text

/-- All reasons, in the order in which messages list them. -/
def all : List Reason :=
  [.internal, .deletionProtection, .cloudIntegrationsNotReady, .privateEndpointsNotReady,
    .federatedAuthNotReady, .apiAccessNotConfigured]

end Reason

/-- How a pass ended. -/
inductive Outcome where
  | ok
  | inProgress (reason : Reason) (message : String)
  | terminate (reason : Reason) (message : String)
deriving DecidableEq, Repr

/-- How a pass ended, whether it makes sense to try again, and whether the user
should be warned. -/
structure PassResult where
  outcome : Outcome
  retryable : Bool
  warning : Bool
deriving DecidableEq, Repr

/-- The delay in milliseconds before a pass that is not done is tried again. -/
def retryDelay : Nat := 10000

namespace PassResult

def ok : PassResult where
  outcome := .ok
  retryable := false
  warning := false

def inProgress (reason : Reason) (message : String) : PassResult where
  outcome := .inProgress reason message
  retryable := true
  warning := false

def terminate (reason : Reason) (message : String) : PassResult where
  outcome := .terminate reason message
  retryable := true
  warning := false

def withoutRetry (result : PassResult) : PassResult :=
  { result with retryable := false }

def withWarning (result : PassResult) : PassResult :=
  { result with warning := true }

def isOk (result : PassResult) : Bool :=
  match result.outcome with
  | .ok => true
  | _ => false

def isInProgress (result : PassResult) : Bool :=
  match result.outcome with
  | .inProgress _ _ => true
  | _ => false

def isTerminated (result : PassResult) : Bool :=
  match result.outcome with
  | .terminate _ _ => true
  | _ => false

def reason (result : PassResult) : Option Reason :=
  match result.outcome with
  | .ok => none
  | .inProgress reason _ => some reason
  | .terminate reason _ => some reason

def message (result : PassResult) : String :=
  match result.outcome with
  | .ok => ""
  | .inProgress _ message => message
  | .terminate _ message => message

/-- How many milliseconds to wait before the next pass, if one is due at all. -/
def delay? (result : PassResult) : Option Nat :=
  match result.outcome with
  | .ok => none
  | .inProgress _ _ => some retryDelay
  | .terminate _ _ => if result.retryable then some retryDelay else none

def text (result : PassResult) : String :=
  match result.outcome with
  | .ok => "ok"
  | .inProgress reason message => "InProgress (" ++ reason.text ++ "): " ++ message
  | .terminate reason message => "Terminate (" ++ reason.text ++ "): " ++ message

end PassResult

end CloudSteward
