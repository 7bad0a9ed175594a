import CloudSteward.Ownership

/-!
# A pass over a federated login

The config of the organization is compared with the declared one and updated if
they differ.  With protection on, an object that the operator never recorded is
only touched if it does not differ.
-/

namespace CloudSteward.Login

/-- What a pass knows of the organization. -/
structure View where
  settings : String
  desired : ConnectedOrg
  remote : ConnectedOrg
deriving DecidableEq

/-- Fetches the config of an organization, and works out the one that it should
have.  The identity provider is not ours to choose. -/
def fetch (spec : FederatedAuthSpec) (org : String) : CloudProgram (Except CloudError View) := do
  match ← (Call.getSettings org).make with
  | .error error => return .error error
  | .ok settings =>
      match ← (Call.getOrg settings.id org).make with
      | .error error => return .error error
      | .ok remote =>
          return .ok {
            settings := settings.id
            desired := spec.toConnectedOrg org remote.identityProvider
            remote }

/-- Whether the config of the organization differs from the declared one. -/
def diverged (spec : FederatedAuthSpec) (org : String) : CloudProgram (Except CloudError Bool) := do
  match ← fetch spec org with
  | .error error => return .error error
  | .ok view => return .ok !view.desired.agrees view.remote

/-- The result of a pass in which a call failed. -/
def failure (error : CloudError) : PassResult :=
  .terminate .federatedAuthNotReady error.text

/-- Brings the config of the organization in line with the declared one. -/
def sync (spec : FederatedAuthSpec) (org : String) : CloudProgram PassResult := do
  match ← fetch spec org with
  | .error error => return failure error
  | .ok view =>
      if view.desired.agrees view.remote then return .ok
      else
        match ← (Call.updateOrg view.settings view.desired).make with
        | .error error => return failure error
        | .ok _ => return .ok

/-- The result of a pass without an organization. -/
def unconfigured : PassResult :=
  (PassResult.terminate .apiAccessNotConfigured
    "no organization id configured for federated authentication").withoutRetry

/-- The result of a pass that protection forbids. -/
def refused : PassResult :=
  (PassResult.terminate .deletionProtection
    ("unable to reconcile FederatedAuthConfig due to deletion protection being enabled. " ++
      Ownership.docs)).withoutRetry

/-- The result of a pass that cannot tell whether it is allowed. -/
def undecided (error : OwnershipError) : PassResult :=
  .terminate .internal
    ("unable to resolve ownership for deletion protection: " ++ error.text)

/-- Publishes a result that says nothing about the resource as a whole. -/
def publish (now : Moment) (conditions : Conditions) (result : PassResult) :
    PassResult × Conditions :=
  (result, conditions.publish now .federatedAuthReady result)

/-- Publishes a result also as that of the resource as a whole. -/
def publishAll (now : Moment) (conditions : Conditions) (result : PassResult) :
    PassResult × Conditions :=
  let published := conditions.publish now .federatedAuthReady result
  (result, published.publish now .ready result)

/-- A pass over a federated login at the moment `now`.  One that is disabled is left
alone. -/
def ensure (now : Moment) (auth : FederatedAuth) (org : Option String) (guarded : Bool)
    (conditions : Conditions) : CloudProgram (PassResult × Conditions) := do
  if !auth.spec.enabled then return publishAll now conditions .ok
  else
    match org.filter fun id => id ≠ "" with
    | none => return publish now conditions unconfigured
    | some org =>
        match ← Ownership.owns guarded auth.metadata.hasApplied (diverged auth.spec org) with
        | .error error => return publish now conditions (undecided error)
        | .ok false => return publish now conditions refused
        | .ok true =>
            let result ← sync auth.spec org
            return publishAll now conditions result

end CloudSteward.Login
