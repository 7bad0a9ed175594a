import CloudSteward.Condition
import CloudSteward.Status

/-!
# From statuses to a result

The statuses of a project fold into one result, and into the condition that the
project publishes about its integrations.
-/

namespace CloudSteward

/-- What the statuses say together. -/
inductive Progress where
  /-- Some status has an error. -/
  | failed
  /-- No status has one, but not all are authorized. -/
  | pending
  | allAuthorized
deriving DecidableEq, Repr

namespace Progress

def name : Progress → String
  | .failed => "Failed"
  | .pending => "Pending"
  | .allAuthorized => "AllAuthorized"

def notSynchronized : String := "not all items were synchronized successfully"

def notAuthorized : String := "not all entries are authorized"

def deprecationNotice : String :=
  "The CloudProviderAccessRole has been deprecated, " ++
    "please move your configuration under CloudProviderIntegration."

/-- An error counts for more than a status that is not authorized yet. -/
def ofStatuses (statuses : List Status) : Progress :=
  if statuses.any Status.hasError then .failed
  else if statuses.all fun status => status.phase = .authorized then .allAuthorized
  else .pending

def result : Progress → PassResult
  | .failed => .terminate .cloudIntegrationsNotReady notSynchronized
  | .pending => .inProgress .cloudIntegrationsNotReady notAuthorized
  | .allAuthorized => .ok

end Progress

/-- The result for some statuses, and the conditions with the one about
integrations.  If the deprecated spelling was used, a result that is fine becomes
a warning and its condition says why. -/
def Progress.publish (now : Moment) (statuses : List Status) (deprecated : Bool)
    (conditions : Conditions) : PassResult × Conditions :=
  let result := (Progress.ofStatuses statuses).result
  if result.isOk then
    let message := if deprecated then Progress.deprecationNotice else ""
    (if deprecated then result.withWarning else result,
      conditions.confirm now .cloudProviderIntegrationReady message)
  else (result, conditions.publish now .cloudProviderIntegrationReady result)

end CloudSteward
