import CloudSteward.Cloud.Call
import CloudSteward.Condition

/-!
# A pass over private endpoints

Endpoints that are missing are created, then those that nobody declared are
deleted.  The pass stops at the first call that fails.
-/

namespace CloudSteward.Endpoints

/-- The result of a pass that stopped at a failing call. -/
def failure (error : CloudError) : PassResult :=
  .terminate .privateEndpointsNotReady error.text

/-- Creates endpoints, until a call fails. -/
def createAll (project : String) : List Endpoint → CloudProgram (Except CloudError Unit)
  | [] => return .ok ()
  | endpoint :: rest => do
      match ← (Call.createEndpoint project endpoint).make with
      | .error error => return .error error
      | .ok _ => createAll project rest

/-- Deletes endpoints, until a call fails.  One without an id is passed over, since
its address would be that of the whole collection. -/
def deleteAll (project : String) : List Endpoint → CloudProgram (Except CloudError Unit)
  | [] => return .ok ()
  | endpoint :: rest =>
      if endpoint.endpointId = "" then deleteAll project rest
      else do
        match ← (Call.deleteEndpoint project endpoint.endpointId).make with
        | .error error => return .error error
        | .ok () => deleteAll project rest

/-- Brings the endpoints of a project in line with the declared ones. -/
def sync (project : String) (desired : List Endpoint) : CloudProgram PassResult := do
  match ← (Call.listEndpoints project).make with
  | .error error => return failure error
  | .ok remote =>
      let diff := Diff.compute desired remote
      match ← createAll project diff.toCreate with
      | .error error => return failure error
      | .ok () =>
          match ← deleteAll project diff.toDelete with
          | .error error => return failure error
          | .ok () => return .ok

/-- A pass over the endpoints of a project, which publishes its result. -/
def ensure (now : Moment) (project : String) (desired : List Endpoint)
    (conditions : Conditions) : CloudProgram (PassResult × Conditions) := do
  let result ← sync project desired
  return (result, conditions.publish now .privateEndpointReady result)

end CloudSteward.Endpoints
