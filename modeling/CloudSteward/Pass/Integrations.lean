import CloudSteward.Ownership
import CloudSteward.Pass.Linking
import CloudSteward.Pass.Progress

/-!
# A pass over the integrations of a project

The roles are listed once.  Every status is then driven one step:

* a new one, or one whose creation failed, has its role created;
* a created one, or one whose authorization failed, is authorized if it has an
  `arn`;
* one that is to be removed has its role removed, and is dropped;
* an authorized one stays as it is.

The calls are made one at a time, those for declared integrations first.
-/

namespace CloudSteward.Integrations

/-- Drives a status one step; nothing is left of one whose role was removed. -/
def step (project : String) (status : Status) : CloudProgram (Option Status) :=
  let create : CloudProgram (Option Status) := do
    match ← (Call.createRole project status.provider).make with
    | .ok role => return some (status.linked role)
    | .error error => return some (status.failed .failedToCreate error.text)
  let authorize : CloudProgram (Option Status) := do
    match ← (Call.authorizeRole project status.roleId status.provider status.arn).make with
    | .ok role => return some (status.linked role)
    | .error error => return some (status.failed .failedToAuthorize error.text)
  let remove : CloudProgram (Option Status) := do
    match ← (Call.deauthorizeRole project status.roleId status.provider).make with
    | .ok () => return none
    | .error error => return some (status.failed .failedToDeauthorize error.text)
  match status.phase with
  | .new => create
  | .failedToCreate => create
  | .created => if status.arn = "" then return some status else authorize
  | .failedToAuthorize => if status.arn = "" then return some status else authorize
  | .deauthorize => remove
  | .failedToDeauthorize => remove
  | .authorized => return some status

/-- Drives statuses one after the other. -/
def stepAll (project : String) : List Status → CloudProgram (List Status)
  | [] => return []
  | status :: rest => do
      let after ← step project status
      let others ← stepAll project rest
      return after.toList ++ others

/-- Links declared integrations to roles and drives every status one step. -/
def sync (project : String) (desired : List Integration) (remote : List Role) :
    CloudProgram (List Status) :=
  stepAll project (Linking.statuses desired remote)

/-- What a pass leaves behind. -/
structure Ensured where
  result : PassResult
  /-- The new statuses; without them the recorded ones stay. -/
  statuses : Option (List Status)
  conditions : Conditions
deriving DecidableEq

/-- A pass that ends early and publishes its result. -/
def stopped (now : Moment) (conditions : Conditions) (result : PassResult) : Ensured where
  result
  statuses := none
  conditions := conditions.publish now .cloudProviderIntegrationReady result

/-- The result of a pass that protection forbids. -/
def refused : PassResult :=
  (PassResult.terminate .deletionProtection
    ("unable to reconcile Cloud Provider Integrations due to deletion protection being enabled. " ++
      Ownership.docs)).withoutRetry

/-- The result of a pass that cannot tell whether it is allowed. -/
def undecided (error : OwnershipError) : PassResult :=
  .terminate .internal
    ("unable to resolve ownership for deletion protection: " ++ error.text)

/-- The result of a pass that cannot list the roles. -/
def unlisted (error : CloudError) : PassResult :=
  .terminate .cloudIntegrationsNotReady
    ("unable to fetch cloud provider access: " ++ error.text)

/-- Whether a project neither declares nor records integrations. -/
def hasNone (project : Project) : Bool :=
  project.spec.declared.isEmpty && project.status.integrations.isEmpty

/-- The end of a pass over a project without integrations. -/
def cleared (conditions : Conditions) : Ensured where
  result := .ok
  statuses := none
  conditions := conditions.unset .cloudProviderIntegrationReady

/-- Brings the integrations of a project in line with the listed roles. -/
def align (now : Moment) (project : Project) (conditions : Conditions) (remote : List Role) :
    CloudProgram Ensured := do
  let statuses ← sync project.id project.spec.declared remote
  let (result, conditions) := Progress.publish now statuses project.spec.usesAccessRoles conditions
  return { result, statuses := some statuses, conditions }

/-- A pass that first has to show that it is allowed. -/
def ensureGuarded (now : Moment) (project : Project) (conditions : Conditions) :
    CloudProgram Ensured := do
  match ← (Call.listRoles project.id).make with
  | .error error => return stopped now conditions (undecided (.remote error))
  | .ok remote =>
      match Ownership.permitsProject true project remote with
      | .error error => return stopped now conditions (undecided error)
      | .ok false => return stopped now conditions refused
      | .ok true =>
          if hasNone project then return cleared conditions
          else align now project conditions remote

/-- A pass that is allowed to do anything. -/
def ensureOpen (now : Moment) (project : Project) (conditions : Conditions) :
    CloudProgram Ensured := do
  if hasNone project then return cleared conditions
  else
    match ← (Call.listRoles project.id).make with
    | .error error => return stopped now conditions (unlisted error)
    | .ok remote => align now project conditions remote

/-- A pass over the integrations of a project at the moment `now`. -/
def ensure (now : Moment) (project : Project) (guarded : Bool) (conditions : Conditions) :
    CloudProgram Ensured :=
  if guarded then ensureGuarded now project conditions else ensureOpen now project conditions

end CloudSteward.Integrations
