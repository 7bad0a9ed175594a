import CloudSteward.Pass.Endpoints
import CloudSteward.Pass.Integrations
import CloudSteward.Pass.Login

/-!
# A pass over a resource

A pass over any resource gives the resource back with its new status, and the
result.  A resource that asks to be left alone comes back as it is.  A project or
a federated login whose pass is fine records the specification that was applied.
-/

namespace CloudSteward

/-- What a pass over resources needs to know beyond the resource. -/
structure Policy where
  /-- The organization that federated logins belong to. -/
  org : Option String
  /-- Protection of whole objects. -/
  guardObjects : Bool
  /-- Protection of the parts of projects. -/
  guardParts : Bool
deriving DecidableEq, Repr

/-- A resource after a pass, and the result of the pass. -/
structure Reconciled (α : Type) where
  resource : α
  result : PassResult
deriving DecidableEq

namespace Reconciled

variable {α β : Type}

def map (change : α → β) (reconciled : Reconciled α) : Reconciled β where
  resource := change reconciled.resource
  result := reconciled.result

/-- The end of a pass over a resource that is left alone. -/
def skipped (resource : α) : Reconciled α where
  resource
  result := .ok

end Reconciled

namespace Project

/-- The result of a pass over a project that the cloud does not know. -/
def unidentified : PassResult :=
  (PassResult.terminate .internal
    "project has no remote id, set status.id to the remote project id").withoutRetry

/-- The project after a pass over its integrations. -/
def after (now : Moment) (project : Project) (ensured : Integrations.Ensured) :
    Reconciled Project :=
  let metadata :=
    if ensured.result.isOk then project.metadata.setApplied ProjectSpec.codec project.spec
    else project.metadata
  let status := {
    id := project.status.id
    conditions := ensured.conditions.publish now .ready ensured.result
    integrations := ensured.statuses.getD project.status.integrations }
  { resource := { metadata, spec := project.spec, status }, result := ensured.result }

/-- A pass over a project: a project that the cloud does not know yet makes no call. -/
def reconcile (now : Moment) (guarded : Bool) (project : Project) :
    CloudProgram (Reconciled Project) := do
  if project.metadata.isSkipped then return .skipped project
  else if project.id = "" then
    let conditions := project.status.conditions.publish now .ready unidentified
    return {
      resource := { project with status := { project.status with conditions } }
      result := unidentified }
  else
    let ensured ← Integrations.ensure now project guarded project.status.conditions
    return after now project ensured

end Project

namespace DataFederation

/-- A pass over a data federation. -/
def reconcile (now : Moment) (federation : DataFederation) :
    CloudProgram (Reconciled DataFederation) := do
  if federation.metadata.isSkipped then return .skipped federation
  else
    let (result, conditions) ←
      Endpoints.ensure now federation.spec.projectId federation.spec.endpoints federation.conditions
    return {
      resource := { federation with conditions := conditions.publish now .ready result }
      result }

end DataFederation

namespace FederatedAuth

/-- A pass over a federated login. -/
def reconcile (now : Moment) (org : Option String) (guarded : Bool) (auth : FederatedAuth) :
    CloudProgram (Reconciled FederatedAuth) := do
  if auth.metadata.isSkipped then return .skipped auth
  else
    let (result, conditions) ← Login.ensure now auth org guarded auth.conditions
    let metadata :=
      if result.isOk then auth.metadata.setApplied FederatedAuthSpec.codec auth.spec
      else auth.metadata
    return { resource := { metadata, spec := auth.spec, conditions }, result }

end FederatedAuth

namespace Resource

/-- A pass over a resource at the moment `now`. -/
def reconcile (policy : Policy) (now : Moment) : Resource → CloudProgram (Reconciled Resource)
  | .project value => do
      let reconciled ← value.reconcile now policy.guardParts
      return reconciled.map .project
  | .dataFederation value => do
      let reconciled ← value.reconcile now
      return reconciled.map .dataFederation
  | .federatedAuth value => do
      let reconciled ← value.reconcile now policy.org policy.guardObjects
      return reconciled.map .federatedAuth

end Resource

end CloudSteward
