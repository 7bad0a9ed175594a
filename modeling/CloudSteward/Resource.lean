import CloudSteward.Annotations
import CloudSteward.Condition
import CloudSteward.Endpoint
import CloudSteward.Federation
import CloudSteward.Status

/-!
# Declared resources

A resource has metadata, a specification that the user wrote, and a status that
the last pass observed.  There are three kinds: projects with their integrations,
data federations with their private endpoints, and federated logins.
-/

namespace CloudSteward

/-- The annotation that holds the last specification that was applied. -/
def lastAppliedName : String := "mongodb.com/last-applied-configuration"

/-- The annotation that says whether a resource is worked on at all. -/
def policyName : String := "mongodb.com/atlas-reconciliation-policy"

/-- The policy of resources that are left alone. -/
def skipPolicy : String := "skip"

/-- What a resource is called, and the notes it carries. -/
structure Metadata where
  name : String
  /-- Empty for a resource outside of all name spaces. -/
  space : String
  annotations : Annotations
deriving DecidableEq

namespace Metadata

/-- Metadata with a name and nothing else. -/
def new (name : String) : Metadata where
  name
  space := ""
  annotations := .empty

/-- The name, behind its name space if there is one. -/
def key (metadata : Metadata) : String :=
  if metadata.space = "" then metadata.name else metadata.space ++ "/" ++ metadata.name

/-- Whether the resource is to be left alone. -/
def isSkipped (metadata : Metadata) : Bool :=
  metadata.annotations.get? policyName = some skipPolicy

/-- Whether a specification is on record as applied. -/
def hasApplied (metadata : Metadata) : Bool :=
  metadata.annotations.contains lastAppliedName

def annotate (metadata : Metadata) (name text : String) : Metadata :=
  { metadata with annotations := metadata.annotations.insert name text }

def unannotate (metadata : Metadata) (name : String) : Metadata :=
  { metadata with annotations := metadata.annotations.erase name }

end Metadata

/-! ## Projects -/

/-- What the author of a project asks for. -/
structure ProjectSpec where
  name : String
  /-- The deprecated spelling of the integrations; it wins unless it is empty. -/
  accessRoles : List Integration
  integrations : List Integration
deriving DecidableEq

namespace ProjectSpec

/-- Whether the deprecated spelling is in use. -/
def usesAccessRoles (spec : ProjectSpec) : Bool :=
  !spec.accessRoles.isEmpty

/-- The integrations that count. -/
def declared (spec : ProjectSpec) : List Integration :=
  if spec.usesAccessRoles then spec.accessRoles else spec.integrations

end ProjectSpec

/-- What the operator reports about a project. -/
structure ProjectStatus where
  /-- What the cloud calls the project. -/
  id : String
  conditions : Conditions
  integrations : List Status
deriving DecidableEq

/-- A project of the cloud, with the integrations it shall have. -/
structure Project where
  metadata : Metadata
  spec : ProjectSpec
  status : ProjectStatus
deriving DecidableEq

namespace Project

def id (project : Project) : String :=
  project.status.id

end Project

/-! ## Data federations -/

/-- What the author of a data federation asks for. -/
structure DataFederationSpec where
  name : String
  projectId : String
  endpoints : List Endpoint
deriving DecidableEq

/-- A data federation, with the endpoints that may reach it. -/
structure DataFederation where
  metadata : Metadata
  spec : DataFederationSpec
  conditions : Conditions
deriving DecidableEq

/-! ## Federated logins -/

/-- What the author of a federated login asks for. -/
structure FederatedAuthSpec where
  enabled : Bool
  domainAllowList : List String
  domainRestriction : Bool
  roleGrants : List String
deriving DecidableEq

namespace FederatedAuthSpec

/-- The config that a specification asks for. -/
def toConnectedOrg (spec : FederatedAuthSpec) (orgId : String)
    (identityProvider : Option String) : ConnectedOrg where
  orgId
  identityProvider
  domainAllowList := spec.domainAllowList
  domainRestriction := spec.domainRestriction
  roleGrants := spec.roleGrants

end FederatedAuthSpec

/-- The login of an organisation through an identity provider. -/
structure FederatedAuth where
  metadata : Metadata
  spec : FederatedAuthSpec
  conditions : Conditions
deriving DecidableEq

/-! ## All kinds -/

/-- A resource of any kind. -/
inductive Resource where
  | project (value : Project)
  | dataFederation (value : DataFederation)
  | federatedAuth (value : FederatedAuth)
deriving DecidableEq

namespace Resource

def metadata : Resource → Metadata
  | .project value => value.metadata
  | .dataFederation value => value.metadata
  | .federatedAuth value => value.metadata

def kind : Resource → String
  | .project _ => "Project"
  | .dataFederation _ => "DataFederation"
  | .federatedAuth _ => "FederatedAuth"

end Resource

end CloudSteward
