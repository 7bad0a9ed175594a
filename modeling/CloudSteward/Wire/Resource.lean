import CloudSteward.Resource
import CloudSteward.Wire.Federation
import CloudSteward.Wire.Status

/-!
# Resources in JSON

A resource says its kind in a member of its own, which may stand anywhere.  So
all other members are taken in first, and are read once the kind is known; what
is wrong with them then has no place in the text.
-/

namespace CloudSteward

open Json

namespace Annotations

def codec : Codec Annotations :=
  .map .string ofList entries

end Annotations

namespace Metadata

def record : Record Metadata where
  title := "ObjectMeta"
  blank := new ""
  fields := [
    .mandatory "name" .string Metadata.name
      fun metadata name => { metadata with name },
    .sparse "namespace" .string String.isEmpty Metadata.space
      fun metadata space => { metadata with space },
    .sparse "annotations" Annotations.codec Annotations.isEmpty Metadata.annotations
      fun metadata annotations => { metadata with annotations }]

def codec : Codec Metadata := record.codec

/-- The specification that was applied last, if one was recorded. -/
def applied {α : Type} (metadata : Metadata) (codec : Codec α) : Except Error (Option α) :=
  match metadata.annotations.get? lastAppliedName with
  | none => .ok none
  | some text => (codec.decode (Text.ofString text)).map some

/-- Records a specification as the one that was applied last. -/
def setApplied {α : Type} (metadata : Metadata) (codec : Codec α) (spec : α) : Metadata :=
  metadata.annotate lastAppliedName (codec.encode spec)

end Metadata

/-- The field of a resource that holds its metadata. -/
private def metadataField {ρ : Type} (get : ρ → Metadata) (set : ρ → Metadata → ρ) : Json.Field ρ :=
  .mandatory "metadata" Metadata.codec get set

/-- The field of a status that holds its conditions. -/
private def conditionsField {ρ : Type} (get : ρ → Conditions) (set : ρ → Conditions → ρ) :
    Json.Field ρ :=
  .sparse "conditions" Conditions.codec Conditions.isEmpty get set

/-! ## Projects -/

namespace ProjectSpec

def record : Record ProjectSpec where
  title := "ProjectSpec"
  blank := { name := "", accessRoles := [], integrations := [] }
  fields := [
    .mandatory "name" .string ProjectSpec.name
      fun spec name => { spec with name },
    .sparse "cloudProviderAccessRoles" (.list Integration.codec) List.isEmpty
      ProjectSpec.accessRoles fun spec accessRoles => { spec with accessRoles },
    .sparse "cloudProviderIntegrations" (.list Integration.codec) List.isEmpty
      ProjectSpec.integrations fun spec integrations => { spec with integrations }]

def codec : Codec ProjectSpec := record.codec

end ProjectSpec

namespace ProjectStatus

def blank : ProjectStatus := { id := "", conditions := .empty, integrations := [] }

def record : Record ProjectStatus where
  title := "ProjectStatus"
  blank
  fields := [
    .defaulted "id" .string ProjectStatus.id
      fun status id => { status with id },
    conditionsField ProjectStatus.conditions
      fun status conditions => { status with conditions },
    .sparse "cloudProviderIntegrations" (.list Status.codec) List.isEmpty
      ProjectStatus.integrations fun status integrations => { status with integrations }]

def codec : Codec ProjectStatus := record.codec

end ProjectStatus

namespace Project

def record : Record Project where
  title := "Project"
  blank := { metadata := .new "", spec := ProjectSpec.record.blank, status := .blank }
  fields := [
    metadataField Project.metadata fun project metadata => { project with metadata },
    .mandatory "spec" ProjectSpec.codec Project.spec
      fun project spec => { project with spec },
    .defaulted "status" ProjectStatus.codec Project.status
      fun project status => { project with status }]

def codec : Codec Project := record.codec

end Project

/-! ## Data federations -/

namespace DataFederationSpec

def record : Record DataFederationSpec where
  title := "DataFederationSpec"
  blank := { name := "", projectId := "", endpoints := [] }
  fields := [
    .mandatory "name" .string DataFederationSpec.name
      fun spec name => { spec with name },
    .mandatory "projectId" .string DataFederationSpec.projectId
      fun spec projectId => { spec with projectId },
    .defaulted "privateEndpoints" (.list Endpoint.codec) DataFederationSpec.endpoints
      fun spec endpoints => { spec with endpoints }]

def codec : Codec DataFederationSpec := record.codec

end DataFederationSpec

/-- A status that holds conditions and nothing else. -/
private def conditionsRecord (title : String) : Record Conditions where
  title
  blank := .empty
  fields := [conditionsField id fun _ conditions => conditions]

namespace DataFederation

def record : Record DataFederation where
  title := "DataFederation"
  blank := {
    metadata := .new "", spec := DataFederationSpec.record.blank, conditions := .empty }
  fields := [
    metadataField DataFederation.metadata
      fun federation metadata => { federation with metadata },
    .mandatory "spec" DataFederationSpec.codec DataFederation.spec
      fun federation spec => { federation with spec },
    .defaulted "status" (conditionsRecord "DataFederationStatus").codec DataFederation.conditions
      fun federation conditions => { federation with conditions }]

def codec : Codec DataFederation := record.codec

end DataFederation

/-! ## Federated logins -/

namespace FederatedAuthSpec

def record : Record FederatedAuthSpec where
  title := "FederatedAuthSpec"
  blank := { enabled := false, domainAllowList := [], domainRestriction := false, roleGrants := [] }
  fields := [
    .defaulted "enabled" .boolean FederatedAuthSpec.enabled
      fun spec enabled => { spec with enabled },
    .defaulted "domainAllowList" (.list .string) FederatedAuthSpec.domainAllowList
      fun spec domainAllowList => { spec with domainAllowList },
    .defaulted "domainRestrictionEnabled" .boolean FederatedAuthSpec.domainRestriction
      fun spec domainRestriction => { spec with domainRestriction },
    .defaulted "postAuthRoleGrants" (.list .string) FederatedAuthSpec.roleGrants
      fun spec roleGrants => { spec with roleGrants }]

def codec : Codec FederatedAuthSpec := record.codec

end FederatedAuthSpec

namespace FederatedAuth

def record : Record FederatedAuth where
  title := "FederatedAuth"
  blank := {
    metadata := .new "", spec := FederatedAuthSpec.record.blank, conditions := .empty }
  fields := [
    metadataField FederatedAuth.metadata fun auth metadata => { auth with metadata },
    .mandatory "spec" FederatedAuthSpec.codec FederatedAuth.spec
      fun auth spec => { auth with spec },
    .defaulted "status" (conditionsRecord "FederatedAuthStatus").codec FederatedAuth.conditions
      fun auth conditions => { auth with conditions }]

def codec : Codec FederatedAuth := record.codec

end FederatedAuth

/-! ## All kinds -/

namespace Resource

/-- The member that says the kind. -/
def kindName : String := "kind"

/-- The readers of the kinds, in the order in which messages list them. -/
def readers : List (String × (Node → Except Fault Resource)) := [
  ("Project", fun node => (Project.codec.read .kept node).map .project),
  ("DataFederation", fun node => (DataFederation.codec.read .kept node).map .dataFederation),
  ("FederatedAuth", fun node => (FederatedAuth.codec.read .kept node).map .federatedAuth)]

/-- Reads the name of a kind. -/
def readKind (node : Node) : Except Fault (Node → Except Fault Resource) :=
  match node with
  | .scalar _ stop _ (.ok (.string name)) _ =>
      match Codec.variant readers name with
      | .ok reader => .ok reader
      | .error complaint => .error (.placed complaint stop)
  | _ => .error (node.refuse .streamed "variant identifier")

/-- Takes in the members of a resource: gives the reader of its kind, and the other
members.  `kind` is the reader if the kind was seen already. -/
def takeMembers (kind : Option (Node → Except Fault Resource)) :
    Members → Except Fault ((Node → Except Fault Resource) × Members)
  | .close stop =>
      match kind with
      | some reader => .ok (reader, .close stop)
      | none => .error (.placed (.missingField kindName) stop)
  | .broken why place => .error (why.memberFault place)
  | .unquoted place => .error (.placed .keyNotString (place + 1))
  | .member (.error fault) _ _ _ _ _ _ => .error fault
  | .member (.ok key) obstacle keyStop behindKey node resting rest =>
      if key = kindName then
        if kind.isSome then .error (.placed (.duplicateField kindName) behindKey)
        else
          match readKind node with
          | .error fault => .error fault
          | .ok reader => takeMembers (some reader) rest
      else
        match node.fault? with
        | some fault => .error fault
        | none =>
            (takeMembers kind rest).map fun (reader, others) =>
              (reader, .member (.ok key) obstacle keyStop behindKey node resting others)

/-- Reads a resource: its members, or a list of its kind and its fields. -/
def readNode (node : Node) : Except Fault Resource :=
  match node with
  | .map start depth members =>
      Codec.enter start depth <|
        match takeMembers none members with
        | .error fault => .error fault
        | .ok (reader, others) => reader (.map start depth others)
  | .list start depth items =>
      Codec.enter start depth <|
        match items with
        | .close stop => .error (.placed (.missingField kindName) stop)
        | .broken why place => .error (why.itemFault place)
        | .item kind _ rest =>
            match readKind kind with
            | .error fault => .error fault
            | .ok reader =>
                match rest.fault? with
                | some fault => .error fault
                | none => reader (.list start depth rest)
  | _ => .error (node.refuse .streamed "internally tagged enum Resource")

/-- The members of a resource without its kind. -/
def members : Resource → List (String × Json)
  | .project value => Project.record.members value
  | .dataFederation value => DataFederation.record.members value
  | .federatedAuth value => FederatedAuth.record.members value

def codec : Codec Resource where
  read _ node := readNode node
  write resource := .object ((kindName, .string resource.kind) :: resource.members)

end Resource

end CloudSteward
