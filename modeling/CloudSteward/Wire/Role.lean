import CloudSteward.Integration
import CloudSteward.Json.Codec
import CloudSteward.Time.Reading
import CloudSteward.Time.Writing

/-!
# Roles and integrations in JSON

An identifier of a feature is a string, or an object with a group and a name;
anything else is refused as a whole, without saying what is wrong with it.
-/

namespace CloudSteward

open Json

namespace Moment

def codec : Codec Moment :=
  .spelled "an RFC 3339 formatted date and time string"
    (fun s => (ofString s).mapError fun misread => .other misread.text)
    Moment.text

end Moment

namespace Integration

def record : Record Integration where
  title := "CloudProviderIntegration"
  blank := { provider := "", arn := "" }
  fields := [
    .mandatory "providerName" .string Integration.provider
      fun integration provider => { integration with provider },
    .defaulted "iamAssumedRoleArn" .string Integration.arn
      fun integration arn => { integration with arn }]

def codec : Codec Integration := record.codec

end Integration

namespace FeatureId

/-- The values of the members with the given key. -/
def valuesOf (key : String) : Members → List Node
  | .member (.ok name) _ _ _ value _ rest =>
      if name = key then value :: valuesOf key rest else valuesOf key rest
  | .member (.error _) _ _ _ _ _ rest => valuesOf key rest
  | _ => []

/-- The string that is the only value of a key. -/
def onlyString? (key : String) (members : Members) : Option String :=
  match valuesOf key members with
  | [.scalar _ _ _ (.ok (.string s)) _] => some s
  | _ => none

/-- The identifier that a value without faults stands for. -/
def ofNode? : Node → Option FeatureId
  | .scalar _ _ _ (.ok (.string id)) _ => some (.plain id)
  | .map _ _ members => do
      let group ← onlyString? "groupId" members
      let name ← onlyString? "bucketName" members
      return .bucket group name
  | _ => none

/-- What is said about a value that is no identifier. -/
def noVariant : Complaint :=
  .other "data did not match any variant of untagged enum FeatureId"

def codec : Codec FeatureId where
  read _ node :=
    match node.fault? with
    | some fault => .error fault
    | none =>
        match ofNode? node with
        | some id => .ok id
        | none => .error (.placeless noVariant)
  write
    | .plain id => .string id
    | .bucket group name => .object [("groupId", .string group), ("bucketName", .string name)]

end FeatureId

namespace FeatureUsage

def record : Record FeatureUsage where
  title := "FeatureUsage"
  blank := { featureType := "", featureId := none }
  fields := [
    .mandatory "featureType" .string FeatureUsage.featureType
      fun usage featureType => { usage with featureType },
    .sparse "featureId" (.optional FeatureId.codec) Option.isNone FeatureUsage.featureId
      fun usage featureId => { usage with featureId }]

def codec : Codec FeatureUsage := record.codec

end FeatureUsage

namespace Role

def record : Record Role where
  title := "CloudProviderAccessRole"
  blank := {
    provider := "", roleId := "", arn := "", accountArn := "", externalId := "",
    created := none, authorized := none, usages := [] }
  fields := [
    .mandatory "providerName" .string Role.provider
      fun role provider => { role with provider },
    .defaulted "roleId" .string Role.roleId
      fun role roleId => { role with roleId },
    .defaulted "iamAssumedRoleArn" .string Role.arn
      fun role arn => { role with arn },
    .defaulted "atlasAWSAccountArn" .string Role.accountArn
      fun role accountArn => { role with accountArn },
    .defaulted "atlasAssumedRoleExternalId" .string Role.externalId
      fun role externalId => { role with externalId },
    .defaulted "createdDate" (.optional Moment.codec) Role.created
      fun role created => { role with created },
    .defaulted "authorizedDate" (.optional Moment.codec) Role.authorized
      fun role authorized => { role with authorized },
    .defaulted "featureUsages" (.list FeatureUsage.codec) Role.usages
      fun role usages => { role with usages }]

def codec : Codec Role := record.codec

end Role

end CloudSteward
