import CloudSteward.Endpoint
import CloudSteward.Federation
import CloudSteward.Json.Codec

/-!
# Endpoints and federation records in JSON
-/

namespace CloudSteward

open Json

namespace Endpoint

def record : Record Endpoint where
  title := "PrivateEndpoint"
  blank := { endpointId := "", provider := "", endpointType := "" }
  fields := [
    .mandatory "endpointId" .string Endpoint.endpointId
      fun endpoint endpointId => { endpoint with endpointId },
    .defaulted "provider" .string Endpoint.provider
      fun endpoint provider => { endpoint with provider },
    .defaulted "type" .string Endpoint.endpointType
      fun endpoint endpointType => { endpoint with endpointType }]

def codec : Codec Endpoint := record.codec

end Endpoint

namespace FederationSettings

def record : Record FederationSettings where
  title := "FederationSettings"
  blank := { id := "", identityProvider := none }
  fields := [
    .mandatory "id" .string FederationSettings.id
      fun settings id => { settings with id },
    .defaulted "identityProviderId" (.optional .string) FederationSettings.identityProvider
      fun settings identityProvider => { settings with identityProvider }]

def codec : Codec FederationSettings := record.codec

end FederationSettings

namespace ConnectedOrg

def record : Record ConnectedOrg where
  title := "ConnectedOrgConfig"
  blank := {
    orgId := "", identityProvider := none, domainAllowList := [],
    domainRestriction := false, roleGrants := [] }
  fields := [
    .mandatory "orgId" .string ConnectedOrg.orgId
      fun config orgId => { config with orgId },
    .defaulted "identityProviderId" (.optional .string) ConnectedOrg.identityProvider
      fun config identityProvider => { config with identityProvider },
    .defaulted "domainAllowList" (.list .string) ConnectedOrg.domainAllowList
      fun config domainAllowList => { config with domainAllowList },
    .defaulted "domainRestrictionEnabled" .boolean ConnectedOrg.domainRestriction
      fun config domainRestriction => { config with domainRestriction },
    .defaulted "postAuthRoleGrants" (.list .string) ConnectedOrg.roleGrants
      fun config roleGrants => { config with roleGrants }]

def codec : Codec ConnectedOrg := record.codec

end ConnectedOrg

end CloudSteward
