import CloudSteward.Identity

/-!
# Private endpoints
-/

namespace CloudSteward

/-- A private network endpoint, as declared and as the cloud lists it. -/
structure Endpoint where
  endpointId : String
  provider : String
  endpointType : String
deriving DecidableEq, Repr

namespace Endpoint

instance : Identifiable Endpoint where
  identifier endpoint := endpoint.endpointId

end Endpoint

end CloudSteward
