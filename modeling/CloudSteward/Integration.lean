import CloudSteward.Role

/-!
# Declared integrations
-/

namespace CloudSteward

/-- A role that the user asks for.  Its `arn` stays empty until the user's side
of the role exists, which takes the cloud's side first. -/
structure Integration where
  provider : String
  arn : String
deriving DecidableEq, Repr

namespace Integration

instance : Identifiable Integration where
  identifier integration := sharedIdentifier integration.provider integration.arn

end Integration

end CloudSteward
