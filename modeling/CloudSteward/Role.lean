import CloudSteward.Identity
import CloudSteward.Time.Moment

/-!
# Roles

A role lets the cloud act in the account of a provider.  The cloud creates it
without the resource name of the user's side, its `arn`; the role is usable once
it has been authorized with one.
-/

namespace CloudSteward

/-- The identifier that declared integrations, statuses and roles share.  It is
empty without an `arn`. -/
def sharedIdentifier (provider arn : String) : String :=
  if arn = "" then "" else provider ++ "." ++ arn

/-- What identifies the feature that uses a role. -/
inductive FeatureId where
  | plain (id : String)
  /-- A bucket within a group. -/
  | bucket (group name : String)
deriving DecidableEq, Repr

namespace FeatureId

def text : FeatureId → String
  | .plain id => id
  | .bucket group name => group ++ "/" ++ name

end FeatureId

/-- A feature that uses a role. -/
structure FeatureUsage where
  featureType : String
  featureId : Option FeatureId
deriving DecidableEq, Repr

/-- A role as the cloud knows it. -/
structure Role where
  provider : String
  roleId : String
  /-- Empty until the role has been authorized. -/
  arn : String
  accountArn : String
  externalId : String
  created : Option Moment
  authorized : Option Moment
  usages : List FeatureUsage
deriving DecidableEq, Repr

namespace Role

/-- Whether the cloud has a date at which it accepted a role. -/
def isAuthorized (role : Role) : Bool :=
  role.authorized.isSome

instance : Identifiable Role where
  identifier role := sharedIdentifier role.provider role.arn

end Role

end CloudSteward
