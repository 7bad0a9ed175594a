/-!
# Federated login of an organization

An organization has federation settings, and in them a config that says who may
log in and what they may do.
-/

namespace CloudSteward

/-- The federation settings of an organization. -/
structure FederationSettings where
  id : String
  identityProvider : Option String
deriving DecidableEq, Repr

/-- How an organization is connected to its federation. -/
structure ConnectedOrg where
  orgId : String
  identityProvider : Option String
  domainAllowList : List String
  domainRestriction : Bool
  roleGrants : List String
deriving DecidableEq, Repr

namespace ConnectedOrg

/-- Whether two lists have the same members. -/
def sameMembers (left right : List String) : Bool :=
  left.all right.contains && right.all left.contains

/-- Whether two configs ask for the same; the order of their lists and repeated
entries do not matter. -/
def agrees (desired remote : ConnectedOrg) : Bool :=
  desired.orgId = remote.orgId &&
    desired.identityProvider = remote.identityProvider &&
    desired.domainRestriction = remote.domainRestriction &&
    sameMembers desired.domainAllowList remote.domainAllowList &&
    sameMembers desired.roleGrants remote.roleGrants

end ConnectedOrg

end CloudSteward
