import CloudSteward.Integration

/-!
# The status of an integration

Each declared integration, and each role that nobody declared, has a status that
is carried from pass to pass: where it is in its life, what the cloud assigned to
it, and what went wrong last.
-/

namespace CloudSteward

/-- Where an integration is in its life. -/
inductive Phase where
  | new
  | created
  | authorized
  | failedToCreate
  | failedToAuthorize
  /-- Only the cloud has the role, and it is to be removed. -/
  | deauthorize
  | failedToDeauthorize
deriving DecidableEq, Repr

namespace Phase

def name : Phase → String
  | .new => "NEW"
  | .created => "CREATED"
  | .authorized => "AUTHORIZED"
  | .failedToCreate => "FAILED_TO_CREATE"
  | .failedToAuthorize => "FAILED_TO_AUTHORIZE"
  | .deauthorize => "DEAUTHORIZE"
  | .failedToDeauthorize => "FAILED_TO_DEAUTHORIZE"

/-- All phases, in the order in which messages list them. -/
def all : List Phase :=
  [.new, .created, .authorized, .failedToCreate, .failedToAuthorize, .deauthorize,
    .failedToDeauthorize]

def isRemoval : Phase → Bool
  | .deauthorize => true
  | .failedToDeauthorize => true
  | _ => false

end Phase

/-- The status of one integration. -/
structure Status where
  provider : String
  arn : String
  roleId : String
  accountArn : String
  externalId : String
  created : Option Moment
  authorized : Option Moment
  usages : List FeatureUsage
  phase : Phase
  /-- Empty unless the last step failed. -/
  error : String
deriving DecidableEq, Repr

namespace Status

/-- The status of an integration that nothing was done for yet. -/
def new (provider arn : String) : Status where
  provider
  arn
  roleId := ""
  accountArn := ""
  externalId := ""
  created := none
  authorized := none
  usages := []
  phase := .new
  error := ""

/-- Takes over what the cloud assigned to a role.  The declared `arn` stays as it
is, and so do known usages if the role has none; an earlier error is cleared. -/
def linked (status : Status) (role : Role) : Status :=
  { status with
    roleId := role.roleId
    accountArn := role.accountArn
    externalId := role.externalId
    created := role.created
    authorized := role.authorized
    usages := if role.usages.isEmpty then status.usages else role.usages
    phase := if role.isAuthorized then .authorized else .created
    error := "" }

/-- The status of a role that only the cloud has. -/
def removal (role : Role) : Status :=
  { (new role.provider role.arn).linked role with phase := .deauthorize }

/-- Records that a step failed. -/
def failed (status : Status) (phase : Phase) (error : String) : Status :=
  { status with phase, error }

def hasError (status : Status) : Bool :=
  status.error ≠ ""

/-- Whether the status belongs to a role with a known `arn`. -/
def isLinked (status : Status) : Bool :=
  status.arn ≠ "" && status.roleId ≠ ""

instance : Identifiable Status where
  identifier status := sharedIdentifier status.provider status.arn

end Status

end CloudSteward
