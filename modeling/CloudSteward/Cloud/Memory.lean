import CloudSteward.Cloud.Call
import CloudSteward.Table

/-!
# A cloud in memory

A cloud that follows simple rules: roles get ascending identifiers, all times are
fixed, every call is logged, and failures can be ordered in advance.  A call that
fails changes nothing but the log and the ordered failures.
-/

namespace CloudSteward

/-- The state of a cloud in memory. -/
structure MemoryCloud where
  /-- The roles with their projects, in the order of their creation. -/
  roles : List (String × Role)
  /-- The endpoints with their projects, in the order of their creation. -/
  endpoints : List (String × Endpoint)
  /-- The federation settings of each organization. -/
  settings : Table String FederationSettings
  /-- The configs by settings and organization. -/
  orgs : Table (String × String) ConnectedOrg
  /-- How many roles were created so far. -/
  created : Nat
  /-- All calls so far, in order. -/
  log : List Operation
  /-- The failures that are still to come, in order. -/
  failures : List (Operation × String)

namespace MemoryCloud

def empty : MemoryCloud where
  roles := []
  endpoints := []
  settings := .empty
  orgs := .empty
  created := 0
  log := []
  failures := []

instance : Inhabited MemoryCloud := ⟨empty⟩

/-- When every role is created. -/
def creationTime : Moment :=
  .startOfDay 2024 1 1

/-- When every role is authorized. -/
def authorizationTime : Moment where
  year := 2024
  month := 1
  day := 1
  hour := 0
  minute := 5
  second := 0
  nanos := 0

/-- The account that every role trusts. -/
def accountArn : String := "arn:aws:iam::000000000000:root"

/-- A number with at least four digits. -/
def fourDigits (number : Nat) : String :=
  let digits := Nat.toDigits 10 number
  String.ofList (List.replicate (4 - digits.length) '0' ++ digits)

def roleIdOf (number : Nat) : String :=
  "role-" ++ fourDigits number

/-! ## Looking in from outside -/

def rolesOf (cloud : MemoryCloud) (project : String) : List Role :=
  (cloud.roles.filter fun entry => entry.1 = project).map Prod.snd

def endpointsOf (cloud : MemoryCloud) (project : String) : List Endpoint :=
  (cloud.endpoints.filter fun entry => entry.1 = project).map Prod.snd

def orgOf? (cloud : MemoryCloud) (settings org : String) : Option ConnectedOrg :=
  cloud.orgs.get? (settings, org)

/-- How many logged calls changed the cloud or tried to. -/
def mutations (cloud : MemoryCloud) : Nat :=
  cloud.log.countP Operation.isMutation

/-! ## Preparing from outside -/

/-- The role that is created next. -/
def upcomingRole (cloud : MemoryCloud) (provider arn : String) : Role where
  provider
  roleId := roleIdOf (cloud.created + 1)
  arn
  accountArn
  externalId := "external-" ++ toString (cloud.created + 1)
  created := some creationTime
  authorized := if arn = "" then none else some authorizationTime
  usages := []

/-- Adds a role; one with an `arn` is authorized at once. -/
def addRole (cloud : MemoryCloud) (project provider arn : String) : MemoryCloud :=
  { cloud with
    roles := cloud.roles ++ [(project, cloud.upcomingRole provider arn)]
    created := cloud.created + 1 }

/-- Puts an endpoint behind those of a project. -/
def addEndpoint (cloud : MemoryCloud) (project : String) (endpoint : Endpoint) : MemoryCloud :=
  { cloud with endpoints := cloud.endpoints ++ [(project, endpoint)] }

/-- Gives an organisation federation settings and a config. -/
def addFederation (cloud : MemoryCloud) (org : String) (settings : FederationSettings)
    (config : ConnectedOrg) : MemoryCloud :=
  { cloud with
    settings := cloud.settings.put org settings
    orgs := cloud.orgs.put (settings.id, org) config }

/-- Orders a failure of the next call of a kind that has none ordered yet. -/
def orderFailure (cloud : MemoryCloud) (operation : Operation) (detail : String) : MemoryCloud :=
  { cloud with failures := cloud.failures ++ [(operation, detail)] }

/-- Forgets the calls so far. -/
def resetLog (cloud : MemoryCloud) : MemoryCloud :=
  { cloud with log := [] }

/-! ## Answering calls -/

/-- The failure that was ordered first for a kind of call. -/
def orderedFailure? (cloud : MemoryCloud) (operation : Operation) : Option String :=
  cloud.failures.lookup operation

/-- Drops the failure that was ordered first for a kind of call. -/
def dropFailure (operation : Operation) : List (Operation × String) → List (Operation × String)
  | [] => []
  | entry :: rest => if entry.1 = operation then rest else entry :: dropFailure operation rest

/-- The error of a failure that was ordered. -/
def injected (detail : String) : CloudError :=
  .api 500 "INJECTED_FAILURE" detail

/-- Whether an entry is the role of a project with this identifier and provider. -/
def isRole (project roleId provider : String) (entry : String × Role) : Bool :=
  entry.1 = project && entry.2.roleId = roleId && entry.2.provider = provider

/-- Changes the first entry for which `test` holds. -/
def changeFirst {α : Type} (test : α → Bool) (change : α → α) : List α → List α
  | [] => []
  | first :: rest =>
      if test first then change first :: rest else first :: changeFirst test change rest

/-- What the cloud does with a call that does not fail by order. -/
def perform (cloud : MemoryCloud) : (call : Call) → call.Reply × MemoryCloud
  | .listRoles project => (.ok (cloud.rolesOf project), cloud)
  | .createRole project provider =>
      (.ok (cloud.upcomingRole provider ""), cloud.addRole project provider "")
  | .authorizeRole project roleId provider arn =>
      let authorize (role : Role) : Role := { role with arn, authorized := some authorizationTime }
      match cloud.roles.find? (isRole project roleId provider) with
      | none => (.error (.notFound ("role " ++ roleId)), cloud)
      | some (_, role) =>
          (.ok (authorize role),
            { cloud with
              roles := changeFirst (isRole project roleId provider)
                (fun entry => (entry.1, authorize entry.2)) cloud.roles })
  | .deauthorizeRole project roleId provider =>
      if cloud.roles.any (isRole project roleId provider) then
        (.ok (), { cloud with
          roles := cloud.roles.filter fun entry => !isRole project roleId provider entry })
      else (.error (.notFound ("role " ++ roleId)), cloud)
  | .listEndpoints project => (.ok (cloud.endpointsOf project), cloud)
  | .createEndpoint project endpoint =>
      if (cloud.endpointsOf project).any fun other => other.endpointId = endpoint.endpointId then
        (.error (.api 409 "DUPLICATE_PRIVATE_ENDPOINT"
          ("endpoint " ++ endpoint.endpointId ++ " already exists")), cloud)
      else (.ok endpoint, cloud.addEndpoint project endpoint)
  | .deleteEndpoint project endpointId =>
      if (cloud.endpointsOf project).any fun endpoint => endpoint.endpointId = endpointId then
        (.ok (), { cloud with
          endpoints := cloud.endpoints.filter fun entry =>
            !(entry.1 = project && entry.2.endpointId = endpointId) })
      else (.error (.notFound ("endpoint " ++ endpointId)), cloud)
  | .getSettings org =>
      match cloud.settings.get? org with
      | some settings => (.ok settings, cloud)
      | none => (.error (.notFound ("federation settings of " ++ org)), cloud)
  | .getOrg settings org =>
      match cloud.orgOf? settings org with
      | some config => (.ok config, cloud)
      | none => (.error (.notFound ("connected org " ++ org)), cloud)
  | .updateOrg settings config =>
      match cloud.orgOf? settings config.orgId with
      | some _ =>
          (.ok config, { cloud with orgs := cloud.orgs.put (settings, config.orgId) config })
      | none => (.error (.notFound ("connected org " ++ config.orgId)), cloud)

/-- Logs a call and answers it, unless a failure was ordered. -/
def answer (call : Call) : StateM MemoryCloud call.Reply := fun cloud =>
  let logged := { cloud with log := cloud.log ++ [call.operation] }
  match cloud.orderedFailure? call.operation with
  | some detail =>
      (.error (injected detail),
        { logged with failures := dropFailure call.operation cloud.failures })
  | none => logged.perform call

/-- Runs a program against the cloud. -/
def run {α : Type} (program : CloudProgram α) (cloud : MemoryCloud) : α × MemoryCloud :=
  program.run answer cloud

end MemoryCloud

end CloudSteward
