import CloudSteward.Endpoint
import CloudSteward.Federation
import CloudSteward.Json.Message
import CloudSteward.Program
import CloudSteward.Role

/-!
# Calls to the cloud

Everything that a pass may ask of the cloud, what the answer to each call is, and
what can go wrong with it.  A pass is a `CloudProgram`: it knows nothing of the
cloud but the answers to its calls.
-/

namespace CloudSteward

/-- The kinds of calls. -/
inductive Operation where
  | listRoles
  | createRole
  | authorizeRole
  | deauthorizeRole
  | listEndpoints
  | createEndpoint
  | deleteEndpoint
  | getSettings
  | getOrg
  | updateOrg
deriving DecidableEq, Repr

namespace Operation

def name : Operation → String
  | .listRoles => "ListRoles"
  | .createRole => "CreateRole"
  | .authorizeRole => "AuthorizeRole"
  | .deauthorizeRole => "DeauthorizeRole"
  | .listEndpoints => "ListPrivateEndpoints"
  | .createEndpoint => "CreatePrivateEndpoint"
  | .deleteEndpoint => "DeletePrivateEndpoint"
  | .getSettings => "GetFederationSettings"
  | .getOrg => "GetConnectedOrgConfig"
  | .updateOrg => "UpdateConnectedOrgConfig"

def all : List Operation :=
  [.listRoles, .createRole, .authorizeRole, .deauthorizeRole, .listEndpoints, .createEndpoint,
    .deleteEndpoint, .getSettings, .getOrg, .updateOrg]

/-- Whether a call of this kind changes the cloud. -/
def isMutation : Operation → Bool
  | .listRoles => false
  | .listEndpoints => false
  | .getSettings => false
  | .getOrg => false
  | _ => true

end Operation

/-- A call with its arguments. -/
inductive Call where
  | listRoles (project : String)
  | createRole (project provider : String)
  | authorizeRole (project roleId provider arn : String)
  | deauthorizeRole (project roleId provider : String)
  | listEndpoints (project : String)
  | createEndpoint (project : String) (endpoint : Endpoint)
  | deleteEndpoint (project endpointId : String)
  | getSettings (org : String)
  | getOrg (settings org : String)
  | updateOrg (settings : String) (config : ConnectedOrg)
deriving DecidableEq, Repr

namespace Call

def operation : Call → Operation
  | .listRoles _ => .listRoles
  | .createRole _ _ => .createRole
  | .authorizeRole _ _ _ _ => .authorizeRole
  | .deauthorizeRole _ _ _ => .deauthorizeRole
  | .listEndpoints _ => .listEndpoints
  | .createEndpoint _ _ => .createEndpoint
  | .deleteEndpoint _ _ => .deleteEndpoint
  | .getSettings _ => .getSettings
  | .getOrg _ _ => .getOrg
  | .updateOrg _ _ => .updateOrg

/-- What a call gives when it succeeds. -/
def Answer : Call → Type
  | .listRoles _ => List Role
  | .createRole _ _ => Role
  | .authorizeRole _ _ _ _ => Role
  | .deauthorizeRole _ _ _ => Unit
  | .listEndpoints _ => List Endpoint
  | .createEndpoint _ _ => Endpoint
  | .deleteEndpoint _ _ => Unit
  | .getSettings _ => FederationSettings
  | .getOrg _ _ => ConnectedOrg
  | .updateOrg _ _ => ConnectedOrg

end Call

/-- What keeps a request from being answered. -/
inductive TransportFault where
  /-- The connection was closed before there was an answer. -/
  | unanswered (url : String)
  /-- The answer is shorter than announced. -/
  | bodyCut
  /-- No request can be made of the address or the token. -/
  | unusable
  /-- No request can be sent to an address of this kind. -/
  | unusableAddress (url : String)
deriving DecidableEq, Repr

namespace TransportFault

def text : TransportFault → String
  | .unanswered url => "error sending request for url (" ++ url ++ ")"
  | .bodyCut => "error decoding response body"
  | .unusable => "builder error"
  | .unusableAddress url => "builder error for url (" ++ url ++ ")"

end TransportFault

/-- Why a call failed. -/
inductive CloudError where
  | transport (fault : TransportFault)
  /-- The cloud refused. -/
  | api (status : Nat) (code detail : String)
  | notFound (what : String)
  /-- The cloud agreed, but its answer makes no sense. -/
  | malformed (error : Json.Error)
deriving DecidableEq, Repr

namespace CloudError

def text : CloudError → String
  | .transport fault => "request failed: " ++ fault.text
  | .api status code detail =>
      "API error " ++ toString status ++ " (" ++ code ++ "): " ++ detail
  | .notFound what => "not found: " ++ what
  | .malformed error => "malformed response: " ++ error.message

end CloudError

/-- The outcome of a call. -/
abbrev Call.Reply (call : Call) : Type :=
  Except CloudError call.Answer

/-- A program that makes calls. -/
abbrev CloudProgram :=
  Program Call Call.Reply

/-- Makes a call. -/
def Call.make (call : Call) : CloudProgram call.Reply :=
  Program.perform call

end CloudSteward
