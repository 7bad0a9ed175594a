import CloudSteward.Cloud.Call
import CloudSteward.Http.Url
import CloudSteward.Text.Base64
import CloudSteward.Wire.Federation

/-!
# Calls as requests

Every call is one request: a method, a path below the address of the cloud, and
for some calls a record in JSON.  The identifiers in a path stand for themselves;
what an address makes of them is up to `Url.parse?`.
-/

namespace CloudSteward

open Json

namespace Http

/-- What a request asks a server to do. -/
inductive Method where
  | get
  | post
  | patch
  | delete
deriving DecidableEq, Repr

namespace Method

def name : Method → String
  | .get => "GET"
  | .post => "POST"
  | .patch => "PATCH"
  | .delete => "DELETE"

end Method

/-- One request to the cloud. -/
structure Request where
  method : Method
  url : Url
  /-- The values of the headers that say who asks. -/
  authorizations : List String
  /-- The JSON text that is sent along. -/
  body : Option String
deriving DecidableEq, Repr

namespace Request

/-- The version of the interface that every request accepts. -/
def accept : String := "application/vnd.atlas.2023-11-15+json"

/-- The type of the body of a request that has one. -/
def contentType : String := "application/json"

end Request

end Http

/-! ## Method, path and body of a call -/

namespace Call

def method : Call → Http.Method
  | .listRoles _ => .get
  | .createRole _ _ => .post
  | .authorizeRole _ _ _ _ => .patch
  | .deauthorizeRole _ _ _ => .delete
  | .listEndpoints _ => .get
  | .createEndpoint _ _ => .post
  | .deleteEndpoint _ _ => .delete
  | .getSettings _ => .get
  | .getOrg _ _ => .get
  | .updateOrg _ _ => .patch

private def rolesPath (project : String) : String :=
  "/groups/" ++ project ++ "/cloudProviderAccess"

private def endpointsPath (project : String) : String :=
  "/groups/" ++ project ++ "/privateNetworkSettings/endpointIds"

private def orgPath (settings org : String) : String :=
  "/federationSettings/" ++ settings ++ "/connectedOrgConfigs/" ++ org

/-- The path of a call, below that of the interface. -/
def path : Call → String
  | .listRoles project => rolesPath project
  | .createRole project _ => rolesPath project
  | .authorizeRole project roleId _ _ => rolesPath project ++ "/" ++ roleId
  | .deauthorizeRole project roleId provider =>
      rolesPath project ++ "/" ++ provider ++ "/" ++ roleId
  | .listEndpoints project => endpointsPath project
  | .createEndpoint project _ => endpointsPath project
  | .deleteEndpoint project endpointId => endpointsPath project ++ "/" ++ endpointId
  | .getSettings org => "/orgs/" ++ org ++ "/federationSettings"
  | .getOrg settings org => orgPath settings org
  | .updateOrg settings config => orgPath settings config.orgId

/-- What a call sends along. -/
def payload? : Call → Option Json
  | .createRole _ provider => some (.object [("providerName", .string provider)])
  | .authorizeRole _ _ provider arn =>
      some (.object [("providerName", .string provider), ("iamAssumedRoleArn", .string arn)])
  | .createEndpoint _ endpoint => some (Endpoint.codec.write endpoint)
  | .updateOrg _ config => some (ConnectedOrg.codec.write config)
  | _ => none

end Call

/-! ## Addresses that can be asked -/

namespace Http.Url

/-- The value of the header that shows a user and a password. -/
def credentials (user password : List Char) : String :=
  let shown := String.ofList (user ++ ':' :: password)
  "Basic " ++ String.ofList (Text.base64 shown.toUTF8.toList)

/-- The header that shows the user of an address, and the address without the user.  A
user whose bytes spell no characters stays where it is. -/
def withoutUser (url : Url) : Option String × Url :=
  match url.authority with
  | none => (none, url)
  | some authority =>
      let password := authority.password.bind fun password => decoded? password.toList
      match decoded? authority.user.toList with
      | none => (none, url)
      | some user =>
          if user = [] ∧ password = none then (none, url)
          else
            let bare := { authority with user := "", password := none }
            (some (credentials user (password.getD [])), { url with authority := some bare })

/-- The characters that may stand in the name of a host, but not in a request. -/
def unsendable : List Char := ['"', '\x60', '\x7b', '\x7d']

/-- The greatest number of bytes in an address that is sent. -/
def sendableSize : Nat := 65534

/-- Whether requests can be sent to an address: it is one of the web, its host has only
usual characters, and it is not too long. -/
def isSendable (url : Url) : Bool :=
  (url.scheme = "http" || url.scheme = "https") &&
    url.authority.all (fun authority =>
      authority.host.text.toList.all fun c => !unsendable.contains c) &&
    url.text.utf8ByteSize ≤ sendableSize

end Http.Url

/-! ## Requests of a client -/

namespace Http

/-- Where the cloud is, and the token that the user was given for it. -/
structure Client where
  address : String
  token : Option String
deriving DecidableEq, Repr

namespace Client

/-- The path of the interface. -/
def interfacePath : String := "/api/atlas/v2"

/-- The address without slashes at its end. -/
def base (client : Client) : String :=
  String.ofList (client.address.toList.reverse.dropWhile (· = '/')).reverse

/-- Whether a character may stand in a header. -/
def isHeaderChar (c : Char) : Bool :=
  c = '\t' || (0x20 ≤ c.toNat && c.toNat ≠ 0x7F)

/-- The headers that show the token; there are none for a token with controls. -/
def authorizations? (client : Client) : Option (List String) :=
  match client.token with
  | none => some []
  | some token =>
      if token.toList.all isHeaderChar then some ["Bearer " ++ token] else none

/-- The request of a call, if the address and the token allow one.  The user that the
address names is shown in a header and not in the address. -/
def request (client : Client) (call : Call) : Except TransportFault Request :=
  match Url.parse? (client.base ++ interfacePath ++ call.path) with
  | none => .error .unusable
  | some url =>
      if url.hasHost then
        match client.authorizations? with
        | none => .error .unusable
        | some authorizations =>
            let (credentials, url) := url.withoutUser
            if url.isSendable then
              .ok {
                method := call.method
                url
                authorizations := credentials.toList ++ authorizations
                body := call.payload?.map Json.compact }
            else .error (.unusableAddress url.text)
      else .error (.unusableAddress url.text)

end Client

end Http

end CloudSteward
