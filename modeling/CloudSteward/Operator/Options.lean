import CloudSteward.Http.Request
import CloudSteward.Pass.Reconcile

/-!
# Options of the command line

What an operator is told when it starts.  An option that is not given is looked up
in the environment, if it has a name there, and has its default otherwise.
-/

namespace CloudSteward

/-- How an operator is to run. -/
structure Options where
  apiBaseUrl : String
  apiToken : Option String
  org : Option String
  manifests : String
  /-- In seconds. -/
  resync : Nat
  /-- In seconds. -/
  timeout : Nat
  guardObjects : Bool
  guardParts : Bool
deriving DecidableEq, Repr

namespace Options

/-- Why the arguments make no options. -/
inductive Fault where
  | unknown (argument : String)
  | noValue (name : String)
  | notNumber (name value : String)
deriving DecidableEq, Repr

namespace Fault

def text : Fault → String
  | .unknown argument => "unexpected argument '" ++ argument ++ "'"
  | .noValue name => "a value is required for '" ++ name ++ "'"
  | .notNumber name value => "invalid value '" ++ value ++ "' for '" ++ name ++ "'"

end Fault

/-- The names that count in the environment. -/
def environmentNames : List String :=
  ["CLOUD_STEWARD_API_BASE_URL", "CLOUD_STEWARD_API_TOKEN", "CLOUD_STEWARD_ORG_ID",
    "CLOUD_STEWARD_MANIFEST_DIR"]

/-- The options of an operator that is told nothing. -/
def default (environment : String → Option String) : Options where
  apiBaseUrl := (environment "CLOUD_STEWARD_API_BASE_URL").getD "https://cloud.mongodb.com"
  apiToken := environment "CLOUD_STEWARD_API_TOKEN"
  org := environment "CLOUD_STEWARD_ORG_ID"
  manifests := (environment "CLOUD_STEWARD_MANIFEST_DIR").getD "/var/lib/cloud-steward/manifests"
  resync := 30
  timeout := 30
  guardObjects := false
  guardParts := false

private def number (name value : String) : Except Fault Nat :=
  match value.toNat? with
  | some number => .ok number
  | none => .error (.notNumber name value)

/-- Takes up the option of this name, if it is one with a value. -/
def setValue? (options : Options) (name value : String) : Option (Except Fault Options) :=
  match name with
  | "--api-base-url" => some (.ok { options with apiBaseUrl := value })
  | "--api-token" => some (.ok { options with apiToken := some value })
  | "--org-id" => some (.ok { options with org := some value })
  | "--manifest-dir" => some (.ok { options with manifests := value })
  | "--resync-interval" =>
      some ((number name value).map fun resync => { options with resync })
  | "--request-timeout" =>
      some ((number name value).map fun timeout => { options with timeout })
  | _ => none

/-- Takes up the option of this name, if it is one without a value. -/
def setFlag? (options : Options) : String → Option Options
  | "--object-deletion-protection" => some { options with guardObjects := true }
  | "--subobject-deletion-protection" => some { options with guardParts := true }
  | _ => none

/-- An argument as a name and the value behind its first equals sign. -/
def splitArgument (argument : String) : String × Option String :=
  let cs := argument.toList
  let name := String.ofList (cs.takeWhile (· ≠ '='))
  match cs.dropWhile (· ≠ '=') with
  | [] => (name, none)
  | _ :: value => (name, some (String.ofList value))

/-- Takes up arguments one after the other. -/
def read (options : Options) : List String → Except Fault Options
  | [] => .ok options
  | argument :: rest =>
      match options.setFlag? argument with
      | some options => options.read rest
      | none =>
          let (name, value) := splitArgument argument
          match options.setValue? name (value.getD ""), value, rest with
          | none, _, _ => .error (.unknown argument)
          | some outcome, some _, rest =>
              match outcome with
              | .error fault => .error fault
              | .ok options => options.read rest
          | some _, none, [] => .error (.noValue name)
          | some _, none, value :: rest =>
              match options.setValue? name value with
              | some (.ok options) => options.read rest
              | some (.error fault) => .error fault
              | none => .error (.unknown argument)

/-- The policy of the passes of an operator with these options. -/
def policy (options : Options) : Policy where
  org := options.org
  guardObjects := options.guardObjects
  guardParts := options.guardParts

/-- The client through which an operator with these options reaches the cloud. -/
def client (options : Options) : Http.Client where
  address := options.apiBaseUrl
  token := options.apiToken

end Options

end CloudSteward
