import CloudSteward.Http.Request
import CloudSteward.Wire.Role

/-!
# Replies

What a reply means depends on its status first.  Outside of the 200s a call has
failed, whatever the body says; the body only tells why, if it can be read.
Within the 200s the body has to be of the shape that the call asks for, except
that nothing is asked of the body when something was deleted.
-/

namespace CloudSteward

open Json

namespace Http

/-- A status and a body; a body that is shorter than announced is none at all. -/
structure Reply where
  status : Nat
  body : Option Text
deriving DecidableEq

/-- What comes back for a request. -/
inductive Delivery where
  /-- The connection was closed before there was a reply. -/
  | unanswered
  | reply (reply : Reply)
deriving DecidableEq

instance : Inhabited Delivery := ⟨.unanswered⟩

/-- What the cloud says about a failure. -/
structure Report where
  code : String
  detail : String
deriving DecidableEq, Repr

namespace Report

def record : Record Report where
  title := "Report"
  blank := { code := "", detail := "" }
  fields := [
    .defaulted "errorCode" .string Report.code
      fun report code => { report with code },
    .defaulted "detail" .string Report.detail
      fun report detail => { report with detail }]

def codec : Codec Report := record.codec

/-- The report in a body; one that cannot be read says nothing. -/
def ofBody (body : Text) : Report :=
  match codec.decode body with
  | .ok report => report
  | .error _ => record.blank

end Report

/-- Lists of roles as the cloud sends them. -/
def roleList : Record (List Role) where
  title := "RoleList"
  blank := []
  fields := [.defaulted "awsIamRoles" (.list Role.codec) id fun _ roles => roles]

/-- One page of a listing. -/
def page {α : Type} (codec : Codec α) : Record (List α) where
  title := "Paginated"
  blank := []
  fields := [.defaulted "results" (.list codec) id fun _ results => results]

namespace Reply

def isSuccess (reply : Reply) : Bool :=
  200 ≤ reply.status && reply.status < 300

/-- The error of a reply that is no success. -/
def refusal (reply : Reply) : CloudError :=
  match reply.body with
  | none => .transport .bodyCut
  | some body =>
      let report := Report.ofBody body
      if reply.status = 404 then .notFound report.detail
      else .api reply.status report.code report.detail

/-- Reads the body of a success. -/
def read {α : Type} (reply : Reply) (codec : Codec α) : Except CloudError α :=
  if reply.isSuccess then
    match reply.body with
    | none => .error (.transport .bodyCut)
    | some body => (codec.decode body).mapError .malformed
  else .error reply.refusal

/-- Reads a reply that need not say anything. -/
def acknowledge (reply : Reply) : Except CloudError Unit :=
  if reply.isSuccess then .ok () else .error reply.refusal

end Reply

end Http

namespace Call

/-- What a reply to a call means. -/
def ofReply : (call : Call) → Http.Reply → call.Reply
  | .listRoles _, reply => reply.read Http.roleList.codec
  | .createRole _ _, reply => reply.read Role.codec
  | .authorizeRole _ _ _ _, reply => reply.read Role.codec
  | .deauthorizeRole _ _ _, reply => reply.acknowledge
  | .listEndpoints _, reply => reply.read (Http.page Endpoint.codec).codec
  | .createEndpoint _ endpoint, reply =>
      match reply.read (Http.page Endpoint.codec).codec with
      | .error error => .error error
      | .ok endpoints =>
          match endpoints.find? fun other => other.endpointId = endpoint.endpointId with
          | some created => .ok created
          | none => .error (.notFound endpoint.endpointId)
  | .deleteEndpoint _ _, reply => reply.acknowledge
  | .getSettings _, reply => reply.read FederationSettings.codec
  | .getOrg _ _, reply => reply.read ConnectedOrg.codec
  | .updateOrg _ _, reply => reply.read ConnectedOrg.codec

/-- What becomes of a call whose request brought this delivery. -/
def ofDelivery (call : Call) (request : Http.Request) : Http.Delivery → call.Reply
  | .unanswered => .error (.transport (.unanswered request.url.text))
  | .reply reply => call.ofReply reply

end Call

/-! ## Programs over requests -/

/-- A program that sends requests. -/
abbrev HttpProgram :=
  Program Http.Request fun _ => Http.Delivery

namespace Http.Client

/-- Makes a call by sending its request. -/
def make (client : Client) (call : Call) : HttpProgram call.Reply :=
  match client.request call with
  | .error fault => return .error (.transport fault)
  | .ok request => do
      let delivery ← Program.perform request
      return call.ofDelivery request delivery

/-- A program whose calls are made by sending requests. -/
def carry {α : Type} (client : Client) (program : CloudProgram α) : HttpProgram α :=
  program.expand client.make

end Http.Client

end CloudSteward
