import CloudSteward.Http.Reply
import CloudSteward.Proofs.Trace

/-!
# Calls that are carried by requests

A client makes a call with one request, and what the call brings is what the delivery for it
means.
-/

namespace CloudSteward

namespace Http.Client

open Program

variable {client : Client} {call : Call} {request : Request}
  {log : List (Program.Exchange Request fun _ => Delivery)} {outcome : call.Reply}

/-- What is known of a request that a client makes. -/
structure Asks (client : Client) (call : Call) (request : Request) (url : Url) : Prop where
  parsed : Url.parse? (client.base ++ interfacePath ++ call.path) = some url
  hasHost : url.hasHost = true
  url_eq : request.url = url.withoutUser.2
  sendable : request.url.isSendable = true
  method_eq : request.method = call.method

theorem exists_asks_of_request (hrequest : client.request call = .ok request) :
    ∃ url, client.Asks call request url := by
  unfold Client.request at hrequest
  split at hrequest
  case h_1 => cases hrequest
  case h_2 url hparsed =>
    split at hrequest
    case isFalse => cases hrequest
    case isTrue hhost =>
      split at hrequest
      case h_1 => cases hrequest
      case h_2 authorizations _ =>
        simp only at hrequest
        split at hrequest
        case isFalse => cases hrequest
        case isTrue hsendable =>
          cases hrequest
          exact ⟨url, hparsed, hhost, rfl, hsendable, rfl⟩

theorem trace_make_of_request (hrequest : client.request call = .ok request) :
    (client.make call).Trace log outcome ↔
      ∃ delivery, log = [⟨request, delivery⟩] ∧ outcome = call.ofDelivery request delivery := by
  unfold make
  rw [hrequest]
  constructor
  · intro htrace
    obtain ⟨delivery, rest, rfl, hrest⟩ := trace_perform_bind_iff.mp htrace
    obtain ⟨rfl, rfl⟩ := trace_done_iff.mp hrest
    exact ⟨delivery, rfl, rfl⟩
  · rintro ⟨delivery, rfl, rfl⟩
    exact trace_perform_bind_iff.mpr ⟨delivery, [], rfl, .done _⟩

/-- What is delivered decides the outcome. -/
theorem trace_make_iff_of_delivery (hrequest : client.request call = .ok request)
    (delivery : Delivery) :
    (client.make call).Trace [⟨request, delivery⟩] outcome ↔
      outcome = call.ofDelivery request delivery := by
  rw [trace_make_of_request hrequest]
  constructor
  · rintro ⟨found, hlog, rfl⟩
    cases hlog
    rfl
  · rintro rfl
    exact ⟨delivery, rfl, rfl⟩

end Http.Client

end CloudSteward
