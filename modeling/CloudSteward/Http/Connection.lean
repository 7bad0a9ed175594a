import CloudSteward.Http.Reply

/-!
# Requests and replies as bytes

One connection carries one request.  The reply reaches as far as it says itself: by
a length, by chunks that each say theirs, or else to the end of the connection.  A
reply that ends before that has its body cut.
-/

namespace CloudSteward.Http

/-! ## Where a connection leads -/

namespace Url

/-- The host and the number of the service, as they are shown to the server. -/
def hostAndService (url : Url) : String :=
  match url.authority with
  | none => ""
  | some authority => authority.hostAndService

/-- The host that a connection leads to. -/
def host (url : Url) : String :=
  match url.authority with
  | none => ""
  | some authority => authority.host.text

/-- The number of the service; without one, the usual one of the scheme. -/
def service (url : Url) : Nat :=
  ((url.authority.bind Authority.service).or (webSchemes.lookup url.scheme)).getD 80

end Url

/-! ## Requests -/

namespace Request

/-- The headers of a request, apart from those about its body. -/
def headers (request : Request) : List (String × String) :=
  [("host", request.url.hostAndService), ("accept", accept), ("connection", "close")] ++
    request.authorizations.map ("authorization", ·)

/-- The headers about the body of a request. -/
def bodyHeaders (request : Request) : List (String × String) :=
  match request.body with
  | some body =>
      [("content-type", contentType), ("content-length", toString body.utf8ByteSize)]
  | none => []

def text (request : Request) : String :=
  let first := request.method.name ++ " " ++ request.url.target ++ " HTTP/1.1\r\n"
  let lines := (request.headers ++ request.bodyHeaders).map fun (name, value) =>
    name ++ ": " ++ value ++ "\r\n"
  first ++ String.join lines ++ "\r\n" ++ request.body.getD ""

end Request

/-! ## Replies -/

namespace Reply

abbrev Bytes := List UInt8

/-- The bytes before the first line break, and those behind it. -/
def splitLine : Bytes → Option (Bytes × Bytes)
  | [] => none
  | 13 :: 10 :: rest => some ([], rest)
  | byte :: rest => (splitLine rest).map fun (line, behind) => (byte :: line, behind)

private def chars (line : Bytes) : List Char :=
  line.map fun byte => Char.ofNat byte.toNat

/-- The lines up to the first empty one, and the bytes behind that; `fuel` bounds
their number. -/
def splitHead : Nat → Bytes → Option (List (List Char) × Bytes)
  | 0, _ => none
  | fuel + 1, bytes =>
      match splitLine bytes with
      | none => none
      | some ([], behind) => some ([], behind)
      | some (line, behind) =>
          (splitHead fuel behind).map fun (lines, body) => (chars line :: lines, body)

/-- The number behind the first blank of a line. -/
def statusOf? (line : List Char) : Option Nat :=
  (String.ofList (((line.dropWhile (· ≠ ' ')).drop 1).takeWhile Char.isDigit)).toNat?

private def withoutBlanks (cs : List Char) : List Char :=
  (((cs.dropWhile Char.isWhitespace).reverse).dropWhile Char.isWhitespace).reverse

/-- The value of a header, in lower case. -/
def header? (name : String) (lines : List (List Char)) : Option String :=
  let matching := lines.filter fun line =>
    (line.takeWhile (· ≠ ':')).map Char.toLower = name.toList
  matching.head?.map fun line =>
    String.ofList ((withoutBlanks ((line.dropWhile (· ≠ ':')).drop 1)).map Char.toLower)

/-- The number that the hexadecimal digits at the start of a line spell. -/
def chunkLength (line : List Char) : Nat :=
  Text.spelled 16 (line.takeWhile (Text.isDigitIn 16))

/-- The bytes of all chunks, unless they end early; `fuel` bounds their number. -/
def joinChunks : Nat → Bytes → Option Bytes
  | 0, _ => none
  | fuel + 1, bytes =>
      match splitLine bytes with
      | none => none
      | some (line, behind) =>
          let length := chunkLength (chars line)
          if length = 0 then some []
          else if behind.length < length then none
          else (joinChunks fuel (behind.drop (length + 2))).map (behind.take length ++ ·)

/-- The body of a reply with these headers, unless it is cut. -/
def bodyOf (status : Nat) (lines : List (List Char)) (bytes : Bytes) : Option Bytes :=
  if status = 204 ∨ status = 304 then some []
  else if header? "transfer-encoding" lines = some "chunked" then
    joinChunks (bytes.length + 1) bytes
  else
    match (header? "content-length" lines).bind String.toNat? with
    | some length => if bytes.length < length then none else some (bytes.take length)
    | none => some bytes

end Reply

namespace Delivery

/-- What the bytes of a connection bring. -/
def ofBytes (bytes : ByteArray) : Delivery :=
  match Reply.splitHead (bytes.size + 1) bytes.toList with
  | some (first :: lines, behind) =>
      match Reply.statusOf? first with
      | some status =>
          let body := (Reply.bodyOf status lines behind).map fun content =>
            Text.ofBytes ⟨content.toArray⟩
          .reply { status, body }
      | none => .unanswered
  | _ => .unanswered

end Delivery

end CloudSteward.Http
