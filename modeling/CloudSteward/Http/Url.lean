import CloudSteward.Http.Host

/-!
# Addresses

An address is what a browser makes of a text: blanks around it and line breaks inside it
are dropped, a backslash counts as a slash where the scheme is well known, dotted
segments of the path are resolved, and the characters that may not stand in a part of it
are replaced by percent signs and their bytes.  Texts that are no absolute address have
none.
-/

namespace CloudSteward.Http

/-- Who asks, and where. -/
structure Authority where
  /-- Empty if nobody is named. -/
  user : String
  password : Option String
  host : Host
  /-- The number of the service, unless it is the usual one of the scheme. -/
  service : Option Nat
deriving DecidableEq, Repr

/-- An address. -/
structure Url where
  scheme : String
  authority : Option Authority
  path : String
  query : Option String
  fragment : Option String
deriving DecidableEq, Repr

namespace Authority

/-- The host, and the number of the service if it is not the usual one. -/
def hostAndService (authority : Authority) : String :=
  match authority.service with
  | none => authority.host.text
  | some number => authority.host.text ++ ":" ++ toString number

/-- The text of who asks and where. -/
def text (authority : Authority) : String :=
  match authority.password with
  | some password => authority.user ++ ":" ++ password ++ "@" ++ authority.hostAndService
  | none =>
      if authority.user = "" then authority.hostAndService
      else authority.user ++ "@" ++ authority.hostAndService

end Authority

namespace Url

/-- The part of an address that a server sees. -/
def target (url : Url) : String :=
  match url.query with
  | none => url.path
  | some query => url.path ++ "?" ++ query

/-- What stands before the path.  A path that begins with two slashes is kept from being
read as a host. -/
def front (url : Url) : String :=
  match url.authority with
  | some authority => url.scheme ++ "://" ++ authority.text
  | none => if url.path.toList.take 2 = ['/', '/'] then url.scheme ++ ":/." else url.scheme ++ ":"

/-- The text of an address. -/
def text (url : Url) : String :=
  match url.fragment with
  | none => url.front ++ url.target
  | some fragment => url.front ++ url.target ++ "#" ++ fragment

/-- Whether an address has a host. -/
def hasHost (url : Url) : Bool :=
  match url.authority with
  | some authority => authority.host ≠ .name ""
  | none => false

/-! ## Schemes -/

/-- The schemes that have a host, with the number of the service that is usual. -/
def webSchemes : List (String × Nat) :=
  [("http", 80), ("https", 443), ("ws", 80), ("wss", 443), ("ftp", 21)]

/-- Whether a scheme has a host, and a backslash for a slash. -/
def isWeb (scheme : String) : Bool :=
  (webSchemes.lookup scheme).isSome

/-- Whether a character may stand in the name of a scheme behind its first one. -/
def isSchemeChar (c : Char) : Bool :=
  c.isAlphanum || c = '+' || c = '-' || c = '.'

/-- The scheme of an address in lower case, and the text behind its colon. -/
def splitScheme : List Char → Option (String × List Char)
  | [] => none
  | c :: rest =>
      if c.isAlpha then
        let name := rest.takeWhile isSchemeChar
        match rest.dropWhile isSchemeChar with
        | ':' :: behind => some (String.ofList ((c :: name).map Char.toLower), behind)
        | _ => none
      else none

/-! ## Paths -/

/-- What may not stand in a fragment. -/
def fragmentMarks : List Char := [' ', '"', '<', '>', '\x60']

/-- What may not stand in a path. -/
def pathMarks : List Char := fragmentMarks ++ ['#', '?', '\x7b', '\x7d']

/-- What may not stand in the name of who asks. -/
def userMarks : List Char := pathMarks ++ ['/', ':', ';', '=', '@', '[', '\\', ']', '^', '|']

/-- What may not stand in a query. -/
def queryMarks : List Char := [' ', '"', '#', '<', '>']

/-- What may not stand in the query of a well-known scheme. -/
def webQueryMarks : List Char := '\'' :: queryMarks

/-- A segment with each encoded dot as a dot. -/
def plainDots : List Char → List Char
  | '%' :: '2' :: 'e' :: rest => '.' :: plainDots rest
  | '%' :: '2' :: 'E' :: rest => '.' :: plainDots rest
  | c :: rest => c :: plainDots rest
  | [] => []

/-- Whether a segment names a drive; such a segment is never left again. -/
def isDrive : List Char → Bool
  | [letter, mark] => letter.isAlpha && (mark = ':' || mark = '|')
  | _ => false

/-- Leaves the innermost segment. -/
def leave : List (List Char) → List (List Char)
  | [] => []
  | segment :: outer => if isDrive segment then segment :: outer else outer

/-- Resolves the dotted segments of a path; `outer` are the segments before, the
innermost first. -/
def resolveDots (outer : List (List Char)) : List (List Char) → List (List Char)
  | [] => outer.reverse
  | [segment] =>
      if plainDots segment = ['.', '.'] then ([] :: leave outer).reverse
      else if plainDots segment = ['.'] then ([] :: outer).reverse
      else (segment :: outer).reverse
  | segment :: rest =>
      if plainDots segment = ['.', '.'] then resolveDots (leave outer) rest
      else if plainDots segment = ['.'] then resolveDots outer rest
      else resolveDots (segment :: outer) rest

/-- Whether a character ends a segment of the path of a well-known scheme. -/
def isSlash (c : Char) : Bool :=
  c = '/' || c = '\\'

/-- The segments of a path, from the text behind its first slash. -/
def segments (isSlash : Char → Bool) (cs : List Char) : List (List Char) :=
  (Text.pieces isSlash cs).map (encode pathMarks)

/-- The path of an address, from the text behind its first slash. -/
def pathChars (isSlash : Char → Bool) (cs : List Char) : List Char :=
  (resolveDots [] (segments isSlash cs)).flatMap fun segment => '/' :: segment

/-! ## Who asks, and where -/

/-- The characters before the last at sign, and those behind it. -/
def splitUser (cs : List Char) : Option (List Char × List Char) :=
  let behind := (cs.reverse.takeWhile (· ≠ '@')).reverse
  if cs.contains '@' then some (cs.take (cs.length - behind.length - 1), behind) else none

/-- The characters up to the first colon outside of brackets, and those from there on. -/
def splitHost (inside : Bool) : List Char → List Char × List Char
  | [] => ([], [])
  | c :: rest =>
      if c = ':' && !inside then ([], c :: rest)
      else
        let (host, behind) := splitHost (c = '[' || (inside && c ≠ ']')) rest
        (c :: host, behind)

/-- The number of a service: with the colon before it, and none if there are no digits. -/
def service? : List Char → Option (Option Nat)
  | [] => some none
  | _ :: digits =>
      if digits = [] then some none
      else if digits.all Char.isDigit && Text.spelled 10 digits < 65536 then
        some (some (Text.spelled 10 digits))
      else none

/-- Who asks, and where, if the text is that of a host with a user before it and a number
behind it. -/
def authority? (scheme : String) (cs : List Char) : Option Authority := do
  let (asking, place) := (splitUser cs).getD ([], cs)
  let user := asking.takeWhile (· ≠ ':')
  let secret := (asking.dropWhile (· ≠ ':')).drop 1
  let (name, number) := splitHost false place
  let host ← if isWeb scheme then Host.ofWeb? name else Host.ofOther? name
  if host = .name "" ∧ (cs.contains '@' ∨ number ≠ []) then none
  else
    let service ← service? number
    return {
      user := String.ofList (encode userMarks user)
      password := if secret = [] then none else some (String.ofList (encode userMarks secret))
      host
      service := if service = webSchemes.lookup scheme then none else service }

/-! ## Whole addresses -/

/-- Drops control characters and spaces at the start. -/
def dropControls (cs : List Char) : List Char :=
  cs.dropWhile fun c => c.toNat ≤ 0x20

/-- A text as it counts in an address: without controls and spaces around it, and
without tabs and line breaks. -/
def cleaned (cs : List Char) : List Char :=
  (dropControls (dropControls cs).reverse).reverse.filter fun c =>
    !(c = '\t' || c = '\n' || c = '\r')

/-- A query or a fragment, from the text with the mark before it. -/
def part (marks : List Char) : List Char → Option String
  | [] => none
  | _ :: content => some (String.ofList (encode marks content))

/-- The address with what stands behind its path: a query, a fragment, or both. -/
def withTail (scheme : String) (authority : Option Authority) (path tail : List Char) : Url where
  scheme
  authority
  path := String.ofList path
  query := part (if isWeb scheme || scheme = "file" then webQueryMarks else queryMarks)
    (tail.takeWhile (· ≠ '#'))
  fragment := part fragmentMarks (tail.dropWhile (· ≠ '#'))

/-- Whether a character ends the path. -/
def endsPath (c : Char) : Bool :=
  c = '?' || c = '#'

/-- The address of a well-known scheme, from the text behind its slashes. -/
def ofWeb? (scheme : String) (cs : List Char) : Option Url := do
  let ends (c : Char) : Bool := isSlash c || endsPath c
  let authority ← authority? scheme (cs.takeWhile (!ends ·))
  let behind := cs.dropWhile (!ends ·)
  let path := pathChars isSlash ((behind.takeWhile (!endsPath ·)).drop 1)
  return withTail scheme authority path (behind.dropWhile (!endsPath ·))

/-- The path of a file, and whether it begins with a drive: the drive has a colon behind
it, and there are no slashes before the first segment. -/
def filePath (cs : List Char) : List Char × Bool :=
  let named := match segments isSlash cs with
    | [letter, '|'] :: rest => [letter, if letter.isAlpha then ':' else '|'] :: rest
    | all => all
  let path := (resolveDots [] named).flatMap fun segment => '/' :: segment
  ('/' :: path.dropWhile (· = '/'), named.head?.any isDrive)

/-- The address of a file, from the text behind the colon. -/
def ofFile? (cs : List Char) : Option Url := do
  let path := cs.takeWhile (!endsPath ·)
  let tail := cs.dropWhile (!endsPath ·)
  let start := path.takeWhile isSlash
  let name := (path.drop 2).takeWhile (!isSlash ·)
  if 2 ≤ start.length ∧ name ≠ [] ∧ ¬isDrive name then
    let host ← Host.ofWeb? name
    let (path, onDrive) := filePath (path.drop (name.length + 3))
    let host := if host = .name "localhost" || onDrive then .name "" else host
    return withTail "file" (some ⟨"", none, host, none⟩) path tail
  else
    let (path, _) := filePath (path.drop start.length)
    return withTail "file" (some ⟨"", none, .name "", none⟩) path tail

/-- The address of a scheme that is not known, from the text behind the colon. -/
def ofOther? (scheme : String) (cs : List Char) : Option Url := do
  let before := cs.takeWhile (!endsPath ·)
  let tail := cs.dropWhile (!endsPath ·)
  match before with
  | '/' :: '/' :: rest =>
      let authority ← authority? scheme (rest.takeWhile (· ≠ '/'))
      let path := match rest.dropWhile (· ≠ '/') with
        | [] => []
        | _ :: behind => pathChars (· = '/') behind
      return withTail scheme authority path tail
  | '/' :: rest => return withTail scheme none (pathChars (· = '/') rest) tail
  | _ => return withTail scheme none (encode [] before) tail

/-- The address that a text stands for. -/
def parse? (s : String) : Option Url :=
  match splitScheme (cleaned s.toList) with
  | none => none
  | some (scheme, behind) =>
      if isWeb scheme then ofWeb? scheme (behind.dropWhile isSlash)
      else if scheme = "file" then ofFile? behind
      else ofOther? scheme behind

end Url

end CloudSteward.Http
