import CloudSteward.Files.Action
import CloudSteward.Wire.Resource

/-!
# Manifests in a directory

Every resource has a manifest of its own in one directory: a file that is named
for its key.  A manifest is written under a hidden name first and is then moved
into place, so that nobody ever reads half of one.
-/

namespace CloudSteward

/-- Why the store fails. -/
inductive StoreError where
  | io (fault : FileFault)
  /-- The manifest of a key is no resource. -/
  | malformed (key : String) (error : Json.Error)
  | notFound (key : String)
deriving DecidableEq

namespace Store

/-- What the names of manifests end in. -/
def ending : String := ".json"

/-- The file of a key. -/
def path (key : String) : String :=
  key ++ ending

/-- The hidden file that becomes the file of a key. -/
def draftPath (key : String) : String :=
  "." ++ key ++ ending ++ ".tmp"

/-- The key whose manifest has a given name.  Names that begin with a dot belong to
no manifest. -/
def keyOf? (name : String) : Option String :=
  let cs := name.toList
  let stem := cs.take (cs.length - ending.length)
  if stem ++ ending.toList = cs ∧ stem ≠ [] ∧ stem.head? ≠ some '.' then some (String.ofList stem)
  else none

/-- The address of a file below a directory; an absolute one needs no directory. -/
def address (home path : String) : String :=
  if path.toList.head? = some '/' then path
  else if home.toList.getLast? = some '/' then home ++ path
  else home ++ "/" ++ path

end Store

namespace StoreError

/-- The text of an error in the store at `home`. -/
def text (home : String) : StoreError → String
  | .io fault => "I/O error: " ++ fault.text
  | .malformed key error =>
      "failed to decode " ++ Store.address home (Store.path key) ++ ": " ++ error.message
  | .notFound key => "not found: " ++ key

end StoreError

namespace Store

/-- Keys in ascending order. -/
def sortKeys (keys : List String) : List String :=
  keys.mergeSort fun first second => first ≤ second

/-- Creates the directory unless it is there. -/
def ensureHome : FileProgram (Except StoreError Unit) := do
  return (← FileAction.create.perform).mapError .io

/-- The keys of all manifests in ascending order. -/
def keys : FileProgram (Except FileFault (List String)) := do
  let listed ← FileAction.list.perform
  return listed.map fun (names : List String) => sortKeys (names.filterMap keyOf?)

/-- Reads the resource of a key. -/
def get (key : String) : FileProgram (Except StoreError Resource) := do
  match ← (FileAction.read (path key)).perform with
  | .error .missing => return .error (.notFound key)
  | .error fault => return .error (.io fault)
  | .ok content => return (Resource.codec.decode content).mapError (.malformed key)

/-- The content of the manifest of a resource. -/
def content (resource : Resource) : Text :=
  Text.ofString (Resource.codec.encodeIndented resource)

/-- Writes the manifest of a resource and moves it into place. -/
def put (key : String) (resource : Resource) : FileProgram (Except StoreError Unit) := do
  match ← (FileAction.write (draftPath key) (content resource)).perform with
  | .error fault => return .error (.io fault)
  | .ok () => return (← (FileAction.rename (draftPath key) (path key)).perform).mapError .io

end Store

end CloudSteward
