import CloudSteward.Json.Number

/-!
# JSON values

Values as they are written.  The members of an object keep their order, because
the text of a record depends on it.
-/

namespace CloudSteward

/-- A JSON value. -/
inductive Json where
  | null
  | boolean (value : Bool)
  | number (value : Json.Number)
  | string (value : String)
  | array (items : List Json)
  | object (members : List (String × Json))

namespace Json

/-- The member of an object with the given name. -/
def member? (name : String) : Json → Option Json
  | .object members => members.lookup name
  | _ => none

end Json

end CloudSteward
