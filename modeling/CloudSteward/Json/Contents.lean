import CloudSteward.Json.Codec

/-!
# Values without their places

A tree without faults stands for a value.  All values can be read and written, so
there is a codec for them.
-/

namespace CloudSteward.Json

/-- The value of a scalar. -/
def Scalar.contents : Scalar → Json
  | .null => .null
  | .boolean value => .boolean value
  | .number value => .number value
  | .string value => .string value

mutual

/-- The value that a tree stands for, unless it has a fault. -/
def Node.contents? : Node → Option Json
  | .scalar _ _ _ (.ok value) _ => some value.contents
  | .list _ _ items => items.contents?.map .array
  | .map _ _ members => members.contents?.map .object
  | _ => none

def Items.contents? : Items → Option (List Json)
  | .close _ => some []
  | .broken _ _ => none
  | .item value _ rest =>
      match value.contents?, rest.contents? with
      | some value, some rest => some (value :: rest)
      | _, _ => none

def Members.contents? : Members → Option (List (String × Json))
  | .close _ => some []
  | .member (.ok key) _ _ _ value _ rest =>
      match value.contents?, rest.contents? with
      | some value, some rest => some ((key, value) :: rest)
      | _, _ => none
  | _ => none

end

/-- Values of any kind. -/
def codec : Codec Json where
  read _ node :=
    match node.fault?, node.contents? with
    | some fault, _ => .error fault
    | none, some value => .ok value
    | none, none => .error (.placeless .expectedValue)
  write := id

end CloudSteward.Json
