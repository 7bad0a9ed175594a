import CloudSteward.Json.Value
import CloudSteward.Text.Digit

/-!
# Writing JSON

The compact form has no blanks; the indented form puts every item and member on
a line of its own, two blanks deeper than the container around it.  Both escape
the same characters of a string: the quote, the backslash, and the controls,
which get their short escapes where they have one.  Everything else stands for
itself.
-/

namespace CloudSteward.Json

/-- The characters that stand for one character of a string. -/
def escapedChar (c : Char) : List Char :=
  if c = '"' then ['\\', '"']
  else if c = '\\' then ['\\', '\\']
  else if c = '\x08' then ['\\', 'b']
  else if c = '\t' then ['\\', 't']
  else if c = '\n' then ['\\', 'n']
  else if c = '\x0c' then ['\\', 'f']
  else if c = '\r' then ['\\', 'r']
  else if c.toNat < 32 then
    ['\\', 'u', '0', '0', Text.hexDigit (c.toNat / 16), Text.hexDigit (c.toNat % 16)]
  else [c]

/-- A string between quotes. -/
def stringChars (s : String) : List Char :=
  '"' :: s.toList.flatMap escapedChar ++ ['"']

/-- The text of a value that is no container. -/
def wordChars (s : String) : List Char :=
  s.toList

/-- How a value is laid out. -/
inductive Layout where
  | compact
  | indented
deriving DecidableEq, Repr

namespace Layout

/-- What separates an item from the bracket or comma before it. -/
def newLine : Layout → Nat → List Char
  | .compact, _ => []
  | .indented, depth => '\n' :: List.replicate (2 * depth) ' '

/-- What separates the name of a member from its value. -/
def colon : Layout → List Char
  | .compact => [':']
  | .indented => [':', ' ']

end Layout

mutual

/-- The text of a value that stands `depth` levels deep. -/
def chars (layout : Layout) (depth : Nat) : Json → List Char
  | .null => wordChars "null"
  | .boolean true => wordChars "true"
  | .boolean false => wordChars "false"
  | .number value => wordChars value.text
  | .string value => stringChars value
  | .array [] => ['[', ']']
  | .array (item :: rest) =>
      '[' :: layout.newLine (depth + 1) ++ chars layout (depth + 1) item ++
        charsOfItems layout depth rest
  | .object [] => ['{', '}']
  | .object ((name, value) :: rest) =>
      '{' :: layout.newLine (depth + 1) ++ stringChars name ++ layout.colon ++
        chars layout (depth + 1) value ++ charsOfMembers layout depth rest

/-- The items that follow the first one, up to the closing bracket. -/
def charsOfItems (layout : Layout) (depth : Nat) : List Json → List Char
  | [] => layout.newLine depth ++ [']']
  | item :: rest =>
      ',' :: layout.newLine (depth + 1) ++ chars layout (depth + 1) item ++
        charsOfItems layout depth rest

/-- The members that follow the first one, up to the closing brace. -/
def charsOfMembers (layout : Layout) (depth : Nat) : List (String × Json) → List Char
  | [] => layout.newLine depth ++ ['}']
  | (name, value) :: rest =>
      ',' :: layout.newLine (depth + 1) ++ stringChars name ++ layout.colon ++
        chars layout (depth + 1) value ++ charsOfMembers layout depth rest

end

/-- The compact text of a value. -/
def compact (value : Json) : String :=
  String.ofList (value.chars .compact 0)

/-- The indented text of a value. -/
def indented (value : Json) : String :=
  String.ofList (value.chars .indented 0)

end CloudSteward.Json
