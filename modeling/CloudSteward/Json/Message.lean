import CloudSteward.Json.Fault
import CloudSteward.Text.Quoted

/-!
# The words for what is wrong

The text of each complaint, and of an error with its line and column.
-/

namespace CloudSteward.Json

/-- A name between back quotes. -/
def ticked (name : String) : String :=
  "\x60" ++ name ++ "\x60"

namespace Found

def text : Found → String
  | .null => "null"
  | .boolean value => "boolean " ++ ticked (if value then "true" else "false")
  | .number (.integer value) => "integer " ++ ticked (Number.text (.integer value))
  | .number (.double bits) => "floating point " ++ ticked (Number.text (.double bits))
  | .string value => "string " ++ Text.quoted value
  | .list => "sequence"
  | .map => "map"

end Found

/-- The choices that a message offers: one or two by name, more as a list. -/
def choices : List String → String
  | [] => "there are no variants"
  | [only] => "expected " ++ ticked only
  | [first, second] => "expected " ++ ticked first ++ " or " ++ ticked second
  | names => "expected one of " ++ ", ".intercalate (names.map ticked)

namespace Complaint

def text : Complaint → String
  | .endInValue => "EOF while parsing a value"
  | .endInMap => "EOF while parsing an object"
  | .endInList => "EOF while parsing a list"
  | .endInString => "EOF while parsing a string"
  | .expectedValue => "expected value"
  | .expectedWord => "expected ident"
  | .expectedColon => "expected " ++ ticked ":"
  | .expectedCommaOrBrace => "expected " ++ ticked "," ++ " or " ++ ticked "\x7d"
  | .expectedCommaOrBracket => "expected " ++ ticked "," ++ " or " ++ ticked "]"
  | .keyNotString => "key must be a string"
  | .trailingComma => "trailing comma"
  | .trailingCharacters => "trailing characters"
  | .invalidNumber => "invalid number"
  | .numberOutOfRange => "number out of range"
  | .invalidEscape => "invalid escape"
  | .loneSurrogate => "lone leading surrogate in hex escape"
  | .endInHexEscape => "unexpected end of hex escape"
  | .invalidCodePoint => "invalid unicode code point"
  | .controlCharacter =>
      "control character (\\u0000-\\u001F) found while parsing a string"
  | .tooDeep => "recursion limit exceeded"
  | .missingField name => "missing field " ++ ticked name
  | .duplicateField name => "duplicate field " ++ ticked name
  | .wrongType found expected => "invalid type: " ++ found.text ++ ", expected " ++ expected
  | .wrongValue found expected => "invalid value: " ++ found.text ++ ", expected " ++ expected
  | .wrongLength length expected =>
      "invalid length " ++ toString length ++ ", expected " ++ expected
  | .unknownVariant name known =>
      "unknown variant " ++ ticked name ++ ", " ++ choices known
  | .other text => text

end Complaint

namespace Error

/-- The complaint, followed by the position if there is one. -/
def message (error : Error) : String :=
  match error.position with
  | none => error.complaint.text
  | some position =>
      error.complaint.text ++ " at line " ++ toString position.line ++
        " column " ++ toString position.column

end Error

end CloudSteward.Json
