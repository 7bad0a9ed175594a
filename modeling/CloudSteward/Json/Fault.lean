import CloudSteward.Json.Number
import CloudSteward.Text

/-!
# Faults of a JSON text

A fault is a complaint together with the place where it was noticed, counted in
bytes.  Complaints about values that are looked at after they were read as a
whole have no place.  `Fault.locate` turns a fault into the error that a user
sees.
-/

namespace CloudSteward.Json

/-- What a text holds where something else was expected. -/
inductive Found where
  | null
  | boolean (value : Bool)
  | number (value : Number)
  | string (value : String)
  | list
  | map
deriving DecidableEq, Repr

/-- What is wrong with a text. -/
inductive Complaint where
  | endInValue
  | endInMap
  | endInList
  | endInString
  | expectedValue
  | expectedWord
  | expectedColon
  | expectedCommaOrBrace
  | expectedCommaOrBracket
  | keyNotString
  | trailingComma
  | trailingCharacters
  | invalidNumber
  | numberOutOfRange
  | invalidEscape
  | loneSurrogate
  | endInHexEscape
  | invalidCodePoint
  | controlCharacter
  | tooDeep
  | missingField (name : String)
  | duplicateField (name : String)
  | wrongType (found : Found) (expected : String)
  | wrongValue (found : Found) (expected : String)
  | wrongLength (length : Nat) (expected : String)
  | unknownVariant (name : String) (known : List String)
  /-- A complaint of the type that is being read. -/
  | other (text : String)
deriving DecidableEq, Repr

/-- A complaint, and how many bytes had been read when it arose. -/
structure Fault where
  complaint : Complaint
  offset : Option Nat
deriving DecidableEq, Repr

/-- A complaint and its position. -/
structure Error where
  complaint : Complaint
  position : Option Position
deriving DecidableEq, Repr

namespace Fault

/-- A complaint that arose at a known place. -/
def placed (complaint : Complaint) (offset : Nat) : Fault :=
  { complaint, offset := some offset }

/-- A complaint without a place. -/
def placeless (complaint : Complaint) : Fault :=
  { complaint, offset := none }

/-- Gives a fault a place unless it has one. -/
def settle (fault : Fault) (offset : Nat) : Fault :=
  { fault with offset := some (fault.offset.getD offset) }

/-- The fault as an error about the given text. -/
def locate (fault : Fault) (text : Text) : Error :=
  { complaint := fault.complaint, position := fault.offset.map text.position }

end Fault

end CloudSteward.Json
