import CloudSteward.Json.Fault
import CloudSteward.Text.Digit

/-!
# Scanning scalars

Words, numbers and strings, from the first glyph to the one behind the last.  A
scalar is scanned for two kinds of reader at once.  One wants its value and
complains about everything that is wrong with it; the other skips it and only
complains if its end cannot be found.  So a `Scan` has a value or a fault for the
first, and possibly an obstacle for the second.
-/

namespace CloudSteward.Json

/-- A value that is no container. -/
inductive Scalar where
  | null
  | boolean (value : Bool)
  | number (value : Number)
  | string (value : String)
deriving DecidableEq, Repr

namespace Scalar

def found : Scalar → Found
  | .null => .null
  | .boolean value => .boolean value
  | .number value => .number value
  | .string value => .string value

end Scalar

/-- The outcome of scanning a scalar. -/
structure Scan where
  /-- The value, or why it cannot be read. -/
  value : Except Fault Scalar
  /-- Why not even the end of the scalar can be found. -/
  obstacle : Option Fault
  /-- The place behind the scalar, and the text from there on. -/
  stop : Nat
  rest : Text

namespace Scan

/-- A scalar that is as it should be. -/
def done (value : Scalar) (stop : Nat) (rest : Text) : Scan :=
  { value := .ok value, obstacle := none, stop, rest }

/-- A scalar whose end is known but whose value is not. -/
def spoiled (fault : Fault) (stop : Nat) (rest : Text) : Scan :=
  { value := .error fault, obstacle := none, stop, rest }

/-- A scalar without an end. -/
def blocked (reading skipping : Fault) : Scan :=
  { value := .error reading, obstacle := some skipping, stop := 0, rest := [] }

end Scan

/-! ## Words -/

/-- Scans the letters that are left of a word. -/
def scanWord (value : Scalar) : List Char → Nat → Text → Scan
  | [], offset, text => .done value offset text
  | _ :: _, offset, [] =>
      .blocked (.placed .endInValue offset) (.placed .endInValue offset)
  | letter :: letters, offset, glyph :: rest =>
      if glyph = .char letter then scanWord value letters (offset + 1) rest
      else .blocked (.placed .expectedWord (offset + 1)) (.placed .expectedWord (offset + 1))

/-! ## Numbers -/

/-- The value of a decimal digit. -/
def digit? : Glyph → Option Nat
  | .char c => if '0' ≤ c ∧ c ≤ '9' then some (c.toNat - '0'.toNat) else none
  | .stray _ => none

/-- The digits at the start of a text, and the text behind them. -/
def takeDigits : Text → List Nat × Text
  | [] => ([], [])
  | glyph :: rest =>
      match digit? glyph with
      | none => ([], glyph :: rest)
      | some digit =>
          let (digits, left) := takeDigits rest
          (digit :: digits, left)

/-- The fault of a text that goes on with something else than a digit.  At the
end of the text a reader that wants the value says so, and one that skips it
calls the number invalid. -/
def noDigit (offset : Nat) : Text → Scan
  | [] => .blocked (.placed .endInValue offset) (.placed .invalidNumber offset)
  | _ :: _ =>
      .blocked (.placed .invalidNumber (offset + 1)) (.placed .invalidNumber (offset + 1))

/-- The value of a complete numeral that ends at `stop`; the digits of its
exponent begin at `exponentStart`. -/
def finishNumber (numeral : Numeral) (exponentStart stop : Nat) (rest : Text) : Scan :=
  match numeral.value with
  | .ok value => .done (.number value) stop rest
  | .error outOfRange =>
      let place := match outOfRange.exponentDigits with
        | some count => exponentStart + count
        | none => stop
      .spoiled (.placed .numberOutOfRange place) stop rest

/-- Scans the exponent of a number, if there is one. -/
def scanExponent (negative : Bool) (whole : List Nat) (fraction : Option (List Nat))
    (offset : Nat) (text : Text) : Scan :=
  let marked := match text with
    | .char 'e' :: rest => some rest
    | .char 'E' :: rest => some rest
    | _ => none
  match marked with
  | none => finishNumber { negative, whole, fraction, exponent := none } offset offset text
  | some rest =>
      let (down, start, digitsText) := match rest with
        | .char '+' :: left => (false, offset + 2, left)
        | .char '-' :: left => (true, offset + 2, left)
        | _ => (false, offset + 1, rest)
      match takeDigits digitsText with
      | ([], left) => noDigit start left
      | (digits, left) =>
          finishNumber { negative, whole, fraction, exponent := some (down, digits) }
            start (start + digits.length) left

/-- Scans the fraction of a number, if there is one, and what follows it. -/
def scanFraction (negative : Bool) (whole : List Nat) (offset : Nat) : Text → Scan
  | .char '.' :: rest =>
      match takeDigits rest with
      | ([], left) => noDigit (offset + 1) left
      | (digits, left) =>
          scanExponent negative whole (some digits) (offset + 1 + digits.length) left
  | text => scanExponent negative whole none offset text

/-- Scans a number without its sign.  A zero at the start stands alone. -/
def scanUnsigned (negative : Bool) (offset : Nat) (text : Text) : Scan :=
  match takeDigits text with
  | ([], left) => noDigit offset left
  | (0 :: _ :: _, _) =>
      .blocked (.placed .invalidNumber (offset + 2)) (.placed .invalidNumber (offset + 2))
  | (digits, left) => scanFraction negative digits (offset + digits.length) left

/-- Scans a number. -/
def scanNumber (offset : Nat) : Text → Scan
  | .char '-' :: rest => scanUnsigned true (offset + 1) rest
  | text => scanUnsigned false offset text

/-! ## Strings -/

/-- The value of a hexadecimal digit. -/
def hexDigit? (glyph : Glyph) : Option Nat :=
  glyph.char?.bind Text.digitValue?

/-- The 16-bit unit that four hexadecimal digits spell. -/
def hexUnit? (a b c d : Glyph) : Option Nat := do
  let a ← hexDigit? a
  let b ← hexDigit? b
  let c ← hexDigit? c
  let d ← hexDigit? d
  return ((a * 16 + b) * 16 + c) * 16 + d

/-- The fault of an escape that lacks its four hexadecimal digits.  The four
bytes are looked at together, if there are four. -/
def hexFault (offset : Nat) (text : Text) : Fault :=
  if 4 ≤ text.size then .placed .invalidEscape (offset + 4)
  else .placed .endInString (offset + text.size)

/-- The fault of a leading surrogate that is not followed by a trailing one. -/
def surrogateFault (offset : Nat) : Text → Fault
  | [] => .placed .endInString offset
  | [.char '\\'] => .placed .endInString (offset + 1)
  | .char '\\' :: .char 'u' :: rest =>
      match rest with
      | a :: b :: c :: d :: _ =>
          if (hexUnit? a b c d).isSome then .placed .loneSurrogate (offset + 6)
          else hexFault (offset + 2) rest
      | _ => hexFault (offset + 2) rest
  | .char '\\' :: _ :: _ => .placed .endInHexEscape (offset + 2)
  | _ :: _ => .placed .endInHexEscape (offset + 1)

def isLeadingSurrogate (unit : Nat) : Bool :=
  0xD800 ≤ unit && unit ≤ 0xDBFF

def isTrailingSurrogate (unit : Nat) : Bool :=
  0xDC00 ≤ unit && unit ≤ 0xDFFF

/-- The character that a pair of surrogates spells. -/
def pairedChar (leading trailing : Nat) : Char :=
  Char.ofNat ((leading - 0xD800) * 0x400 + (trailing - 0xDC00) + 0x10000)

/-- The character of an escape with one letter. -/
def shortEscape? (c : Char) : Option Char :=
  if c = '"' then some '"'
  else if c = '\\' then some '\\'
  else if c = '/' then some '/'
  else if c = 'b' then some '\x08'
  else if c = 'f' then some '\x0c'
  else if c = 'n' then some '\n'
  else if c = 'r' then some '\r'
  else if c = 't' then some '\t'
  else none

/-- The trailing surrogate that an escape at the start of a text spells. -/
def trailingSurrogate? : Text → Option Nat
  | .char '\\' :: .char 'u' :: a :: b :: c :: d :: _ =>
      (hexUnit? a b c d).filter isTrailingSurrogate
  | _ => none

/-- What is known of a string while it is scanned: its characters in reverse,
unless there were stray bytes; a leading surrogate that waits for its partner;
and the first fault that spoils the value. -/
structure StringSoFar where
  reversed : Option (List Char)
  leading : Option Nat
  fault : Option Fault

namespace StringSoFar

def start : StringSoFar := { reversed := some [], leading := none, fault := none }

def push (string : StringSoFar) (c : Char) : StringSoFar :=
  { string with reversed := string.reversed.map (c :: ·) }

def pushStray (string : StringSoFar) : StringSoFar :=
  { string with reversed := none }

def spoil (string : StringSoFar) (fault : Fault) : StringSoFar :=
  { string with fault := some (string.fault.getD fault) }

/-- Adds the unit of an escape that ends at `offset`. -/
def pushUnit (string : StringSoFar) (unit offset : Nat) : StringSoFar :=
  if isTrailingSurrogate unit then
    match string.leading with
    | some leading => { string.push (pairedChar leading unit) with leading := none }
    | none => string.spoil (.placed .loneSurrogate offset)
  else if isLeadingSurrogate unit then { string with leading := some unit }
  else string.push (Char.ofNat unit)

/-- Gives up a leading surrogate that the text at hand does not complete. -/
def checkPartner (string : StringSoFar) (offset : Nat) (text : Text) : StringSoFar :=
  if string.leading.isSome && (trailingSurrogate? text).isNone then
    { string.spoil (surrogateFault offset text) with leading := none }
  else string

/-- The string is complete. -/
def finish (string : StringSoFar) (stop : Nat) (rest : Text) : Scan :=
  match string.fault, string.reversed with
  | some fault, _ => .spoiled fault stop rest
  | none, none => .spoiled (.placed .invalidCodePoint stop) stop rest
  | none, some reversed => .done (.string (String.ofList reversed.reverse)) stop rest

/-- The end of the string cannot be found. -/
def block (string : StringSoFar) (reading skipping : Fault) : Scan :=
  .blocked (string.fault.getD reading) skipping

end StringSoFar

/-- Scans a string behind its opening quote. -/
def scanString (sofar : StringSoFar) (offset : Nat) (text : Text) : Scan :=
  let string := sofar.checkPartner offset text
  match text with
  | [] => string.block (.placed .endInString offset) (.placed .endInString offset)
  | .stray _ :: rest => scanString string.pushStray (offset + 1) rest
  | .char c :: rest =>
      if c = '"' then string.finish (offset + 1) rest
      else if c.toNat < 32 then
        string.block (.placed .controlCharacter (offset + 1)) (.placed .controlCharacter offset)
      else if c = '\\' then
        match rest with
        | [] =>
            string.block (.placed .endInString (offset + 1)) (.placed .endInString (offset + 1))
        | .char 'u' :: a :: b :: c :: d :: behind =>
            match hexUnit? a b c d with
            | some unit => scanString (string.pushUnit unit (offset + 6)) (offset + 6) behind
            | none =>
                let fault := hexFault (offset + 2) (a :: b :: c :: d :: behind)
                string.block fault fault
        | .char 'u' :: behind =>
            let fault := hexFault (offset + 2) behind
            string.block fault fault
        | glyph :: behind =>
            match glyph.char?.bind shortEscape? with
            | some meant => scanString (string.push meant) (offset + 2) behind
            | none =>
                string.block (.placed .invalidEscape (offset + 2))
                  (.placed .invalidEscape (offset + 2))
      else scanString (string.push c) (offset + c.utf8Size) rest
termination_by structural text

/-! ## All of them -/

/-- Scans the scalar that begins with the given glyph; nothing if none does. -/
def scanScalar? (offset : Nat) : Text → Option Scan
  | [] => none
  | .char 'n' :: rest => some (scanWord .null ['u', 'l', 'l'] (offset + 1) rest)
  | .char 't' :: rest => some (scanWord (.boolean true) ['r', 'u', 'e'] (offset + 1) rest)
  | .char 'f' :: rest =>
      some (scanWord (.boolean false) ['a', 'l', 's', 'e'] (offset + 1) rest)
  | .char '"' :: rest => some (scanString .start (offset + 1) rest)
  | glyph :: rest =>
      if glyph = .char '-' ∨ (digit? glyph).isSome then some (scanNumber offset (glyph :: rest))
      else none

end CloudSteward.Json
