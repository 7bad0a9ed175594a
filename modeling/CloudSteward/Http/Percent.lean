import CloudSteward.Text
import CloudSteward.Text.Digit

/-!
# Percent signs

A character that may not stand in a part of an address is replaced by a percent sign
and two digits for each of its bytes.
-/

namespace CloudSteward.Http

/-- A hexadecimal digit, in upper case. -/
def upperHexDigit (value : Nat) : Char :=
  (Text.hexDigit value).toUpper

/-- A character as a percent sign and two digits for each of its bytes. -/
def percentChars (c : Char) : List Char :=
  (String.utf8EncodeChar c).flatMap fun byte =>
    ['%', upperHexDigit (byte.toNat / 16), upperHexDigit (byte.toNat % 16)]

/-- Whether a character may stand in no part of an address. -/
def isNeverPlain (c : Char) : Bool :=
  c.toNat < 0x20 || 0x7F ≤ c.toNat

/-- Encodes the characters that may stand nowhere, and those in `marks`. -/
def encode (marks : List Char) (cs : List Char) : List Char :=
  cs.flatMap fun c => if isNeverPlain c || marks.contains c then percentChars c else [c]

/-- The bytes of a text in which a percent sign and two digits stand for a byte. -/
def percentBytes : List Char → List UInt8
  | [] => []
  | '%' :: high :: low :: rest =>
      match Text.digitValue? high, Text.digitValue? low with
      | some first, some second => UInt8.ofNat (first * 16 + second) :: percentBytes rest
      | _, _ => String.utf8EncodeChar '%' ++ percentBytes (high :: low :: rest)
  | c :: rest => String.utf8EncodeChar c ++ percentBytes rest

/-- A text without percent signs, unless its bytes spell no characters. -/
def decoded? (cs : List Char) : Option (List Char) :=
  if cs.contains '%' then (Text.ofBytes ⟨(percentBytes cs).toArray⟩).chars? else some cs

end CloudSteward.Http
