import CloudSteward.Decimal.Shortest

/-!
# Numbers as they are read

A number without point and exponent is an integer if it fits 64 bits, signed or
unsigned; everything else is a double.  Doubles are kept by their bits, so that
numbers can be compared.  A double is built from at most the digits that fit 64
bits and one scaling step by a power of ten; that is how the format defines its
value, also where a more careful conversion would differ in the last bit.
-/

namespace CloudSteward.Json

/-- A number that has been read. -/
inductive Number where
  | integer (value : Int)
  /-- A double, given by its bits. -/
  | double (bits : UInt64)
deriving DecidableEq, Repr

/-- Doubles are positional from five places behind the point up to sixteen
before it, and have an exponent elsewhere. -/
def doubleFormat : Decimal.FloatFormat where
  leastPositional := -5
  greatestPositional := 15

namespace Number

def text : Number → String
  | .integer value => toString value
  | .double bits => doubleFormat.text bits

end Number

/-- What a number is spelled with: its sign, the digits before and behind the
point, and the exponent with its sign. -/
structure Numeral where
  negative : Bool
  whole : List Nat
  fraction : Option (List Nat)
  exponent : Option (Bool × List Nat)
deriving DecidableEq, Repr

namespace Numeral

/-- The greatest significand that is kept exactly. -/
def significandLimit : Nat := 18446744073709551615

/-- The greatest exponent that is kept exactly. -/
def exponentLimit : Nat := 2147483647

/-- The greatest magnitude of a negative integer. -/
def negativeLimit : Nat := 9223372036854775808

/-- Appends digits to a significand while the result fits; gives the significand
and the number of digits that were left out. -/
def accumulate : Nat → List Nat → Nat × Nat
  | significand, [] => (significand, 0)
  | significand, digit :: rest =>
      if significandLimit < significand * 10 + digit then (significand, rest.length + 1)
      else accumulate (significand * 10 + digit) rest

/-- Reads the digits of an exponent.  When they exceed the limit the result is
the number of digits that were read until then. -/
def readExponent : Nat → Nat → List Nat → Except Nat Nat
  | value, _, [] => .ok value
  | value, count, digit :: rest =>
      if exponentLimit < value * 10 + digit then .error (count + 1)
      else readExponent (value * 10 + digit) (count + 1) rest

/-- A power of ten with an exponent of at most 308. -/
private def powerOfTen (exponent : Nat) : Float :=
  Float.ofScientific 1 false exponent

/-- Divides by a power of ten, in steps of at most 308 places. -/
private def scaleDown (value : Float) (exponent : Nat) : Float :=
  if exponent ≤ 308 then value / powerOfTen exponent
  else if value == 0.0 then value
  else scaleDown (value / powerOfTen 308) (exponent - 308)
termination_by exponent

/-- The magnitude `significand · 10 ^ exponent`, unless it is out of range. -/
private def scale (significand : Nat) (exponent : Int) : Option Float :=
  let value := significand.toUInt64.toFloat
  if exponent < 0 then some (scaleDown value (-exponent).toNat)
  else if 308 < exponent then if value == 0.0 then some value else none
  else
    let scaled := value * powerOfTen exponent.toNat
    if scaled.isInf then none else some scaled

private def signed (negative : Bool) (magnitude : Float) : Number :=
  .double (if negative then -magnitude else magnitude).toBits

/-- Why a numeral has no value: it is out of range.  The count tells how many
digits of the exponent were read when that was noticed; without one, all of the
numeral was. -/
structure OutOfRange where
  exponentDigits : Option Nat
deriving DecidableEq, Repr

/-- The double that a numeral denotes. -/
private def double (numeral : Numeral) : Except OutOfRange Number :=
  let (whole, left) := accumulate 0 numeral.whole
  let digits := numeral.fraction.getD []
  let (significand, dropped) := accumulate whole digits
  let places : Int := (left : Int) - (digits.length - dropped : Nat)
  let build (exponent : Int) : Except OutOfRange Number :=
    match scale significand exponent with
    | some magnitude => .ok (signed numeral.negative magnitude)
    | none => .error ⟨none⟩
  match numeral.exponent with
  | none => build places
  | some (down, exponentDigits) =>
      match readExponent 0 0 exponentDigits with
      | .ok exponent => build (if down then places - exponent else places + exponent)
      | .error count =>
          if significand = 0 ∨ down then .ok (signed numeral.negative 0.0)
          else .error ⟨some count⟩

/-- The value of a numeral. -/
def value (numeral : Numeral) : Except OutOfRange Number :=
  if numeral.fraction.isSome || numeral.exponent.isSome then numeral.double
  else
    let (whole, left) := accumulate 0 numeral.whole
    if left ≠ 0 then numeral.double
    else if numeral.negative then
      if whole = 0 ∨ negativeLimit < whole then .ok (signed true whole.toUInt64.toFloat)
      else .ok (.integer (-(whole : Int)))
    else .ok (.integer whole)

end Numeral

end CloudSteward.Json
