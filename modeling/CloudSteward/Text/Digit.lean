/-!
# Digits

Digits and what they spell, for every radix up to sixteen.
-/

namespace CloudSteward.Text

/-- A hexadecimal digit, in lower case. -/
def hexDigit (value : Nat) : Char :=
  (['0', '1', '2', '3', '4', '5', '6', '7', '8', '9',
    'a', 'b', 'c', 'd', 'e', 'f'][value]?).getD '0'

/-- The value of a hexadecimal digit. -/
def digitValue? (c : Char) : Option Nat :=
  if '0' ≤ c ∧ c ≤ '9' then some (c.toNat - '0'.toNat)
  else if 'a' ≤ c ∧ c ≤ 'f' then some (c.toNat - 'a'.toNat + 10)
  else if 'A' ≤ c ∧ c ≤ 'F' then some (c.toNat - 'A'.toNat + 10)
  else none

/-- Whether a character is a digit in the given radix. -/
def isDigitIn (radix : Nat) (c : Char) : Bool :=
  match digitValue? c with
  | some value => value < radix
  | none => false

/-- The number that digits spell. -/
def spelled (radix : Nat) (digits : List Char) : Nat :=
  digits.foldl (fun number c => number * radix + (digitValue? c).getD 0) 0

/-- The number that a text spells, if it consists of digits. -/
def numeral? (radix : Nat) (cs : List Char) : Option Nat :=
  if cs.all (isDigitIn radix) then some (spelled radix cs) else none

end CloudSteward.Text
