import CloudSteward.Text.Digit
import CloudSteward.Text.Pieces

/-!
# Numeric hosts

Hosts that are numbers.  One with four bytes is written as numbers between points: up
to three of them are bytes, and the last one takes all bytes that are left; each may be
hexadecimal or octal.  One with eight units of sixteen bits is written as hexadecimal
units between colons, where two colons in a row stand for units of zero; its last two
units may be written as four decimal bytes.
-/

namespace CloudSteward.Http.Numeric

open Text

/-! ## Four bytes -/

/-- The number that a text spells: in hexadecimal digits behind a zero and an x, in octal
ones behind a zero, else in decimal ones. -/
def number? : List Char → Option Nat
  | [] => none
  | '0' :: 'x' :: digits => numeral? 16 digits
  | '0' :: 'X' :: digits => numeral? 16 digits
  | '0' :: digit :: digits => numeral? 8 (digit :: digits)
  | digits => numeral? 10 digits

/-- The texts between the points of a host; a point at its end counts for nothing. -/
def labels (cs : List Char) : List (List Char) :=
  let all := pieces (· = '.') cs
  if all.getLast? = some [] then all.dropLast else all

/-- Whether a host can only be a number, because what stands last in it is one. -/
def endsInNumber (cs : List Char) : Bool :=
  match (labels cs).getLast? with
  | none => false
  | some last => (last ≠ [] && last.all Char.isDigit) || (number? last).isSome

/-- The number of a host, if it is one of four bytes. -/
def four? (cs : List Char) : Option Nat := do
  let numbers ← (labels cs).mapM number?
  let last ← numbers.getLast?
  let bytes := numbers.dropLast
  if bytes.length < 4 ∧ bytes.all (· < 256) ∧ last < Nat.pow 256 (4 - bytes.length) then
    some (bytes.zipIdx.foldl
      (fun number (byte, place) => number + byte * Nat.pow 256 (3 - place)) last)
  else none

/-- The four bytes of a number, in decimal digits and with points between them. -/
def fourText (number : Nat) : String :=
  ".".intercalate
    ([number / 16777216, number / 65536 % 256, number / 256 % 256, number % 256].map toString)

/-! ## Eight units -/

/-- The texts before and behind the first two colons in a row. -/
def halves : List Char → List Char × Option (List Char)
  | ':' :: ':' :: rest => ([], some rest)
  | c :: rest => (c :: (halves rest).1, (halves rest).2)
  | [] => ([], none)

/-- The value of a decimal byte without a zero before it. -/
def byte? (cs : List Char) : Option Nat :=
  if cs = [] ∨ (cs.head? = some '0' ∧ cs.length ≠ 1) then none
  else (numeral? 10 cs).filter (· < 256)

/-- The two units of four decimal bytes. -/
def bytePair? (cs : List Char) : Option (List Nat) := do
  match ← (pieces (· = '.') cs).mapM byte? with
  | [first, second, third, fourth] => some [first * 256 + second, third * 256 + fourth]
  | _ => none

/-- The value of a unit. -/
def unit? (cs : List Char) : Option Nat :=
  if cs = [] ∨ 4 < cs.length then none else numeral? 16 cs

/-- The units between single colons; the last may be four bytes if `closing`. -/
def unitsOf? (closing : Bool) : List (List Char) → Option (List Nat)
  | [] => some []
  | [last] => if closing && last.contains '.' then bytePair? last else (unit? last).map ([·])
  | first :: rest => do
      let unit ← unit? first
      let units ← unitsOf? closing rest
      return unit :: units

/-- The units in a text between single colons. -/
def units? (closing : Bool) (cs : List Char) : Option (List Nat) :=
  if cs = [] then some [] else unitsOf? closing (pieces (· = ':') cs)

/-- The units of a host, if it is one of eight units. -/
def eight? (cs : List Char) : Option (List Nat) :=
  match halves cs with
  | (_, none) => (units? true cs).filter (·.length = 8)
  | (front, some back) => do
      let first ← units? false front
      let last ← units? true back
      if first.length + last.length < 8 then
        some (first ++ List.replicate (8 - first.length - last.length) 0 ++ last)
      else none

/-- The number of zeros at the start of units. -/
def zerosAt (units : List Nat) : Nat :=
  (units.takeWhile (· = 0)).length

/-- Where the first of the longest rows of zeros is, if one has two zeros or more: the
units before it, and those behind it. -/
def aroundZeros? (units : List Nat) : Option (List Nat × List Nat) :=
  let rows := (List.range units.length).map fun place => zerosAt (units.drop place)
  let longest := rows.foldl max 0
  if longest < 2 then none
  else (rows.idxOf? longest).map fun place => (units.take place, units.drop (place + longest))

/-- Units in hexadecimal digits and with colons between them. -/
def unitsText (units : List Nat) : String :=
  ":".intercalate (units.map fun unit => String.ofList (Nat.toDigits 16 unit))

/-- The text of eight units, with two colons for the longest row of zeros. -/
def eightText (units : List Nat) : String :=
  match aroundZeros? units with
  | none => unitsText units
  | some (front, back) => unitsText front ++ "::" ++ unitsText back

end CloudSteward.Http.Numeric
