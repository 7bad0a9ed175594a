/-!
# The shortest decimal of a binary floating point number

A double stands for every real number that rounds to it.  Its shortest decimal
is the one with the fewest digits among the decimals in that interval, and of
those the nearest to the double itself.  Everything here is exact arithmetic on
natural numbers: a double is `significand · 2 ^ exponent`, and a candidate with
`n` digits is one of the two neighbours of that value on the grid of decimals
with `n` digits.
-/

namespace CloudSteward.Decimal

/-- The decimal `digits · 10 ^ exponent`. -/
structure Scaled where
  digits : Nat
  exponent : Int
deriving DecidableEq, Repr

/-- A fraction of natural numbers; the denominator is never zero here. -/
structure Fraction where
  numerator : Nat
  denominator : Nat
deriving DecidableEq, Repr

namespace Fraction

/-- The fraction `count · base ^ exponent`. -/
def power (count base : Nat) (exponent : Int) : Fraction :=
  if 0 ≤ exponent then ⟨count * Nat.pow base exponent.toNat, 1⟩
  else ⟨count, Nat.pow base (-exponent).toNat⟩

def lt (a b : Fraction) : Bool :=
  a.numerator * b.denominator < b.numerator * a.denominator

def le (a b : Fraction) : Bool :=
  a.numerator * b.denominator ≤ b.numerator * a.denominator

/-- The distance between two fractions. -/
def distance (a b : Fraction) : Fraction :=
  let x := a.numerator * b.denominator
  let y := b.numerator * a.denominator
  ⟨(x - y) + (y - x), a.denominator * b.denominator⟩

end Fraction

/-- A positive finite double: `significand · 2 ^ exponent`. -/
structure Binary where
  significand : Nat
  exponent : Int
deriving DecidableEq, Repr

namespace Binary

/-- The least significand that has all its fifty-three binary digits. -/
def fullSignificand : Nat := Nat.pow 2 52

/-- How many values the exponent bits of a double have. -/
def exponentValues : Nat := Nat.pow 2 11

/-- Whether the sign bit of a double is set. -/
def isNegative (bits : UInt64) : Bool :=
  fullSignificand * exponentValues ≤ bits.toNat

/-- The value that the magnitude bits of a double encode. -/
def ofBits (bits : UInt64) : Binary :=
  let fraction : Nat := bits.toNat % fullSignificand
  let biased : Nat := bits.toNat / fullSignificand % exponentValues
  if biased = 0 then ⟨fraction, -1074⟩
  else ⟨fullSignificand + fraction, (biased : Int) - 1075⟩

def value (x : Binary) : Fraction :=
  .power x.significand 2 x.exponent

/-- The least real number that rounds to `x`, or the greatest that does not. -/
def lower (x : Binary) : Fraction :=
  if x.significand = fullSignificand ∧ -1074 < x.exponent then
    .power (4 * x.significand - 1) 2 (x.exponent - 2)
  else .power (4 * x.significand - 2) 2 (x.exponent - 2)

/-- The greatest real number that rounds to `x`, or the least that does not. -/
def upper (x : Binary) : Fraction :=
  .power (4 * x.significand + 2) 2 (x.exponent - 2)

/-- Whether a real number rounds to `x`; a tie goes to the even significand. -/
def rounds (x : Binary) (a : Fraction) : Bool :=
  if x.significand % 2 = 0 then x.lower.le a && a.le x.upper
  else x.lower.lt a && a.lt x.upper

end Binary

/-- The number of steps of ten that lift a fraction to one or more. -/
private def stepsToOne (a : Fraction) : Nat → Nat
  | 0 => 0
  | fuel + 1 =>
      if a.denominator ≤ a.numerator then 0
      else stepsToOne ⟨a.numerator * 10, a.denominator⟩ fuel + 1

/-- The exponent of the first decimal digit of a positive fraction. -/
def leadingExponent (a : Fraction) : Int :=
  if a.denominator ≤ a.numerator then
    (Nat.toDigits 10 (a.numerator / a.denominator)).length - 1
  else -(stepsToOne a 400 : Int)

/-- The neighbours of `a` on the grid of multiples of `10 ^ exponent`. -/
private def neighbours (a : Fraction) (exponent : Int) : Nat × Nat :=
  let grid := Fraction.power 1 10 exponent
  let below := a.numerator * grid.denominator / (a.denominator * grid.numerator)
  (below, below + 1)

/-- The better of the two neighbours that round to `x`; of two equally near ones
the even one. -/
private def onGrid (x : Binary) (exponent : Int) : Option Scaled :=
  let (below, above) := neighbours x.value exponent
  let lowCandidate := Fraction.power below 10 exponent
  let highCandidate := Fraction.power above 10 exponent
  let low := Scaled.mk below exponent
  let high := Scaled.mk above exponent
  match x.rounds lowCandidate, x.rounds highCandidate with
  | true, true =>
      let toLow := x.value.distance lowCandidate
      let toHigh := x.value.distance highCandidate
      if toLow.lt toHigh then some low
      else if toHigh.lt toLow then some high
      else if below % 2 = 0 then some low else some high
  | true, false => some low
  | false, true => some high
  | false, false => none

/-- Drops zeros at the end of the digits. -/
private def trimZeros (decimal : Scaled) : Nat → Scaled
  | 0 => decimal
  | fuel + 1 =>
      if decimal.digits ≠ 0 ∧ decimal.digits % 10 = 0 then
        trimZeros ⟨decimal.digits / 10, decimal.exponent + 1⟩ fuel
      else decimal

/-- The first grid, from `count` digits on, that has a decimal rounding to `x`. -/
private def searchGrids (x : Binary) (leading : Int) : Nat → Nat → Scaled
  | 0, count => ⟨(neighbours x.value (leading + 1 - count)).1, leading + 1 - count⟩
  | fuel + 1, count =>
      match onGrid x (leading + 1 - count) with
      | some decimal => trimZeros decimal 20
      | none => searchGrids x leading fuel (count + 1)

/-- The shortest decimal that rounds to the positive number `x`; seventeen digits
always suffice. -/
def shortest (x : Binary) : Scaled :=
  searchGrids x (leadingExponent x.value) 17 1

/-- How a floating point number is written down. -/
structure FloatFormat where
  /-- The least exponent of the first digit that is written positionally. -/
  leastPositional : Int
  /-- The greatest exponent of the first digit that is written positionally. -/
  greatestPositional : Int
deriving DecidableEq, Repr

namespace FloatFormat

/-- The digits of a positive decimal in the given format. -/
def magnitude (format : FloatFormat) (decimal : Scaled) : List Char :=
  let digits := Nat.toDigits 10 decimal.digits
  let leading := decimal.exponent + digits.length - 1
  if format.leastPositional ≤ leading ∧ leading ≤ format.greatestPositional then
    if leading < 0 then
      '0' :: '.' :: List.replicate (-leading - 1).toNat '0' ++ digits
    else
      let whole := leading.toNat + 1
      if digits.length ≤ whole then
        digits ++ List.replicate (whole - digits.length) '0' ++ ['.', '0']
      else digits.take whole ++ '.' :: digits.drop whole
  else
    let front := match digits with
      | first :: second :: rest => first :: '.' :: second :: rest
      | _ => digits
    let sign := if leading < 0 then '-' else '+'
    front ++ 'e' :: sign :: Nat.toDigits 10 leading.natAbs

/-- The text of a finite double, given by its bits. -/
def text (format : FloatFormat) (bits : UInt64) : String :=
  let sign := if Binary.isNegative bits then ['-'] else []
  let x := Binary.ofBits bits
  let magnitude := if x.significand = 0 then ['0', '.', '0'] else format.magnitude (shortest x)
  String.ofList (sign ++ magnitude)

end FloatFormat

end CloudSteward.Decimal
