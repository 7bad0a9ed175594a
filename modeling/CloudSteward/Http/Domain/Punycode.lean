import CloudSteward.Text.Digit

/-!
# Names in plain characters

A name with characters outside of ASCII is spelled within ASCII: its plain characters
come first, and behind a hyphen the others follow in ascending order, each as the
distance to the one before it.  A distance counts code points times the places where a
character may be put in.  It is written in digits of a radix that varies from digit to
digit, so that its end shows; how it varies follows the distances so far.
-/

namespace CloudSteward.Http.Domain

/-- The first code point outside of ASCII. -/
def firstForeign : Nat := 128

/-- The bias before the first distance. -/
def firstBias : Nat := 72

/-- A digit, from the letter a on; the numerals stand behind the letters. -/
def digitChar (value : Nat) : Char :=
  if value < 26 then Char.ofNat ('a'.toNat + value) else Char.ofNat ('0'.toNat + value - 26)

/-- The value of a digit. -/
def digitOf? (c : Char) : Option Nat :=
  if 'a' ≤ c ∧ c ≤ 'z' then some (c.toNat - 'a'.toNat)
  else if '0' ≤ c ∧ c ≤ '9' then some (c.toNat - '0'.toNat + 26)
  else none

/-- The least value of a digit that is not the last one of its number. -/
def threshold (bias place : Nat) : Nat :=
  min 26 (max 1 (36 * (place + 1) - bias))

theorem threshold_pos (bias place : Nat) : 0 < threshold bias place := by
  unfold threshold
  omega

theorem threshold_le (bias place : Nat) : threshold bias place ≤ 26 := by
  unfold threshold
  omega

/-- Brings a distance below the middle of the range of digits; gives it with the
number of steps that this takes. -/
def halved (distance : Nat) : Nat × Nat :=
  if _h : distance ≤ 455 then (distance, 0)
  else
    let (rest, steps) := halved (distance / 35)
    (rest, steps + 1)
termination_by distance
decreasing_by omega

/-- The bias behind a distance, with `count` characters in place. -/
def biasBehind (distance count : Nat) (isFirst : Bool) : Nat :=
  let damped := if isFirst then distance / 700 else distance / 2
  let (rest, steps) := halved (damped + damped / count)
  36 * steps + 36 * rest / (rest + 38)

/-- The digits of a distance, from the given place on. -/
def digitsFrom (bias place distance : Nat) : List Char :=
  let least := threshold bias place
  if distance < least then [digitChar distance]
  else
    digitChar (least + (distance - least) % (36 - least)) ::
      digitsFrom bias (place + 1) ((distance - least) / (36 - least))
termination_by distance
decreasing_by
  have hpos := threshold_pos bias place
  have hle := threshold_le bias place
  have hdiv := Nat.div_le_self (distance - threshold bias place) (36 - threshold bias place)
  omega

/-- How far a name has been written. -/
structure Encoding where
  /-- The code point that is due, and the number of characters in place. -/
  code : Nat
  count : Nat
  distance : Nat
  bias : Nat
  isFirst : Bool
  written : List Char

namespace Encoding

/-- Writes one character of the name, if it is the one that is due. -/
def pass (encoding : Encoding) (c : Char) : Encoding :=
  if c.toNat < encoding.code then { encoding with distance := encoding.distance + 1 }
  else if c.toNat = encoding.code then
    { encoding with
      count := encoding.count + 1
      distance := 0
      bias := biasBehind encoding.distance (encoding.count + 1) encoding.isFirst
      isFirst := false
      written := encoding.written ++ digitsFrom encoding.bias 0 encoding.distance }
  else encoding

/-- Writes all places of one code point. -/
def visit (name : List Char) (encoding : Encoding) (code : Nat) : Encoding :=
  let started := { encoding with
    code
    distance := encoding.distance + (code - encoding.code) * (encoding.count + 1) }
  let passed := name.foldl pass started
  { passed with code := code + 1, distance := passed.distance + 1 }

end Encoding

/-- Whether a character belongs to ASCII. -/
def isPlain (c : Char) : Bool :=
  c.toNat < firstForeign

/-- A name in plain characters. -/
def spellPlainly (name : List Char) : List Char :=
  let plain := name.filter isPlain
  let codes := ((name.filter fun c => !isPlain c).map Char.toNat).mergeSort.eraseReps
  let start : Encoding := {
    code := firstForeign
    count := plain.length
    distance := 0
    bias := firstBias
    isFirst := true
    written := if plain = [] then [] else plain ++ ['-'] }
  (codes.foldl (Encoding.visit name) start).written

/-- Reads one distance from its digits; gives what stands behind it too. -/
def readDistance (bias : Nat) : Nat → Nat → Nat → List Char → Option (Nat × List Char)
  | _, _, _, [] => none
  | place, weight, sum, c :: rest => do
      let digit ← digitOf? c
      let total := sum + digit * weight
      let least := threshold bias place
      if digit < least then some (total, rest)
      else readDistance bias (place + 1) (weight * (36 - least)) total rest

/-- Puts the characters that distances tell of into a name, each behind the place of
the one before it; `fuel` bounds their number. -/
def placeForeign : Nat → Nat → Nat → Nat → List Char → List Char → Option (List Char)
  | 0, _, _, _, _, _ => none
  | _, _, _, _, name, [] => some name
  | fuel + 1, code, place, bias, name, c :: rest => do
      let (distance, behind) ← readDistance bias 0 1 0 (c :: rest)
      let count := name.length + 1
      let reached := place + distance
      let next := code + reached / count
      let spot := reached % count
      if next.isValidChar then
        placeForeign fuel next (spot + 1) (biasBehind distance count (place = 0))
          (name.take spot ++ Char.ofNat next :: name.drop spot) behind
      else none

/-- The name that plain characters spell. -/
def readPlainSpelling (cs : List Char) : Option (List Char) :=
  let backwards := cs.reverse
  let digits := (backwards.takeWhile (· ≠ '-')).reverse
  let plain := ((backwards.dropWhile (· ≠ '-')).drop 1).reverse
  let digits := if plain = [] ∧ cs.contains '-' then '-' :: digits else digits
  placeForeign (cs.length + 1) firstForeign 0 firstBias plain digits

end CloudSteward.Http.Domain
