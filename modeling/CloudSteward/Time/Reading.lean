import CloudSteward.Time.Moment
import CloudSteward.Text.Blank

/-!
# Reading moments

The reader is generous: numbers need no padding, blanks may stand around them,
the date and the time may be separated by either case of the letter or by a
space, and the offset from universal time may be a letter, a word, or hours and
minutes with anything between them that is a colon or a blank.  The result is
the same moment in universal time.
-/

namespace CloudSteward.Moment

open Time Text

/-- Why a text is not a moment. -/
inductive Misread where
  | tooShort
  | invalid
  | outOfRange
  | trailing
  /-- The moment lies outside the calendar once it is in universal time. -/
  | impossible
deriving DecidableEq, Repr

namespace Misread

def text : Misread → String
  | .tooShort => "premature end of input"
  | .invalid => "input contains invalid characters"
  | .outOfRange => "input is out of range"
  | .trailing => "trailing input"
  | .impossible => "no possible date and time matching input"

end Misread

def isDigit (c : Char) : Bool :=
  '0' ≤ c && c ≤ '9'

def digitValue (c : Char) : Nat :=
  c.toNat - '0'.toNat

/-- The number that decimal digits spell. -/
def numberOfDigits (digits : List Char) : Nat :=
  digits.foldl (fun value c => value * 10 + digitValue c) 0

/-- At most `most` digits at the start of a text, and the text behind them. -/
def takeDigits : Nat → List Char → List Char × List Char
  | 0, cs => ([], cs)
  | _ + 1, [] => ([], [])
  | most + 1, c :: cs =>
      if isDigit c then
        let (digits, rest) := takeDigits most cs
        (c :: digits, rest)
      else ([], c :: cs)

/-- A number of at least one and at most `most` digits. -/
def readNumber (most : Nat) (cs : List Char) : Except Misread (Nat × List Char) :=
  match cs, takeDigits most cs with
  | [], _ => .error .tooShort
  | _, ([], _) => .error .invalid
  | _, (digits, rest) => .ok (numberOfDigits digits, rest)

/-- A number in a range, behind blanks. -/
def readWithin (least greatest : Nat) (cs : List Char) : Except Misread (Nat × List Char) :=
  match readNumber 2 (dropBlanks cs) with
  | .error misread => .error misread
  | .ok (value, rest) =>
      if least ≤ value ∧ value ≤ greatest then .ok (value, rest) else .error .outOfRange

/-- The greatest year that is taken up; the calendar ends long before. -/
def yearLimit : Nat := 2147483647

/-- A year, behind blanks: four digits at most, or any number of them behind a
sign. -/
def readYear (cs : List Char) : Except Misread (Int × List Char) :=
  match dropBlanks cs with
  | '-' :: rest =>
      match readNumber rest.length rest with
      | .error misread => .error misread
      | .ok (value, behind) =>
          if value ≤ yearLimit + 1 then .ok (-(value : Int), behind) else .error .outOfRange
  | '+' :: rest =>
      match readNumber rest.length rest with
      | .error misread => .error misread
      | .ok (value, behind) =>
          if value ≤ yearLimit then .ok (value, behind) else .error .outOfRange
  | cs =>
      match readNumber 4 cs with
      | .error misread => .error misread
      | .ok (value, behind) => .ok (value, behind)

/-- A mark, behind blanks. -/
def readMark (mark : Char) (cs : List Char) : Except Misread (List Char) :=
  match dropBlanks cs with
  | [] => .error .tooShort
  | c :: rest => if c = mark then .ok rest else .error .invalid

/-- What separates the date from the time. -/
def readSeparator : List Char → Except Misread (List Char)
  | [] => .error .tooShort
  | c :: rest => if c = 't' ∨ c = 'T' ∨ c = ' ' then .ok rest else .error .invalid

/-- The fraction of a second in nanoseconds; digits beyond the ninth are cut. -/
def readFraction : List Char → Except Misread (Nat × List Char)
  | '.' :: rest =>
      match rest, takeDigits 9 rest with
      | [], _ => .error .tooShort
      | _, ([], _) => .error .invalid
      | _, (digits, behind) =>
          .ok (numberOfDigits digits * Nat.pow 10 (9 - digits.length), behind.dropWhile isDigit)
  | cs => .ok (0, cs)

/-- Two digits.  A single character that is more than one byte long counts as
two wrong ones. -/
def readPair : List Char → Except Misread (Char × Char × List Char)
  | [] => .error .tooShort
  | [c] => if c.utf8Size = 1 then .error .tooShort else .error .invalid
  | a :: b :: rest => if isDigit a && isDigit b then .ok (a, b, rest) else .error .invalid

/-- Hours and minutes of an offset, as minutes. -/
def readOffsetDigits (cs : List Char) : Except Misread (Nat × List Char) :=
  match readPair cs with
  | .error misread => .error misread
  | .ok (a, b, rest) =>
      match readPair (rest.dropWhile fun c => c = ':' || isBlankChar c) with
      | .error misread => .error misread
      | .ok (c, d, behind) =>
          if '6' ≤ c then .error .outOfRange
          else .ok (numberOfDigits [a, b] * 60 + numberOfDigits [c, d], behind)

/-- The offset from universal time in minutes, behind blanks. -/
def readOffset (cs : List Char) : Except Misread (Int × List Char) :=
  let signed (negative : Bool) (rest : List Char) : Except Misread (Int × List Char) :=
    match readOffsetDigits rest with
    | .error misread => .error misread
    | .ok (minutes, behind) => .ok (if negative then -(minutes : Int) else minutes, behind)
  let marked : List Char → Except Misread (Int × List Char)
    | [] => .error .tooShort
    | c :: rest =>
        if c = 'Z' ∨ c = 'z' then .ok (0, rest)
        else if c = '+' then signed false rest
        else if c = '-' ∨ c = '\u2212' then signed true rest
        else .error .invalid
  match dropBlanks cs with
  | a :: b :: c :: rest =>
      if a.toUpper = 'U' ∧ b.toUpper = 'T' ∧ c.toUpper = 'C' then .ok (0, rest)
      else marked (a :: b :: c :: rest)
  | cs => marked cs

/-- Puts the fields of a text together and goes to universal time. -/
def assemble (year : Int) (month day hour minute second fraction : Nat) (offset : Int) :
    Except Misread Moment :=
  let (lastSecond, nanos) :=
    if second = 60 then (59, nanosPerSecond + fraction) else (second, fraction)
  match ofFields? year month day hour minute lastSecond nanos with
  | none => .error .outOfRange
  | some here =>
      if offset.natAbs < 1440 then
        match here.aheadBy? (-offset) with
        | none => .error .impossible
        | some moment => .ok moment
      else .error .outOfRange

/-- Reads a moment. -/
def read (cs : List Char) : Except Misread Moment := do
  let (year, cs) ← readYear cs
  let cs ← readMark '-' cs
  let (month, cs) ← readWithin 1 12 cs
  let cs ← readMark '-' cs
  let (day, cs) ← readWithin 1 31 cs
  let cs ← readSeparator cs
  let (hour, cs) ← readWithin 0 23 cs
  let cs ← readMark ':' cs
  let (minute, cs) ← readWithin 0 59 cs
  let cs ← readMark ':' cs
  let (second, cs) ← readWithin 0 60 cs
  let (fraction, cs) ← readFraction cs
  let (offset, cs) ← readOffset cs
  match dropBlanks cs with
  | [] => assemble year month day hour minute second fraction offset
  | _ :: _ => .error .trailing

/-- Reads the moment that a string spells. -/
def ofString (s : String) : Except Misread Moment :=
  read s.toList

end CloudSteward.Moment
