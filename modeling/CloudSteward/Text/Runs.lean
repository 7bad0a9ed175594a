import CloudSteward.Text.Digit
import CloudSteward.Text.Pieces

/-!
# Tables over all characters

A property of characters as runs of code points that share a value.  A table is
written as rows of entries with a blank between them; an entry is the first code
point of a run in hexadecimal digits, a colon, and the value.  A run goes up to the
one behind it, and the runs ascend.
-/

namespace CloudSteward.Text

/-- The runs of a property: first code points and values. -/
structure Runs (α : Type) where
  runs : Array (Nat × α)

namespace Runs

variable {α : Type}

/-- The run that an entry of a table stands for. -/
def entry (value : Nat → List Char → α) (cs : List Char) : Nat × α :=
  let first := spelled 16 (cs.takeWhile (· ≠ ':'))
  (first, value first ((cs.dropWhile (· ≠ ':')).drop 1))

/-- A table from its rows. -/
def ofRows (value : Nat → List Char → α) (rows : List String) : Runs α where
  runs := (rows.flatMap fun row => (pieces (· = ' ') row.toList).map (entry value)).toArray

/-- The value of the last run from `low` up to `high` that begins at the code point or
before it; the runs are halved at each step. -/
private def search (runs : Array (Nat × α)) (code : Nat) : Nat → Nat → Nat → Option α
  | 0, _, _ => none
  | fuel + 1, low, high =>
      if low + 1 < high then
        let middle := (low + high) / 2
        match runs[middle]? with
        | none => none
        | some (first, _) =>
            if code < first then search runs code fuel low middle
            else search runs code fuel middle high
      else (runs[low]?).map Prod.snd

/-- The value of a character. -/
def get? (table : Runs α) (c : Char) : Option α :=
  search table.runs c.toNat table.runs.size 0 table.runs.size

end Runs

end CloudSteward.Text
