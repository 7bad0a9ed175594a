import CloudSteward.Http.Domain.Mapping
import CloudSteward.Http.Domain.Punycode
import CloudSteward.Text.Composition
import CloudSteward.Text.Script

/-!
# Names of hosts

The name of a host is a row of labels with points between them.  Capital letters and
other spellings are replaced by the plain ones first, so that each name has one form;
then a label with characters outside of ASCII is spelled within it.  A label has to be
readable: it may not begin with a mark, joiners have to join something, and where a
name is written from right to left no label may change its direction.
-/

namespace CloudSteward.Http.Domain

open Text

/-! ## Labels -/

/-- What a label begins with that is spelled within ASCII. -/
def marker : List Char := ['x', 'n', '-', '-']

/-- The mark that keeps letters apart. -/
def nonJoiner : Char := '\u200c'

/-- The mark that joins letters. -/
def joiner : Char := '\u200d'

/-- The class of the marks that take the vowel from a letter. -/
def vowelKiller : Nat := 9

/-- Whether a mark that keeps letters apart stands between letters that would join:
`before` are the characters before it, the last first. -/
def keepsApart (before rest : List Char) : Bool :=
  let first := (before.dropWhile (joining · = .past)).head?
  let last := (rest.dropWhile (joining · = .past)).head?
  match first, last with
  | some first, some last =>
      (joining first = .both || joining first = .behind) &&
        (joining last = .both || joining last = .before)
  | _, _ => false

/-- Whether all joiners of a label have their place: behind a letter that lost its vowel,
or, for one that keeps letters apart, between letters that would join. -/
def joinersFit (before : List Char) : List Char → Bool
  | [] => true
  | c :: rest =>
      let free := before.head?.any (markClass · = vowelKiller)
      let fits :=
        if c = joiner then free
        else if c = nonJoiner then free || keepsApart before rest
        else true
      fits && joinersFit (c :: before) rest

/-- Whether a character makes a name one that is written from right to left. -/
def isBackward (c : Char) : Bool :=
  direction c = .rightToLeft || direction c = .arabicDigit

/-- Whether a label that is not empty keeps to one direction. -/
def keepsDirection (label : List Char) : Bool :=
  let directions := label.map direction
  let last := (directions.reverse.dropWhile (· = .mark)).head?
  match directions.head? with
  | none => true
  | some .leftToRight =>
      directions.all (fun direction =>
        direction = .leftToRight || direction = .latinDigit || direction = .mark ||
          direction = .neutral) &&
        (last = some .leftToRight || last = some .latinDigit)
  | some .rightToLeft =>
      directions.all (fun direction => direction ≠ .leftToRight && direction ≠ .other) &&
        last ≠ some .neutral &&
        !(directions.contains .latinDigit && directions.contains .arabicDigit)
  | some _ => false

/-- Whether a label can be read that is not, or was not, written in plain characters. -/
def isReadable (label : List Char) : Bool :=
  !label.head?.any isMark && joinersFit [] label

/-- A label as it is read: one that is spelled within ASCII is read from its spelling,
which has to be that of a name in plain form and with a character outside of ASCII. -/
def readLabel (label : List Char) : Option (List Char) :=
  if label.take 4 = marker then do
    let name ← readPlainSpelling (label.drop 4)
    let isPlainForm := composed name = name && name.all fun c => mapped c = some [c]
    if !name.all isPlain && isPlainForm && isReadable name then some name else none
  else if label.all isPlain || isReadable label then some label
  else none

/-- A label within ASCII. -/
def writeLabel (label : List Char) : List Char :=
  if label.all isPlain then label else marker ++ spellPlainly label

/-! ## Names -/

/-- The plain characters that have a meaning in an address and stand in no name. -/
def reserved : List Char :=
  ['%', '#', '/', ':', '<', '>', '?', '@', '[', '\\', ']', '^', '|']

/-- Whether a plain character may stand in a name. -/
def isAllowed (c : Char) : Bool :=
  0x20 < c.toNat && c.toNat ≠ 0x7F && !reserved.contains c

/-- Whether a name is in plain characters and none of its labels needs to be read. -/
def isSimple (cs : List Char) : Bool :=
  cs.all isPlain && (pieces (· = '.') cs).all fun label => label.take 4 ≠ marker

/-- A name within ASCII that may have other characters. -/
def foreign? (cs : List Char) : Option (List Char) := do
  let replaced ← cs.mapM mapped
  let labels ← (pieces (· = '.') (composed replaced.flatten)).mapM readLabel
  if labels.any (·.any isBackward) && !labels.all keepsDirection then none
  else some (['.'].intercalate (labels.map writeLabel))

/-- The name of a host within ASCII, unless it is none. -/
def plain? (cs : List Char) : Option (List Char) :=
  let small := cs.map Char.toLower
  (if isSimple small then some small else foreign? cs).filter (·.all isAllowed)

end CloudSteward.Http.Domain
