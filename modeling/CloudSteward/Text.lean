/-!
# Texts and places in them

Manifests and answers of the cloud arrive as bytes.  A `Text` is such a sequence
of bytes cut into glyphs: characters wherever the bytes spell one in UTF-8, and
single stray bytes elsewhere.  Places are counted in bytes, because that is how
faults are reported; `Text.position` turns a count into a line and a column.
-/

namespace CloudSteward

/-- One unit of a text: a character, or a byte that belongs to no character. -/
inductive Glyph where
  | char (c : Char)
  | stray (byte : UInt8)
deriving DecidableEq, Repr

namespace Glyph

/-- The number of bytes that a glyph occupies. -/
def size : Glyph → Nat
  | .char c => c.utf8Size
  | .stray _ => 1

/-- The bytes of a glyph. -/
def bytes : Glyph → List UInt8
  | .char c => String.utf8EncodeChar c
  | .stray byte => [byte]

/-- The character of a glyph, if it is one. -/
def char? : Glyph → Option Char
  | .char c => some c
  | .stray _ => none

@[simp] theorem char?_char (c : Char) : (Glyph.char c).char? = some c := rfl

@[simp] theorem char?_stray (byte : UInt8) : (Glyph.stray byte).char? = none := rfl

end Glyph

/-- A text, glyph by glyph. -/
abbrev Text := List Glyph

/-- A line and a column, both as reported to the user: lines count from one, and
the column is the number of bytes of the line that lie before the place. -/
structure Position where
  line : Nat
  column : Nat
deriving DecidableEq, Repr

namespace Text

/-- The text that spells the given characters. -/
def ofChars (cs : List Char) : Text :=
  cs.map Glyph.char

/-- The text of a string. -/
def ofString (s : String) : Text :=
  ofChars s.toList

@[simp] theorem ofChars_nil : ofChars [] = [] := rfl

@[simp] theorem ofChars_cons (c : Char) (cs : List Char) :
    ofChars (c :: cs) = Glyph.char c :: ofChars cs := rfl

@[simp] theorem ofChars_append (front back : List Char) :
    ofChars (front ++ back) = ofChars front ++ ofChars back := by
  simp [ofChars]

/-- The glyphs of `bytes` from `index` on; `fuel` bounds their number. -/
private def glyphsFrom (bytes : ByteArray) : Nat → Nat → Text
  | 0, _ => []
  | fuel + 1, index =>
      if index < bytes.size then
        match bytes.utf8DecodeChar? index with
        | some c => .char c :: glyphsFrom bytes fuel (index + c.utf8Size)
        | none => .stray (bytes.get! index) :: glyphsFrom bytes fuel (index + 1)
      else []

/-- The text of a sequence of bytes.  Where all of them are well-formed UTF-8 it
is the text of the string that they encode. -/
def ofBytes (bytes : ByteArray) : Text :=
  match String.fromUTF8? bytes with
  | some s => ofString s
  | none => glyphsFrom bytes bytes.size 0

/-- The bytes of a text. -/
def bytes (text : Text) : List UInt8 :=
  text.flatMap Glyph.bytes

/-- The number of bytes of a text. -/
def size : Text → Nat
  | [] => 0
  | glyph :: rest => glyph.size + size rest

/-- The position that lies `offset` bytes into a text, where `here` is the
position of the first glyph. -/
private def positionFrom : Text → Nat → Position → Position
  | [], offset, here => { here with column := here.column + offset }
  | glyph :: rest, offset, here =>
      if offset = 0 then here
      else if glyph = .char '\n' then
        positionFrom rest (offset - 1) { line := here.line + 1, column := 0 }
      else if glyph.size ≤ offset then
        positionFrom rest (offset - glyph.size)
          { here with column := here.column + glyph.size }
      else { here with column := here.column + offset }

/-- The line and column of the place that lies `offset` bytes into a text. -/
def position (text : Text) (offset : Nat) : Position :=
  positionFrom text offset { line := 1, column := 0 }

/-- The characters of a text, or nothing if it has stray bytes. -/
def chars? : Text → Option (List Char)
  | [] => some []
  | .char c :: rest => (chars? rest).map (c :: ·)
  | .stray _ :: _ => none

@[simp] theorem chars?_ofChars (cs : List Char) : chars? (ofChars cs) = some cs := by
  induction cs with
  | nil => rfl
  | cons c cs ih => simp [chars?, ih]

end Text

end CloudSteward
