import CloudSteward.Json.Printer
import CloudSteward.Json.Scalar
import Mathlib.Tactic.Common

/-!
# Written strings can be read

The writer escapes a character in one of three ways or not at all, and the scanner
undoes each of them (`scanString_escapedChar`).  So scanning what was written for a
string gives the string, up to the quote that ends it (`scanString_written`).
-/

namespace CloudSteward.Json

open Text

/-! ## Hexadecimal digits -/

theorem digitValue?_hexDigit : ∀ value < 16, digitValue? (hexDigit value) = some value := by
  decide

/-- The escape of a control character spells its number. -/
theorem hexUnit?_control {number : Nat} (hnumber : number < 32) :
    hexUnit? (.char '0') (.char '0') (.char (hexDigit (number / 16)))
      (.char (hexDigit (number % 16))) = some number := by
  have hzero : hexDigit? (.char '0') = some 0 := rfl
  have hhigh : hexDigit? (.char (hexDigit (number / 16))) = some (number / 16) :=
    digitValue?_hexDigit _ (by omega)
  have hlow : hexDigit? (.char (hexDigit (number % 16))) = some (number % 16) :=
    digitValue?_hexDigit _ (by omega)
  have hsum : ((0 * 16 + 0) * 16 + number / 16) * 16 + number % 16 = number := by omega
  simp only [hexUnit?, hzero, hhigh, hlow, Option.bind_eq_bind, Option.bind_some, hsum]
  rfl

/-! ## Scanning one character -/

/-- A string of which nothing is wrong so far, with its characters in reverse. -/
def StringSoFar.sound (reversed : List Char) : StringSoFar :=
  { reversed := some reversed, leading := none, fault := none }

variable {reversed : List Char} {offset : Nat} {rest : Text}

@[simp] theorem StringSoFar.checkPartner_sound (text : Text) :
    (StringSoFar.sound reversed).checkPartner offset text = .sound reversed := rfl

@[simp] theorem StringSoFar.push_sound (c : Char) :
    (StringSoFar.sound reversed).push c = .sound (c :: reversed) := rfl

theorem scanString_quote :
    scanString (.sound reversed) offset (.char '"' :: rest) =
      .done (.string (String.ofList reversed.reverse)) (offset + 1) rest := by
  rw [scanString.eq_def]
  rfl

/-- An escape with one letter stands for its character. -/
theorem scanString_short {letter meant : Char} (hletter : letter ≠ 'u')
    (hmeant : shortEscape? letter = some meant) :
    scanString (.sound reversed) offset (.char '\\' :: .char letter :: rest) =
      scanString (.sound (meant :: reversed)) (offset + 2) rest := by
  have hglyph : Glyph.char letter ≠ .char 'u' := fun heq => hletter (Glyph.char.inj heq)
  have hbind : (Glyph.char letter).char?.bind shortEscape? = some meant := hmeant
  rw [scanString]
  · simp only [StringSoFar.checkPartner_sound, hbind, StringSoFar.push_sound]
    rfl
  · intro a b c d behind heq
    exact absurd heq hglyph
  · exact hglyph

/-- An escape with four digits stands for the character with that number. -/
theorem scanString_control {c : Char} (hc : c.toNat < 32) :
    scanString (.sound reversed) offset (.char '\\' :: .char 'u' :: .char '0' :: .char '0' ::
        .char (hexDigit (c.toNat / 16)) :: .char (hexDigit (c.toNat % 16)) :: rest) =
      scanString (.sound (c :: reversed)) (offset + 6) rest := by
  have htrailing : isTrailingSurrogate c.toNat = false := by
    unfold isTrailingSurrogate
    have hlow : ¬0xDC00 ≤ c.toNat := by omega
    simp [hlow]
  have hleading : isLeadingSurrogate c.toNat = false := by
    unfold isLeadingSurrogate
    have hlow : ¬0xD800 ≤ c.toNat := by omega
    simp [hlow]
  have hunit : (StringSoFar.sound reversed).pushUnit c.toNat (offset + 6) =
      .sound (c :: reversed) := by
    unfold StringSoFar.pushUnit
    rw [htrailing, hleading, Char.ofNat_toNat]
    rfl
  rw [scanString]
  simp only [StringSoFar.checkPartner_sound, hexUnit?_control hc, hunit]
  rfl

/-- Any other character stands for itself. -/
theorem scanString_plain {c : Char} (hquote : c ≠ '"') (hslash : c ≠ '\\') (hc : 32 ≤ c.toNat) :
    scanString (.sound reversed) offset (.char c :: rest) =
      scanString (.sound (c :: reversed)) (offset + c.utf8Size) rest := by
  rw [scanString.eq_def]
  simp [hquote, hslash, Nat.not_lt.mpr hc]

/-! ## Scanning a whole string -/

/-- The scanner takes what was written for a character and goes on behind it. -/
theorem scanString_escapedChar (c : Char) (reversed : List Char) (offset : Nat) (rest : Text) :
    ∃ behind, scanString (.sound reversed) offset (ofChars (escapedChar c) ++ rest) =
      scanString (.sound (c :: reversed)) behind rest := by
  unfold escapedChar
  split
  case isTrue h => subst h; exact ⟨_, scanString_short (by decide) (by decide)⟩
  split
  case isTrue h => subst h; exact ⟨_, scanString_short (by decide) (by decide)⟩
  split
  case isTrue h => subst h; exact ⟨_, scanString_short (by decide) (by decide)⟩
  split
  case isTrue h => subst h; exact ⟨_, scanString_short (by decide) (by decide)⟩
  split
  case isTrue h => subst h; exact ⟨_, scanString_short (by decide) (by decide)⟩
  split
  case isTrue h => subst h; exact ⟨_, scanString_short (by decide) (by decide)⟩
  split
  case isTrue h => subst h; exact ⟨_, scanString_short (by decide) (by decide)⟩
  split
  case isTrue hcontrol => exact ⟨_, scanString_control hcontrol⟩
  case isFalse hquote hslash _ _ _ _ _ hcontrol =>
    exact ⟨_, scanString_plain hquote hslash (Nat.not_lt.mp hcontrol)⟩

theorem scanString_escaped (cs reversed : List Char) (offset : Nat) (rest : Text) :
    ∃ stop, scanString (.sound reversed) offset
        (ofChars (cs.flatMap escapedChar) ++ .char '"' :: rest) =
      .done (.string (String.ofList (reversed.reverse ++ cs))) stop rest := by
  induction cs generalizing reversed offset with
  | nil => exact ⟨_, by rw [List.append_nil]; exact scanString_quote⟩
  | cons c cs ih =>
      obtain ⟨behind, hfirst⟩ := scanString_escapedChar c reversed offset
        (ofChars (cs.flatMap escapedChar) ++ .char '"' :: rest)
      obtain ⟨stop, hrest⟩ := ih (c :: reversed) behind
      refine ⟨stop, ?_⟩
      rw [List.flatMap_cons, ofChars_append, List.append_assoc, hfirst, hrest,
        List.reverse_cons, List.append_assoc, List.singleton_append]

/-- Scanning a written string behind its opening quote gives the string. -/
theorem scanString_written (s : String) (offset : Nat) (rest : Text) :
    ∃ stop, scanString .start offset
        (ofChars (s.toList.flatMap escapedChar ++ ['"']) ++ rest) =
      .done (.string s) stop rest := by
  obtain ⟨stop, hscan⟩ := scanString_escaped s.toList [] offset rest
  refine ⟨stop, ?_⟩
  rw [ofChars_append, List.append_assoc]
  rw [List.reverse_nil, List.nil_append, String.ofList_toList] at hscan
  exact hscan

end CloudSteward.Json
