import CloudSteward.Time.Reading
import CloudSteward.Time.Writing
import Mathlib.Algebra.Group.Nat.Defs
import Mathlib.Tactic.Common

/-!
# Written moments can be read

A moment is written field by field, and every field ends where the reader expects it to:
numbers within the date and the time of day have two digits, a year of more than four digits
has a sign in front and a mark behind, and a fraction is followed by the letter that ends
the text.  So each reader takes what was written for its field and leaves the rest alone,
and the fields come together as the moment that was written (`ofString_text`), in any year
of the calendar, with any fraction, and also in a leap second.
-/

namespace CloudSteward.Moment

open Time Text

variable {most width value : Nat} {digits rest : List Char}

/-! ## Padded numerals -/

theorem isDigit_of_mem_paddedDigits {c : Char} (hc : c ∈ paddedDigits width value) :
    isDigit c = true := by
  rcases List.mem_append.mp hc with hzero | hdigit
  · rw [List.eq_of_mem_replicate hzero]
    decide
  · have hspelled := Nat.isDigit_of_mem_toDigits (by decide) (by decide) hdigit
    simpa [isDigit, Char.isDigit, Char.le_def] using hspelled

theorem paddedDigits_ne_nil : paddedDigits width value ≠ [] := by
  intro hnil
  exact Nat.toDigits_ne_nil (List.append_eq_nil_iff.mp hnil).2

/-- A number that has room for its digits fills the width. -/
theorem length_paddedDigits (hwidth : 0 < width) (hvalue : value < 10 ^ width) :
    (paddedDigits width value).length = width := by
  have hfits := (Nat.length_toDigits_le_iff (by decide : 1 < 10) hwidth).mpr hvalue
  simp only [paddedDigits, List.length_append, List.length_replicate]
  omega

/-- The zeros in front do not count. -/
theorem numberOfDigits_paddedDigits : numberOfDigits (paddedDigits width value) = value := by
  have hspelled : numberOfDigits (paddedDigits width value) =
      Nat.ofDigitChars 10 (paddedDigits width value) 0 := by
    simp only [numberOfDigits, Nat.ofDigitChars_eq_foldl, digitValue, Nat.mul_comm]
  rw [hspelled, paddedDigits, Nat.ofDigitChars_append, Nat.ofDigitChars_replicate_zero,
    Nat.mul_zero, Nat.ofDigitChars_ten_toDigits]

/-! ## Reading numerals -/

/-- Digits are taken up to the greatest number of them, or up to something else. -/
theorem takeDigits_append (hdigits : ∀ c ∈ digits, isDigit c = true)
    (hmost : digits.length ≤ most)
    (hstop : digits.length = most ∨ ∀ c ∈ rest.head?, isDigit c = false) :
    takeDigits most (digits ++ rest) = (digits, rest) := by
  induction digits generalizing most with
  | nil =>
      cases most with
      | zero => rfl
      | succ most =>
          have hother := hstop.resolve_left (by simp)
          cases rest with
          | nil => rfl
          | cons c rest => simp [takeDigits, hother c rfl]
  | cons digit digits ih =>
      obtain ⟨hfirst, hmore⟩ := List.forall_mem_cons.mp hdigits
      cases most with
      | zero => simp at hmost
      | succ most =>
          have hless : digits.length ≤ most := by simpa using hmost
          have hbehind : digits.length = most ∨ ∀ c ∈ rest.head?, isDigit c = false :=
            hstop.imp_left fun hfull => by simpa using hfull
          simp [takeDigits, hfirst, ih hmore hless hbehind]

/-- A written number is read, up to where its digits end. -/
theorem readNumber_paddedDigits (hmost : (paddedDigits width value).length ≤ most)
    (hstop : (paddedDigits width value).length = most ∨ ∀ c ∈ rest.head?, isDigit c = false) :
    readNumber most (paddedDigits width value ++ rest) = .ok (value, rest) := by
  have htake := takeDigits_append (fun c hc => isDigit_of_mem_paddedDigits hc) hmost hstop
  have hnumber : numberOfDigits (paddedDigits width value) = value := numberOfDigits_paddedDigits
  unfold readNumber
  rw [htake]
  cases hpadded : paddedDigits width value with
  | nil => exact absurd hpadded paddedDigits_ne_nil
  | cons digit digits =>
      rw [hpadded] at hnumber
      simp only [List.cons_append, hnumber]

/-! ## Blanks -/

theorem dropBlanks_cons {c : Char} (hc : isBlankChar c = false) :
    dropBlanks (c :: rest) = c :: rest := by
  simp [dropBlanks, hc]

theorem isBlankChar_of_isDigit {c : Char} (hc : isDigit c = true) : isBlankChar c = false := by
  have hrange : 48 ≤ c.toNat ∧ c.toNat ≤ 57 := by
    simpa [isDigit, Char.le_def, UInt32.le_iff_toNat_le] using hc
  have hapart : ∀ range ∈ blankRanges, range.2 < 48 ∨ 57 < range.1 := by decide
  rw [isBlankChar, List.any_eq_false]
  intro range hrange hwithin
  have hside := hapart range hrange
  simp only [Bool.and_eq_true, decide_eq_true_eq] at hwithin
  omega

/-- No blanks stand in front of a written number. -/
theorem dropBlanks_paddedDigits :
    dropBlanks (paddedDigits width value ++ rest) = paddedDigits width value ++ rest := by
  cases hpadded : paddedDigits width value with
  | nil => exact absurd hpadded paddedDigits_ne_nil
  | cons digit digits =>
      have hdigit : digit ∈ paddedDigits width value := hpadded ▸ List.mem_cons_self
      exact dropBlanks_cons (isBlankChar_of_isDigit (isDigit_of_mem_paddedDigits hdigit))

/-! ## The fields of a moment -/

theorem readWithin_paddedDigits {least greatest : Nat} (hleast : least ≤ value)
    (hgreatest : value ≤ greatest) (hvalue : value < 100) :
    readWithin least greatest (paddedDigits 2 value ++ rest) = .ok (value, rest) := by
  have hlength : (paddedDigits 2 value).length = 2 := length_paddedDigits (by decide) hvalue
  have hnumber : readNumber 2 (paddedDigits 2 value ++ rest) = .ok (value, rest) :=
    readNumber_paddedDigits (Nat.le_of_eq hlength) (.inl hlength)
  simp [readWithin, dropBlanks_paddedDigits, hnumber, hleast, hgreatest]

theorem readMark_cons {mark : Char} (hmark : isBlankChar mark = false) :
    readMark mark (mark :: rest) = .ok rest := by
  simp [readMark, dropBlanks_cons hmark]

/-- A year of four digits ends with them, and one behind a sign ends where the mark behind
it begins. -/
theorem readYear_yearChars {year : Int} (hfirst : firstYear ≤ year) (hlast : year ≤ lastYear)
    (rest : List Char) : readYear (yearChars year ++ '-' :: rest) = .ok (year, '-' :: rest) := by
  have hmark : ∀ c ∈ ('-' :: rest).head?, isDigit c = false := by
    intro c hc
    obtain rfl : '-' = c := by simpa using hc
    decide
  have hlong (value : Nat) : (paddedDigits 4 value).length ≤
      (paddedDigits 4 value ++ '-' :: rest).length := by simp
  unfold firstYear at hfirst
  unfold lastYear at hlast
  unfold yearChars
  by_cases hplain : 0 ≤ year ∧ year ≤ 9999
  · have hlength : (paddedDigits 4 year.toNat).length = 4 :=
      length_paddedDigits (by decide) (by omega)
    have hnumber : readNumber 4 (paddedDigits 4 year.toNat ++ '-' :: rest) =
        .ok (year.toNat, '-' :: rest) :=
      readNumber_paddedDigits (Nat.le_of_eq hlength) (.inl hlength)
    have hyear : (year.toNat : Int) = year := by omega
    rw [if_pos hplain, readYear, dropBlanks_paddedDigits]
    -- A numeral begins with a digit, so with neither of the signs.
    cases hpadded : paddedDigits 4 year.toNat with
    | nil => exact absurd hpadded paddedDigits_ne_nil
    | cons digit digits =>
        have hdigit : isDigit digit = true :=
          isDigit_of_mem_paddedDigits (hpadded ▸ List.mem_cons_self)
        have hminus : digit ≠ '-' := fun heq => by simp [heq, isDigit] at hdigit
        have hplus : digit ≠ '+' := fun heq => by simp [heq, isDigit] at hdigit
        rw [hpadded] at hnumber
        simp only [List.cons_append] at hnumber ⊢
        split
        · rename_i heq
          exact absurd (List.cons.inj heq).1 hminus
        · rename_i heq
          exact absurd (List.cons.inj heq).1 hplus
        · simp [hnumber, hyear]
  · have hnumber : readNumber (paddedDigits 4 year.natAbs ++ '-' :: rest).length
        (paddedDigits 4 year.natAbs ++ '-' :: rest) = .ok (year.natAbs, '-' :: rest) :=
      readNumber_paddedDigits (hlong _) (.inr hmark)
    have hbound : year.natAbs ≤ yearLimit := by
      unfold yearLimit
      omega
    rw [if_neg hplain]
    by_cases hnegative : year < 0
    · have hbefore : year.natAbs ≤ yearLimit + 1 := by omega
      have hyear : -(year.natAbs : Int) = year := by omega
      rw [if_pos hnegative, List.cons_append, readYear, dropBlanks_cons (by decide)]
      simp only [hnumber, if_pos hbefore, hyear]
    · have hyear : (year.natAbs : Int) = year := by omega
      rw [if_neg hnegative, List.cons_append, readYear, dropBlanks_cons (by decide)]
      simp only [hnumber, if_pos hbound, hyear]

/-- Digits of a fraction that are not written are zeros. -/
theorem readFraction_paddedDigits (hwidth : 0 < width) (hmost : width ≤ 9)
    (hvalue : value < 10 ^ width) :
    readFraction ('.' :: paddedDigits width value ++ ['Z']) =
      .ok (value * 10 ^ (9 - width), ['Z']) := by
  have hlength := length_paddedDigits hwidth hvalue
  have hletter : ∀ c ∈ (['Z'] : List Char).head?, isDigit c = false := by simp [isDigit]
  have hfits : (paddedDigits width value).length ≤ 9 := hlength.symm ▸ hmost
  have htake := takeDigits_append (fun c hc => isDigit_of_mem_paddedDigits hc) hfits (.inr hletter)
  have hnumber : numberOfDigits (paddedDigits width value) = value := numberOfDigits_paddedDigits
  unfold readFraction
  simp only [List.cons_append, htake]
  cases hpadded : paddedDigits width value with
  | nil => exact absurd hpadded paddedDigits_ne_nil
  | cons digit digits =>
      rw [hpadded] at hlength hnumber
      simp [hlength, hnumber, isDigit]

theorem readFraction_fractionChars {nanos : Nat} (hnanos : nanos < nanosPerSecond) :
    readFraction (fractionChars nanos ++ ['Z']) = .ok (nanos, ['Z']) := by
  unfold nanosPerSecond at hnanos
  unfold fractionChars
  split
  case isTrue hzero => simp [readFraction, hzero]
  case isFalse =>
    split
    case isTrue hmillis =>
      rw [readFraction_paddedDigits (by decide) (by decide) (by omega)]
      have hexact : nanos / 1000000 * 10 ^ (9 - 3) = nanos := by omega
      rw [hexact]
    case isFalse =>
      split
      case isTrue hmicros =>
        rw [readFraction_paddedDigits (by decide) (by decide) (by omega)]
        have hexact : nanos / 1000 * 10 ^ (9 - 6) = nanos := by omega
        rw [hexact]
      case isFalse =>
        rw [readFraction_paddedDigits (by decide) (by decide) (by omega)]
        have hexact : nanos * 10 ^ (9 - 9) = nanos := by omega
        rw [hexact]

theorem readSeparator_letter : readSeparator ('T' :: rest) = .ok rest := by
  simp [readSeparator]

theorem readOffset_letter : readOffset ['Z'] = .ok (0, []) := by decide

/-! ## Whole moments -/

theorem ofFields?_self (moment : Moment) :
    ofFields? moment.year moment.month moment.day moment.hour moment.minute moment.second
      moment.nanos = some moment := by
  unfold ofFields?
  rw [dif_pos moment.date_valid, dif_pos moment.time_valid]

theorem aheadBy?_zero (moment : Moment) : moment.aheadBy? 0 = some moment := by
  obtain ⟨hhour, hminute, -⟩ := moment.time_valid
  have hwithin : (((moment.hour * 60 + moment.minute + 0 : Int)) % 1440).toNat =
      moment.hour * 60 + moment.minute := by omega
  have hpast : ¬(moment.hour * 60 + moment.minute + 0 : Int) < 0 := by omega
  have htoday : (moment.hour * 60 + moment.minute + 0 : Int) < 1440 := by omega
  have hhours : (moment.hour * 60 + moment.minute) / 60 = moment.hour := by omega
  have hminutes : (moment.hour * 60 + moment.minute) % 60 = moment.minute := by omega
  simp only [aheadBy?, hwithin, if_neg hpast, if_pos htoday, hhours, hminutes]
  exact moment.ofFields?_self

/-- The second and the fraction that are written of a moment, a leap second as the
sixtieth. -/
def writtenSecond (moment : Moment) : Nat × Nat :=
  if nanosPerSecond ≤ moment.nanos then (moment.second + 1, moment.nanos - nanosPerSecond)
  else (moment.second, moment.nanos)

theorem chars_eq (moment : Moment) :
    moment.chars = yearChars moment.year ++ '-' :: (paddedDigits 2 moment.month ++
      '-' :: (paddedDigits 2 moment.day ++ 'T' :: (paddedDigits 2 moment.hour ++
        ':' :: (paddedDigits 2 moment.minute ++ ':' :: (paddedDigits 2 moment.writtenSecond.1 ++
          (fractionChars moment.writtenSecond.2 ++ ['Z'])))))) := by
  unfold chars writtenSecond
  by_cases hleap : nanosPerSecond ≤ moment.nanos <;> simp [hleap]

theorem writtenSecond_bounds (moment : Moment) :
    moment.writtenSecond.1 ≤ 60 ∧ moment.writtenSecond.2 < nanosPerSecond := by
  obtain ⟨-, -, hsecond, hnanos⟩ := moment.time_valid
  unfold writtenSecond
  split <;> constructor <;> simp only <;> omega

/-- The written fields make up the moment again. -/
theorem assemble_written (moment : Moment) :
    assemble moment.year moment.month moment.day moment.hour moment.minute
      moment.writtenSecond.1 moment.writtenSecond.2 0 = .ok moment := by
  obtain ⟨-, -, hsecond, hnanos⟩ := moment.time_valid
  have hfields : (if moment.writtenSecond.1 = 60 then (59, nanosPerSecond + moment.writtenSecond.2)
      else moment.writtenSecond) = (moment.second, moment.nanos) := by
    unfold writtenSecond
    by_cases hleap : nanosPerSecond ≤ moment.nanos
    · have hlast : moment.second = 59 := by omega
      have hsum : nanosPerSecond + (moment.nanos - nanosPerSecond) = moment.nanos := by omega
      simp [hleap, hlast, hsum]
    · have hordinary : moment.second ≠ 60 := by omega
      simp [hleap, hordinary]
  unfold assemble
  simp [hfields, ofFields?_self, aheadBy?_zero]

/-- Every moment is read from its text. -/
theorem ofString_text (moment : Moment) : ofString moment.text = .ok moment := by
  obtain ⟨hfirst, hlast, hmonth, hyear, hday, hmonthEnd⟩ := moment.date_valid
  obtain ⟨hhour, hminute, hsecond, hnanos⟩ := moment.time_valid
  obtain ⟨hwritten, hfraction⟩ := moment.writtenSecond_bounds
  have hdays : daysInMonth moment.year moment.month ≤ 31 := by
    unfold daysInMonth
    repeat' split
    all_goals omega
  rw [ofString, text, String.toList_ofList, chars_eq]
  simp only [read, bind, Except.bind, readYear_yearChars hfirst hlast,
    readMark_cons (show isBlankChar '-' = false by decide),
    readMark_cons (show isBlankChar ':' = false by decide),
    readWithin_paddedDigits hmonth hyear (by omega),
    readWithin_paddedDigits hday (Nat.le_trans hmonthEnd hdays) (by omega),
    readSeparator_letter,
    readWithin_paddedDigits (Nat.zero_le _) (Nat.le_of_lt_succ hhour) (by omega),
    readWithin_paddedDigits (Nat.zero_le _) (Nat.le_of_lt_succ hminute) (by omega),
    readWithin_paddedDigits (Nat.zero_le _) hwritten (by omega),
    readFraction_fractionChars hfraction, readOffset_letter]
  exact moment.assemble_written

end CloudSteward.Moment
