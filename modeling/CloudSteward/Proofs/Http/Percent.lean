import CloudSteward.Http.Url

/-!
# Percent signs can be taken back

What stands for the characters that are replaced are percent signs and digits of their bytes, so
a text that had no percent sign can be told from its encoding (`encode_injective`).  An encoding
has no slash that was not there before, and dots are never encoded: to resolve the dots of a text
before it is encoded and behind comes to the same (`plainDots_encode`).
-/

namespace CloudSteward.Http

open Url

/-! ## Bytes -/

/-- A byte as a percent sign and two digits. -/
def percentByte (byte : UInt8) : List Char :=
  ['%', upperHexDigit (byte.toNat / 16), upperHexDigit (byte.toNat % 16)]

theorem percentChars_eq (c : Char) :
    percentChars c = (String.utf8EncodeChar c).flatMap percentByte := rfl

theorem digitValue?_upperHexDigit :
    ∀ value < 16, Text.digitValue? (upperHexDigit value) = some value := by
  decide

theorem upperHexDigit_ne :
    ∀ value < 16, upperHexDigit value ≠ '%' ∧ upperHexDigit value ≠ '/' := by
  decide

/-- Only of the byte of a dot the digits are those of a dot. -/
theorem eq_dot_of_digits : ∀ high < 16, ∀ low < 16, upperHexDigit high = '2' →
    upperHexDigit low = 'e' ∨ upperHexDigit low = 'E' → high * 16 + low = '.'.toNat := by
  decide

/-- A byte of a character is the character itself, or it stands for no character. -/
theorem toNat_eq_or_le_of_mem {c : Char} {byte : UInt8} (h : byte ∈ String.utf8EncodeChar c) :
    byte.toNat = c.toNat ∨ 0x80 ≤ byte.toNat := by
  have hvalue : c.toNat = c.val.toNat := rfl
  simp only [String.utf8EncodeChar] at h
  split at h
  case isTrue hlow =>
    obtain rfl := List.mem_singleton.mp h
    rw [UInt8.toNat_ofNat']
    omega
  case isFalse =>
    -- The bytes of longer characters begin with a one.
    right
    split at h
    case isTrue =>
      simp only [List.mem_cons, List.not_mem_nil, or_false, ← UInt8.toNat_inj,
        UInt8.toNat_ofNat'] at h
      omega
    case isFalse =>
      split at h
      all_goals
        simp only [List.mem_cons, List.not_mem_nil, or_false, ← UInt8.toNat_inj,
          UInt8.toNat_ofNat'] at h
        omega

theorem percentBytes_percentByte (byte : UInt8) (rest : List Char) :
    percentBytes (percentByte byte ++ rest) = byte :: percentBytes rest := by
  have hbyte := byte.toNat_lt
  have hfirst := digitValue?_upperHexDigit (byte.toNat / 16) (by omega)
  have hsecond := digitValue?_upperHexDigit (byte.toNat % 16) (by omega)
  have hdigits : byte.toNat / 16 * 16 + byte.toNat % 16 = byte.toNat := by omega
  simp only [percentByte, List.cons_append, List.nil_append, percentBytes, hfirst, hsecond,
    hdigits, UInt8.ofNat_toNat]

theorem plainDots_cons {c : Char} (hc : c ≠ '%') (rest : List Char) :
    plainDots (c :: rest) = c :: plainDots rest := by
  rw [plainDots]
  · rintro others rfl
    exact absurd rfl hc
  · rintro others rfl
    exact absurd rfl hc

theorem plainDots_percentByte {byte : UInt8} (hbyte : byte.toNat ≠ '.'.toNat) (rest : List Char) :
    plainDots (percentByte byte ++ rest) = percentByte byte ++ plainDots rest := by
  have hlt := byte.toNat_lt
  have hhigh := upperHexDigit_ne (byte.toNat / 16) (by omega)
  have hlow := upperHexDigit_ne (byte.toNat % 16) (by omega)
  have hdigits (htwo : upperHexDigit (byte.toNat / 16) = '2')
      (he : upperHexDigit (byte.toNat % 16) = 'e' ∨ upperHexDigit (byte.toNat % 16) = 'E') :
      False := by
    have hdot := eq_dot_of_digits _ (by omega) _ (by omega) htwo he
    omega
  show plainDots ('%' :: upperHexDigit (byte.toNat / 16) :: upperHexDigit (byte.toNat % 16) ::
    rest) = _
  rw [plainDots, plainDots_cons hhigh.1, plainDots_cons hlow.1]
  · rfl
  · intro others _ heq
    obtain ⟨htwo, hrest⟩ := List.cons.inj heq
    exact hdigits htwo (.inl (List.cons.inj hrest).1)
  · intro others _ heq
    obtain ⟨htwo, hrest⟩ := List.cons.inj heq
    exact hdigits htwo (.inr (List.cons.inj hrest).1)

theorem slash_notMem_percentByte (byte : UInt8) : '/' ∉ percentByte byte := by
  have hbyte := byte.toNat_lt
  simp [percentByte, (upperHexDigit_ne (byte.toNat / 16) (by omega)).2.symm,
    (upperHexDigit_ne (byte.toNat % 16) (by omega)).2.symm]

/-! ## Texts -/

section

variable {marks : List Char}

/-- Whether a character is replaced. -/
def isEncoded (marks : List Char) (c : Char) : Bool :=
  isNeverPlain c || marks.contains c

theorem encode_cons_of_encoded {c : Char} (hc : isEncoded marks c = true) (cs : List Char) :
    encode marks (c :: cs) = percentChars c ++ encode marks cs :=
  congrArg (· ++ encode marks cs) (if_pos hc)

theorem encode_cons_of_plain {c : Char} (hc : ¬isEncoded marks c = true) (cs : List Char) :
    encode marks (c :: cs) = c :: encode marks cs :=
  congrArg (· ++ encode marks cs) (if_neg hc)

theorem percentBytes_percentChars (c : Char) (rest : List Char) :
    percentBytes (percentChars c ++ rest) = String.utf8EncodeChar c ++ percentBytes rest := by
  rw [percentChars_eq]
  induction String.utf8EncodeChar c with
  | nil => rfl
  | cons byte bytes ih =>
      rw [List.flatMap_cons, List.append_assoc, percentBytes_percentByte, ih, List.cons_append]

theorem percentBytes_cons {c : Char} (hc : c ≠ '%') (rest : List Char) :
    percentBytes (c :: rest) = String.utf8EncodeChar c ++ percentBytes rest := by
  rw [percentBytes]
  rintro high low others rfl
  exact absurd rfl hc

/-- The bytes of an encoding are those of the text, if that had no percent signs itself. -/
theorem percentBytes_encode {cs : List Char} (hplain : '%' ∉ cs) :
    percentBytes (encode marks cs) = cs.flatMap String.utf8EncodeChar := by
  induction cs with
  | nil => rfl
  | cons c cs ih =>
      obtain ⟨hc, hcs⟩ := not_or.mp (hplain ∘ List.mem_cons.mpr)
      rw [List.flatMap_cons, ← ih hcs]
      by_cases hencoded : isEncoded marks c = true
      · rw [encode_cons_of_encoded hencoded, percentBytes_percentChars]
      · rw [encode_cons_of_plain hencoded, percentBytes_cons (Ne.symm hc)]

theorem plainDots_percentChars {c : Char} (hc : c ≠ '.') (rest : List Char) :
    plainDots (percentChars c ++ rest) = percentChars c ++ plainDots rest := by
  have hbytes : ∀ byte ∈ String.utf8EncodeChar c, byte.toNat ≠ '.'.toNat := by
    intro byte hbyte heq
    obtain hsame | hhigh := toNat_eq_or_le_of_mem hbyte
    · exact hc (Char.toNat_inj.mp (hsame.symm.trans heq))
    · rw [heq] at hhigh
      exact absurd hhigh (by decide)
  rw [percentChars_eq]
  generalize String.utf8EncodeChar c = bytes at hbytes
  induction bytes with
  | nil => rfl
  | cons byte bytes ih =>
      obtain ⟨hbyte, hbytes⟩ := List.forall_mem_cons.mp hbytes
      rw [List.flatMap_cons, List.append_assoc, plainDots_percentByte hbyte, ih hbytes,
        List.append_assoc]

theorem exists_percentChars_eq (c : Char) : ∃ digits, percentChars c = '%' :: digits := by
  rw [percentChars_eq]
  cases hbytes : String.utf8EncodeChar c with
  | nil => exact absurd hbytes String.utf8EncodeChar_ne_nil
  | cons byte bytes => exact ⟨_, rfl⟩

/-- What an encoding begins with apart from a percent sign, its text begins with. -/
theorem exists_eq_cons_of_encode {cs rest : List Char} {c : Char} (hc : c ≠ '%')
    (h : encode marks cs = c :: rest) :
    ∃ others, cs = c :: others ∧ encode marks others = rest := by
  cases cs with
  | nil => cases h
  | cons first others =>
      by_cases hencoded : isEncoded marks first = true
      · obtain ⟨digits, hdigits⟩ := exists_percentChars_eq first
        rw [encode_cons_of_encoded hencoded, hdigits] at h
        exact absurd (List.cons.inj h).1.symm hc
      · rw [encode_cons_of_plain hencoded] at h
        obtain ⟨rfl, hrest⟩ := List.cons.inj h
        exact ⟨others, rfl, hrest⟩

theorem eq_nil_of_encode_eq_nil {cs : List Char} (h : encode marks cs = []) : cs = [] := by
  cases cs with
  | nil => rfl
  | cons first others =>
      by_cases hencoded : isEncoded marks first = true
      · obtain ⟨digits, hdigits⟩ := exists_percentChars_eq first
        rw [encode_cons_of_encoded hencoded, hdigits] at h
        cases h
      · rw [encode_cons_of_plain hencoded] at h
        cases h

/-- Dots may be resolved before or after a segment is encoded. -/
theorem plainDots_encode (cs : List Char) :
    plainDots (encode pathMarks cs) = encode pathMarks (plainDots cs) := by
  have hplain : ∀ c ∈ ['%', '2', 'e', 'E', '.'], ¬isEncoded pathMarks c = true := by
    simp [isEncoded, isNeverPlain, pathMarks, fragmentMarks]
  fun_induction plainDots cs with
  | case1 rest ih =>
      rw [encode_cons_of_plain (hplain '%' (by decide)),
        encode_cons_of_plain (hplain '2' (by decide)),
        encode_cons_of_plain (hplain 'e' (by decide)),
        encode_cons_of_plain (hplain '.' (by decide)), plainDots, ih]
  | case2 rest ih =>
      rw [encode_cons_of_plain (hplain '%' (by decide)),
        encode_cons_of_plain (hplain '2' (by decide)),
        encode_cons_of_plain (hplain 'E' (by decide)),
        encode_cons_of_plain (hplain '.' (by decide)), plainDots, ih]
  | case3 c rest hlower hupper ih =>
      by_cases hencoded : isEncoded pathMarks c = true
      · have hc : c ≠ '.' := by
          rintro rfl
          exact hplain '.' (by decide) hencoded
        rw [encode_cons_of_encoded hencoded, encode_cons_of_encoded hencoded,
          plainDots_percentChars hc, ih]
      · rw [encode_cons_of_plain hencoded, encode_cons_of_plain hencoded, plainDots, ih]
        · intro others hpercent heq
          obtain ⟨behind, rfl, hbehind⟩ := exists_eq_cons_of_encode (by decide) heq
          obtain ⟨last, rfl, -⟩ := exists_eq_cons_of_encode (by decide) hbehind
          exact hlower last hpercent rfl
        · intro others hpercent heq
          obtain ⟨behind, rfl, hbehind⟩ := exists_eq_cons_of_encode (by decide) heq
          obtain ⟨last, rfl, -⟩ := exists_eq_cons_of_encode (by decide) hbehind
          exact hupper last hpercent rfl
  | case4 => rfl

theorem encode_injective {first second : List Char} (hfirst : '%' ∉ first)
    (hsecond : '%' ∉ second) (heq : encode marks first = encode marks second) :
    first = second := by
  have hbytes := congrArg percentBytes heq
  rw [percentBytes_encode hfirst, percentBytes_encode hsecond] at hbytes
  have hstrings : String.ofList first = String.ofList second := by
    rw [← String.toByteArray_inj, String.toByteArray_ofList, String.toByteArray_ofList]
    exact congrArg List.toByteArray hbytes
  exact String.ofList_injective hstrings

theorem slash_notMem_encode {cs : List Char} (hplain : '/' ∉ cs) : '/' ∉ encode marks cs := by
  intro hmem
  obtain ⟨c, hc, hslash⟩ := List.mem_flatMap.mp hmem
  split at hslash
  case isTrue =>
    obtain ⟨byte, -, hbyte⟩ := List.mem_flatMap.mp hslash
    exact slash_notMem_percentByte byte hbyte
  case isFalse =>
    obtain rfl := List.mem_singleton.mp hslash
    exact hplain hc

end

end CloudSteward.Http
