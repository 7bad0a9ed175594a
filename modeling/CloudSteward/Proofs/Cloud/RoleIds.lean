import CloudSteward.Proofs.Cloud.Roles
import Mathlib.Algebra.Group.Nat.Defs

/-!
# The order of role ids

The cloud writes the number of a role with leading zeros where it has fewer than four digits, so
that ids can be sorted as texts.  Texts are compared glyph by glyph from the front.  As long as
two numbers are written with equally many digits, that is the order of the numbers
(`lt_iff_ofDigitChars_lt`); where the later one has more digits, only as many of its leading ones
are looked at as the earlier one has (`append_lt_iff`).

So an id may come first although its number was given out later (`Overtakes`, `roleIdOf_lt_iff`),
but this takes a number of five digits.
-/

namespace CloudSteward.MemoryCloud

/-! ## Lists of digits -/

section Digits

variable {first second front behind : List Char}

/-- A digit in front counts as often as the power of ten that the digits behind it tell. -/
theorem ofDigitChars_cons_zero (c : Char) (rest : List Char) :
    Nat.ofDigitChars 10 (c :: rest) 0 =
      10 ^ rest.length * (c.toNat - 48) + Nat.ofDigitChars 10 rest 0 := by
  rw [Nat.ofDigitChars_cons, Nat.ofDigitChars_eq_ofDigitChars_zero, Nat.mul_zero, Nat.zero_add]
  rfl

theorem toNat_bounds_of_isDigit {c : Char} (h : c.isDigit = true) :
    48 ≤ c.toNat ∧ c.toNat ≤ 57 :=
  Char.isDigit_iff_toNat.mp h

/-- What digits stand for is below the power of ten that their number tells. -/
theorem ofDigitChars_lt (hdigits : ∀ c ∈ first, c.isDigit = true) :
    Nat.ofDigitChars 10 first 0 < 10 ^ first.length := by
  induction first with
  | nil => simp
  | cons c rest ih =>
      obtain ⟨hc, hrest⟩ := List.forall_mem_cons.mp hdigits
      have hbounds := toNat_bounds_of_isDigit hc
      have hbehind := ih hrest
      calc
        Nat.ofDigitChars 10 (c :: rest) 0 =
            10 ^ rest.length * (c.toNat - 48) + Nat.ofDigitChars 10 rest 0 :=
          ofDigitChars_cons_zero c rest
        _ ≤ 10 ^ rest.length * 9 + Nat.ofDigitChars 10 rest 0 := by
          apply Nat.add_le_add_right
          apply Nat.mul_le_mul_left
          omega
        _ < 10 ^ rest.length * 10 := by omega

/-- The first digits decide, unless they are the same. -/
theorem mul_add_lt_iff {unit high low other rest : Nat} (hlow : low < unit) (hrest : rest < unit) :
    unit * high + low < unit * other + rest ↔ high < other ∨ high = other ∧ low < rest := by
  rcases Nat.lt_trichotomy high other with hlt | rfl | hgt
  · have hstep : unit * (high + 1) ≤ unit * other := Nat.mul_le_mul_left _ hlt
    rw [Nat.mul_add, Nat.mul_one] at hstep
    omega
  · omega
  · have hstep : unit * (other + 1) ≤ unit * high := Nat.mul_le_mul_left _ hgt
    rw [Nat.mul_add, Nat.mul_one] at hstep
    omega

/-- Equally many digits are sorted as what they stand for. -/
theorem lt_iff_ofDigitChars_lt (hlength : first.length = second.length)
    (hfirst : ∀ c ∈ first, c.isDigit = true) (hsecond : ∀ c ∈ second, c.isDigit = true) :
    first < second ↔ Nat.ofDigitChars 10 first 0 < Nat.ofDigitChars 10 second 0 := by
  induction first generalizing second with
  | nil =>
      obtain rfl := List.length_eq_zero_iff.mp hlength.symm
      simp
  | cons c rest ih =>
      cases second with
      | nil => cases hlength
      | cons d others =>
          obtain ⟨hc, hrest⟩ := List.forall_mem_cons.mp hfirst
          obtain ⟨hd, hothers⟩ := List.forall_mem_cons.mp hsecond
          have hbehind : rest.length = others.length := Nat.succ.inj hlength
          have hcbounds := toNat_bounds_of_isDigit hc
          have hdbounds := toNat_bounds_of_isDigit hd
          have hvalue := ofDigitChars_lt hrest
          have hother := ofDigitChars_lt hothers
          rw [hbehind] at hvalue
          rw [List.cons_lt_cons_iff, ih hbehind hrest hothers, ofDigitChars_cons_zero,
            ofDigitChars_cons_zero, hbehind, mul_add_lt_iff hvalue hother]
          have hlt : c < d ↔ c.toNat < d.toNat := Iff.rfl
          have heq : c = d ↔ c.toNat = d.toNat := Char.toNat_inj.symm
          rw [hlt, heq]
          omega

/-- Of the longer text only the front is looked at. -/
theorem append_lt_iff (hlength : front.length = second.length) :
    front ++ behind < second ↔ front < second := by
  induction front generalizing second with
  | nil =>
      obtain rfl := List.length_eq_zero_iff.mp hlength.symm
      simp
  | cons c rest ih =>
      cases second with
      | nil => cases hlength
      | cons d others =>
          rw [List.cons_append, List.cons_lt_cons_iff, List.cons_lt_cons_iff,
            ih (Nat.succ.inj hlength)]

/-- The leading digits stand for the quotient by a power of ten. -/
theorem ofDigitChars_append_div (hdigits : ∀ c ∈ behind, c.isDigit = true) :
    Nat.ofDigitChars 10 (front ++ behind) 0 / 10 ^ behind.length = Nat.ofDigitChars 10 front 0 := by
  rw [Nat.ofDigitChars_append, Nat.ofDigitChars_eq_ofDigitChars_zero,
    Nat.mul_add_div (Nat.pow_pos (by decide)), Nat.div_eq_of_lt (ofDigitChars_lt hdigits),
    Nat.add_zero]

end Digits

/-! ## Numbers with at least four digits -/

/-- With how many digits a number is written: four, or as many as it has. -/
def width (number : Nat) : Nat :=
  max 4 (Nat.toDigits 10 number).length

theorem length_fourDigits (number : Nat) : (fourDigits number).toList.length = width number := by
  unfold width fourDigits
  rw [String.toList_ofList, List.length_append, List.length_replicate]
  omega

theorem isDigit_of_mem_fourDigits {number : Nat} {c : Char} (h : c ∈ (fourDigits number).toList) :
    c.isDigit = true := by
  unfold fourDigits at h
  rw [String.toList_ofList, List.mem_append] at h
  rcases h with hzero | hdigit
  · rw [(List.mem_replicate.mp hzero).2]
    rfl
  · exact Nat.isDigit_of_mem_toDigits (by decide) (by decide) hdigit

theorem width_mono {earlier later : Nat} (h : earlier ≤ later) : width earlier ≤ width later := by
  have hlater : later < 10 ^ (Nat.toDigits 10 later).length :=
    (Nat.length_toDigits_le_iff (by decide) Nat.length_toDigits_pos).mp (Nat.le_refl _)
  have hlength : (Nat.toDigits 10 earlier).length ≤ (Nat.toDigits 10 later).length :=
    (Nat.length_toDigits_le_iff (by decide) Nat.length_toDigits_pos).mpr (by omega)
  unfold width
  omega

theorem width_eq_four {number : Nat} (h : number < 10 ^ 4) : width number = 4 := by
  have hlength : (Nat.toDigits 10 number).length ≤ 4 :=
    (Nat.length_toDigits_le_iff (by decide) (by decide)).mpr h
  unfold width
  omega

/-! ## Ids -/

/-- The id of a later number comes before that of an earlier one: its leading digits, as many as
the earlier one is written with, make a smaller number. -/
def Overtakes (later earlier : Nat) : Prop :=
  earlier < later ∧ later / 10 ^ (width later - width earlier) < earlier

theorem roleIdOf_lt_iff_fourDigits {first second : Nat} :
    roleIdOf first < roleIdOf second ↔
      (fourDigits first).toList < (fourDigits second).toList := by
  show (roleIdOf first).toList < (roleIdOf second).toList ↔ _
  simp [roleIdOf]

/-- The ids of numbers come in the order of the numbers, unless the later one overtakes. -/
theorem roleIdOf_lt_iff {earlier later : Nat} (h : earlier < later) :
    roleIdOf later < roleIdOf earlier ↔ Overtakes later earlier := by
  -- Cut the digits of the later number where those of the earlier one end.
  obtain ⟨front, behind, hsplit, hlength⟩ : ∃ front behind,
      (fourDigits later).toList = front ++ behind ∧
        front.length = (fourDigits earlier).toList.length := by
    refine ⟨_, _, (List.take_append_drop (width earlier) _).symm, ?_⟩
    rw [List.length_take, length_fourDigits, length_fourDigits]
    exact Nat.min_eq_left (width_mono (Nat.le_of_lt h))
  have hdigits : ∀ c ∈ front ++ behind, c.isDigit = true := by
    intro c hc
    exact isDigit_of_mem_fourDigits (hsplit ▸ hc)
  obtain ⟨hfront, hbehind⟩ := List.forall_mem_append.mp hdigits
  have hrest : behind.length = width later - width earlier := by
    rw [← length_fourDigits, ← length_fourDigits, hsplit, List.length_append, hlength]
    omega
  have hvalue : Nat.ofDigitChars 10 front 0 = later / 10 ^ (width later - width earlier) := by
    rw [← ofDigitChars_append_div hbehind, ← hsplit, ofDigitChars_fourDigits, hrest]
  rw [roleIdOf_lt_iff_fourDigits, hsplit, append_lt_iff hlength,
    lt_iff_ofDigitChars_lt hlength hfront (fun c hc => isDigit_of_mem_fourDigits hc), hvalue,
    ofDigitChars_fourDigits]
  exact (and_iff_right h).symm

example : roleIdOf 10000 < roleIdOf 9999 := by decide

/-- Nothing overtakes with four digits. -/
theorem Overtakes.le {later earlier : Nat} (h : Overtakes later earlier) : 10 ^ 4 ≤ later := by
  by_contra hfew
  obtain ⟨hlt, hfirst⟩ := h
  have hlater : later < 10 ^ 4 := Nat.not_le.mp hfew
  have hearlier : earlier < 10 ^ 4 := Nat.lt_trans hlt hlater
  rw [width_eq_four hlater, width_eq_four hearlier, Nat.sub_self, Nat.pow_zero,
    Nat.div_one] at hfirst
  omega

end CloudSteward.MemoryCloud
