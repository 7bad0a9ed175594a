/-!
# Pieces of a text

A text cut at every mark.  There is always one piece more than there are marks, so
that the pieces and the marks make up the text again.
-/

namespace CloudSteward.Text

/-- The pieces of a text between the characters for which `isMark` holds. -/
def pieces (isMark : Char → Bool) : List Char → List (List Char)
  | [] => [[]]
  | c :: rest =>
      if isMark c then [] :: pieces isMark rest
      else
        match pieces isMark rest with
        | [] => [[c]]
        | first :: others => (c :: first) :: others

/-- There is one piece more than there are marks. -/
theorem length_pieces (isMark : Char → Bool) (cs : List Char) :
    (pieces isMark cs).length = cs.countP isMark + 1 := by
  induction cs with
  | nil => rfl
  | cons c rest ih =>
    rw [pieces, List.countP_cons]
    split
    · simp [ih]
    · next h =>
      split
      · next hnone => simp [hnone] at ih
      · next first others hsome =>
        rw [hsome] at ih
        simpa using ih

/-- A text is cut at a mark into the pieces before it and those behind it. -/
theorem pieces_append_mark {isMark : Char → Bool} {mark : Char} (hmark : isMark mark = true)
    (front back : List Char) :
    pieces isMark (front ++ mark :: back) =
      pieces isMark front ++ pieces isMark back := by
  induction front with
  | nil => simp [pieces, hmark]
  | cons c front ih =>
      rw [List.cons_append, pieces, pieces]
      by_cases hc : isMark c = true
      · rw [if_pos hc, if_pos hc, ih, List.cons_append]
      · rw [if_neg hc, if_neg hc, ih]
        cases hpieces : pieces isMark front with
        | nil =>
            have hlength := length_pieces isMark front
            simp [hpieces] at hlength
        | cons first others => rfl

/-- A text without a mark is its only piece. -/
theorem pieces_of_forall_not {isMark : Char → Bool} {cs : List Char}
    (h : ∀ c ∈ cs, isMark c = false) : pieces isMark cs = [cs] := by
  induction cs with
  | nil => rfl
  | cons c rest ih =>
    obtain ⟨hc, hrest⟩ := List.forall_mem_cons.mp h
    simp [pieces, hc, ih hrest]

/-- What stands before the first mark is the first piece. -/
theorem pieces_append_cons {isMark : Char → Bool} {piece : List Char} {mark : Char}
    (h : ∀ c ∈ piece, isMark c = false) (hmark : isMark mark = true) (rest : List Char) :
    pieces isMark (piece ++ mark :: rest) = piece :: pieces isMark rest := by
  rw [pieces_append_mark hmark, pieces_of_forall_not h, List.singleton_append]

end CloudSteward.Text
