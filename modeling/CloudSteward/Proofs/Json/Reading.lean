import CloudSteward.Json.Contents
import CloudSteward.Proofs.Json.Strings

/-!
# Written values can be read

What the writer makes of a value, in either layout, is read as a tree that stands for
that value and has no fault (`spells_of_written`), as long as the value has no numbers
and its containers do not nest deeper than the reader goes.

The reader skips blanks in front of a value, and it is handed the text that follows the
value too.  So reading a part is stated for any place whose text, behind its blanks, is
the written part and then anything; the result is a tree and the place in front of that
anything.
-/

namespace CloudSteward.Json

open Text

/-! ## Values that can be read back -/

/-- Whether a value is free of numbers and its containers nest at most so deep. -/
def Fits : Nat → Json → Prop
  | _, .null => True
  | _, .boolean _ => True
  | _, .number _ => False
  | _, .string _ => True
  | 0, .array _ => False
  | deeper + 1, .array items => ∀ item ∈ items, Fits deeper item
  | 0, .object _ => False
  | deeper + 1, .object members => ∀ member ∈ members, Fits deeper member.2

/-- A tree that stands for a value and is sound all through. -/
structure Node.Spells (node : Node) (value : Json) : Prop where
  contents : node.contents? = some value
  sound : node.fault? = none

/-- The same of the items of a list. -/
structure Items.Spells (items : Items) (values : List Json) : Prop where
  contents : items.contents? = some values
  sound : items.fault? = none

/-- The same of the members of a map. -/
structure Members.Spells (members : Members) (values : List (String × Json)) : Prop where
  contents : members.contents? = some values
  sound : members.fault? = none

theorem Items.spells_close (stop : Nat) : (Items.close stop).Spells [] := ⟨rfl, rfl⟩

theorem Members.spells_close (stop : Nat) : (Members.close stop).Spells [] := ⟨rfl, rfl⟩

theorem Items.Spells.item {node : Node} {rest : Items} {value : Json} {values : List Json}
    (hnode : node.Spells value) (hrest : rest.Spells values) (resting : Nat) :
    (Items.item node resting rest).Spells (value :: values) where
  contents := by simp only [Items.contents?, hnode.contents, hrest.contents]
  sound := by simp only [Items.fault?, hnode.sound, hrest.sound, Option.or_none]

theorem Members.Spells.member {node : Node} {rest : Members} {value : Json}
    {values : List (String × Json)} (hnode : node.Spells value) (hrest : rest.Spells values)
    (name : String) (keyStop behindKey resting : Nat) :
    (Members.member (.ok name) none keyStop behindKey node resting rest).Spells
      ((name, value) :: values) where
  contents := by simp only [Members.contents?, hnode.contents, hrest.contents]
  sound := by simp only [Members.fault?, hnode.sound, hrest.sound, Option.or_none]

theorem Items.Spells.list {items : Items} {values : List Json} (hitems : items.Spells values)
    {depth : Nat} (hdepth : depth ≤ depthLimit) (start : Nat) :
    (Node.list start depth items).Spells (.array values) where
  contents := by simp only [Node.contents?, hitems.contents, Option.map_some]
  sound := by
    have hshallow : depthFault start depth = none := if_neg (Nat.not_lt.mpr hdepth)
    simp only [Node.fault?, hshallow, hitems.sound, Option.or_none]

theorem Members.Spells.map {members : Members} {values : List (String × Json)}
    (hmembers : members.Spells values) {depth : Nat} (hdepth : depth ≤ depthLimit)
    (start : Nat) : (Node.map start depth members).Spells (.object values) where
  contents := by simp only [Node.contents?, hmembers.contents, Option.map_some]
  sound := by
    have hshallow : depthFault start depth = none := if_neg (Nat.not_lt.mpr hdepth)
    simp only [Node.fault?, hshallow, hmembers.sound, Option.or_none]

/-- The outcome of reading a part of a text: a tree that spells the value, and the place
in front of the text that is left. -/
def Completes {Tree Value : Type} (spells : Tree → Value → Prop)
    (outcome : Tree × Option Cursor) (value : Value) (left : Text) : Prop :=
  ∃ tree stop, outcome = (tree, some ⟨stop, left⟩) ∧ spells tree value

/-! ## Blanks -/

theorem skipBlanksFrom_of_not_blank {glyph : Glyph} (hglyph : Cursor.isBlank glyph = false)
    (offset : Nat) (rest : Text) :
    Cursor.skipBlanksFrom offset (glyph :: rest) = ⟨offset, glyph :: rest⟩ := by
  rw [Cursor.skipBlanksFrom, hglyph]
  rfl

/-- Skipping passes over blanks, and stops at anything else. -/
theorem skipBlanksFrom_blanks {blanks : List Char}
    (hblanks : ∀ c ∈ blanks, Cursor.isBlank (.char c) = true) {glyph : Glyph}
    (hglyph : Cursor.isBlank glyph = false) (offset : Nat) (rest : Text) :
    (Cursor.skipBlanksFrom offset (ofChars blanks ++ glyph :: rest)).text = glyph :: rest := by
  induction blanks generalizing offset with
  | nil => exact congrArg Cursor.text (skipBlanksFrom_of_not_blank hglyph offset rest)
  | cons c blanks ih =>
      have hfirst := hblanks c List.mem_cons_self
      have hskip : Cursor.skipBlanksFrom offset (ofChars (c :: blanks) ++ glyph :: rest) =
          Cursor.skipBlanksFrom (offset + 1) (ofChars blanks ++ glyph :: rest) := by
        show Cursor.skipBlanksFrom offset (.char c :: (ofChars blanks ++ glyph :: rest)) = _
        rw [Cursor.skipBlanksFrom, hfirst]
        rfl
      rw [hskip]
      exact ih (fun d hd => hblanks d (List.mem_cons_of_mem _ hd)) (offset + 1)

theorem isBlank_of_mem_newLine (layout : Layout) (depth : Nat) :
    ∀ c ∈ layout.newLine depth, Cursor.isBlank (.char c) = true := by
  intro c hc
  cases layout with
  | compact => exact absurd hc List.not_mem_nil
  | indented =>
      rcases List.mem_cons.mp hc with rfl | hspace
      · decide
      · rw [List.eq_of_mem_replicate hspace]
        decide

/-- What stands behind a colon are blanks. -/
theorem exists_colon (layout : Layout) :
    ∃ blanks, layout.colon = ':' :: blanks ∧
      ∀ c ∈ blanks, Cursor.isBlank (.char c) = true := by
  cases layout with
  | compact => exact ⟨[], rfl, List.forall_mem_nil _⟩
  | indented => exact ⟨[' '], rfl, List.forall_mem_singleton.mpr (by decide)⟩

/-- The first character of a written value is no blank and closes nothing. -/
theorem exists_first {n : Nat} {value : Json} (hfits : value.Fits n) (layout : Layout)
    (level : Nat) :
    ∃ c cs, value.chars layout level = c :: cs ∧ Cursor.isBlank (.char c) = false ∧ c ≠ ']' := by
  match value with
  | .null => exact ⟨_, _, rfl, by decide, by decide⟩
  | .boolean true => exact ⟨_, _, rfl, by decide, by decide⟩
  | .boolean false => exact ⟨_, _, rfl, by decide, by decide⟩
  | .number _ => cases n <;> exact hfits.elim
  | .string _ => exact ⟨_, _, rfl, by decide, by decide⟩
  | .array [] => exact ⟨_, _, rfl, by decide, by decide⟩
  | .array (_ :: _) => exact ⟨_, _, rfl, by decide, by decide⟩
  | .object [] => exact ⟨_, _, rfl, by decide, by decide⟩
  | .object (_ :: _) => exact ⟨_, _, rfl, by decide, by decide⟩

/-- In front of anything, a value begins with a character that is no blank and closes
nothing. -/
theorem exists_start {n : Nat} {value : Json} (hfits : value.Fits n) (layout : Layout)
    (level : Nat) (more : Text) :
    ∃ c behind, ofChars (value.chars layout level) ++ more = .char c :: behind ∧
      Cursor.isBlank (.char c) = false ∧ c ≠ ']' := by
  obtain ⟨c, cs, hchars, hblank, hopen⟩ := exists_first hfits layout level
  refine ⟨c, ofChars cs ++ more, ?_, hblank, hopen⟩
  rw [hchars]
  rfl

/-- Where the text behind the blanks is known, only the place is left open. -/
theorem exists_place {text next : Text}
    (hnext : ∀ offset, (Cursor.skipBlanksFrom offset text).text = next) (offset : Nat) :
    ∃ place, Cursor.skipBlanksFrom offset text = ⟨place, next⟩ :=
  ⟨(Cursor.skipBlanksFrom offset text).offset, by rw [← hnext offset]⟩

/-- Skipping blanks twice is skipping them once. -/
theorem skipBlanks_skipBlanks (cursor : Cursor) :
    cursor.skipBlanks.skipBlanks = cursor.skipBlanks := by
  obtain ⟨offset, text⟩ := cursor
  show Cursor.skipBlanks (Cursor.skipBlanksFrom offset text) = Cursor.skipBlanksFrom offset text
  induction text generalizing offset with
  | nil => rfl
  | cons glyph text ih =>
      by_cases hblank : Cursor.isBlank glyph = true
      · rw [Cursor.skipBlanksFrom, if_pos hblank]
        exact ih (offset + 1)
      · have hstop := skipBlanksFrom_of_not_blank (Bool.not_eq_true _ ▸ hblank) offset text
        rw [hstop]
        exact hstop

/-! ## Scalars -/

theorem scanWord_written (value : Scalar) (letters : List Char) (offset : Nat) (rest : Text) :
    scanWord value letters offset (ofChars letters ++ rest) =
      .done value (offset + letters.length) rest := by
  induction letters generalizing offset with
  | nil => rfl
  | cons letter letters ih =>
      show scanWord value (letter :: letters) offset (.char letter :: (ofChars letters ++ rest)) = _
      rw [scanWord, if_pos rfl, ih, List.length_cons, Nat.add_assoc, Nat.add_comm 1]

variable {fuel depth : Nat} {cursor : Cursor} {rest : Text}

/-- A scalar that is as it should be becomes a leaf of the tree. -/
theorem readNode_scalar {glyph : Glyph} {text : Text} {scalar : Scalar} {stop : Nat}
    (htext : cursor.skipBlanks.text = glyph :: text) (hlist : glyph ≠ .char '[')
    (hmap : glyph ≠ .char '\x7b')
    (hscan : scanScalar? cursor.skipBlanks.offset (glyph :: text) = some (.done scalar stop rest)) :
    Completes Node.Spells (readNode (fuel + 1) depth cursor) scalar.contents rest := by
  refine ⟨.scalar cursor.skipBlanks.offset stop (some glyph = some (.char '"')) (.ok scalar) none,
    stop, ?_, rfl, rfl⟩
  rw [readNode]
  simp only [htext]
  split
  · rename_i hnil
    exact absurd hnil (List.cons_ne_nil _ _)
  · rename_i heq
    exact absurd (List.cons.inj heq).1 hlist
  · rename_i heq
    exact absurd (List.cons.inj heq).1 hmap
  · rw [hscan]
    rfl

/-! ## Lists -/

variable {text between : Text} {value : Json} {values : List Json}

theorem readNode_list (htext : cursor.skipBlanks.text = .char '[' :: text)
    (hdepth : depth + 1 ≤ depthLimit)
    (hitems : ∀ offset,
      Completes Items.Spells (readFirstItem fuel (depth + 1) ⟨offset, text⟩) values rest) :
    Completes Node.Spells (readNode (fuel + 1) depth cursor) (.array values) rest := by
  obtain ⟨items, stop, hread, hspells⟩ := hitems (cursor.skipBlanks.offset + 1)
  refine ⟨.list cursor.skipBlanks.offset (depth + 1) items, stop, ?_, hspells.list hdepth _⟩
  rw [readNode]
  simp only [htext, hread]

theorem readFirstItem_close (htext : cursor.skipBlanks.text = .char ']' :: rest) :
    Completes Items.Spells (readFirstItem (fuel + 1) depth cursor) [] rest := by
  refine ⟨_, cursor.skipBlanks.offset + 1, ?_, Items.spells_close (cursor.skipBlanks.offset + 1)⟩
  rw [readFirstItem]
  simp only [htext]

theorem readFirstItem_item {c : Char} (htext : cursor.skipBlanks.text = .char c :: text)
    (hc : c ≠ ']')
    (hitem : Completes Items.Spells (readItem fuel depth cursor.skipBlanks) values rest) :
    Completes Items.Spells (readFirstItem (fuel + 1) depth cursor) values rest := by
  rw [readFirstItem]
  simp only [htext]
  split
  · rename_i hnil
    exact absurd hnil (List.cons_ne_nil _ _)
  · rename_i heq
    exact absurd (Glyph.char.inj (List.cons.inj heq).1) hc
  · exact hitem

theorem readItem_value
    (hnode : Completes Node.Spells (readNode fuel depth cursor) value between)
    (hmore : ∀ offset,
      Completes Items.Spells (readMoreItems fuel depth ⟨offset, between⟩) values rest) :
    Completes Items.Spells (readItem (fuel + 1) depth cursor) (value :: values) rest := by
  obtain ⟨node, behind, hread, hspells⟩ := hnode
  obtain ⟨items, stop, hreadMore, hspellsMore⟩ := hmore behind
  refine ⟨_, stop, ?_, .item hspells hspellsMore (Cursor.mk behind between).restBehindItem⟩
  rw [readItem, hread]
  simp only [hreadMore]

theorem readMoreItems_close (htext : cursor.skipBlanks.text = .char ']' :: rest) :
    Completes Items.Spells (readMoreItems (fuel + 1) depth cursor) [] rest := by
  refine ⟨_, cursor.skipBlanks.offset + 1, ?_, Items.spells_close (cursor.skipBlanks.offset + 1)⟩
  rw [readMoreItems]
  simp only [htext]

theorem readMoreItems_item {c : Char} (htext : cursor.skipBlanks.text = .char ',' :: between)
    (hnext : ∀ offset, (Cursor.skipBlanksFrom offset between).text = .char c :: text)
    (hc : c ≠ ']')
    (hitem : ∀ offset,
      Completes Items.Spells (readItem fuel depth ⟨offset, .char c :: text⟩) values rest) :
    Completes Items.Spells (readMoreItems (fuel + 1) depth cursor) values rest := by
  rw [readMoreItems]
  simp only [htext]
  obtain ⟨offset, hplace⟩ := exists_place hnext (cursor.skipBlanks.offset + 1)
  simp only [hplace]
  split
  · rename_i hnil
    exact absurd hnil (List.cons_ne_nil _ _)
  · rename_i heq
    exact absurd (Glyph.char.inj (List.cons.inj heq).1) hc
  · exact hitem offset

/-! ## Maps -/

variable {members : List (String × Json)}

theorem readNode_map (htext : cursor.skipBlanks.text = .char '\x7b' :: text)
    (hdepth : depth + 1 ≤ depthLimit)
    (hmembers : ∀ offset,
      Completes Members.Spells (readFirstMember fuel (depth + 1) ⟨offset, text⟩) members rest) :
    Completes Node.Spells (readNode (fuel + 1) depth cursor) (.object members) rest := by
  obtain ⟨tree, stop, hread, hspells⟩ := hmembers (cursor.skipBlanks.offset + 1)
  refine ⟨.map cursor.skipBlanks.offset (depth + 1) tree, stop, ?_, hspells.map hdepth _⟩
  rw [readNode]
  simp only [htext, hread]

theorem readFirstMember_close (htext : cursor.skipBlanks.text = .char '\x7d' :: rest) :
    Completes Members.Spells (readFirstMember (fuel + 1) depth cursor) [] rest := by
  refine ⟨_, cursor.skipBlanks.offset + 1, ?_, Members.spells_close (cursor.skipBlanks.offset + 1)⟩
  rw [readFirstMember]
  simp only [htext]

theorem readFirstMember_member (htext : cursor.skipBlanks.text = .char '"' :: text)
    (hmember : Completes Members.Spells (readMember fuel depth cursor.skipBlanks) members rest) :
    Completes Members.Spells (readFirstMember (fuel + 1) depth cursor) members rest := by
  rw [readFirstMember]
  simp only [htext]
  exact hmember

/-- A member is its name, a colon, and its value. -/
theorem readMember_named {name : String} {offset stop : Nat} {behindName behindColon : Text}
    (hname : scanString .start (offset + 1) text = .done (.string name) stop behindName)
    (hcolon : ∀ offset,
      (Cursor.skipBlanksFrom offset behindName).text = .char ':' :: behindColon)
    (hnode : ∀ offset,
      Completes Node.Spells (readNode fuel depth ⟨offset, behindColon⟩) value between)
    (hmore : ∀ offset,
      Completes Members.Spells (readMoreMembers fuel depth ⟨offset, between⟩) members rest) :
    Completes Members.Spells (readMember (fuel + 1) depth ⟨offset, .char '"' :: text⟩)
      ((name, value) :: members) rest := by
  obtain ⟨place, hplace⟩ := exists_place hcolon stop
  have hskip : (Cursor.mk stop behindName).skipBlanks = ⟨place, .char ':' :: behindColon⟩ := hplace
  obtain ⟨node, behind, hread, hspells⟩ := hnode (place + 1)
  obtain ⟨tree, last, hreadMore, hspellsMore⟩ := hmore behind
  refine ⟨_, last, ?_, .member hspells hspellsMore name stop
    (Cursor.mk stop behindName).restInMember (Cursor.mk behind between).restInMember⟩
  rw [readMember]
  simp only [hname, Scan.done, hskip, hread, hreadMore]
  rfl

theorem readMoreMembers_close (htext : cursor.skipBlanks.text = .char '\x7d' :: rest) :
    Completes Members.Spells (readMoreMembers (fuel + 1) depth cursor) [] rest := by
  refine ⟨_, cursor.skipBlanks.offset + 1, ?_, Members.spells_close (cursor.skipBlanks.offset + 1)⟩
  rw [readMoreMembers]
  simp only [htext]

theorem readMoreMembers_member (htext : cursor.skipBlanks.text = .char ',' :: between)
    (hnext : ∀ offset, (Cursor.skipBlanksFrom offset between).text = .char '"' :: text)
    (hmember : ∀ offset,
      Completes Members.Spells (readMember fuel depth ⟨offset, .char '"' :: text⟩) members rest) :
    Completes Members.Spells (readMoreMembers (fuel + 1) depth cursor) members rest := by
  rw [readMoreMembers]
  simp only [htext]
  obtain ⟨offset, hplace⟩ := exists_place hnext (cursor.skipBlanks.offset + 1)
  simp only [hplace]
  exact hmember offset

/-! ## Whole values -/

/-- Whether what is written for a value is read as that value, wherever it stands. -/
def ReadsBack (n : Nat) (value : Json) : Prop :=
  ∀ (layout : Layout) (level : Nat) {fuel depth : Nat} {cursor : Cursor} {rest : Text},
    4 * (value.chars layout level).length ≤ fuel → depth + n ≤ depthLimit →
    cursor.skipBlanks.text = ofChars (value.chars layout level) ++ rest →
    Completes Node.Spells (readNode fuel depth cursor) value rest

variable {n level : Nat} {layout : Layout}

/-- A value begins right behind the blanks in front of it. -/
theorem skipBlanksFrom_value (hfits : value.Fits n) (layout : Layout) (level : Nat)
    {blanks : List Char} (hblanks : ∀ c ∈ blanks, Cursor.isBlank (.char c) = true) (offset : Nat)
    (rest : Text) :
    (Cursor.skipBlanksFrom offset
        (ofChars blanks ++ (ofChars (value.chars layout level) ++ rest))).text =
      ofChars (value.chars layout level) ++ rest := by
  obtain ⟨c, behind, hstart, hblank, -⟩ := exists_start hfits layout level rest
  rw [hstart]
  exact skipBlanksFrom_blanks hblanks hblank offset behind

/-- A name begins on its line. -/
theorem skipBlanksFrom_name (layout : Layout) (level : Nat) (name : String) (more : Text)
    (offset : Nat) :
    (Cursor.skipBlanksFrom offset
        (ofChars (layout.newLine level) ++ (ofChars (stringChars name) ++ more))).text =
      ofChars (stringChars name) ++ more :=
  skipBlanksFrom_blanks (isBlank_of_mem_newLine layout level) (by decide) offset _

/-- The items behind one of them, up to the bracket, one item after the other. -/
theorem readMoreItems_written {items : List Json}
    (hitems : ∀ item ∈ items, item.Fits n ∧ ReadsBack n item)
    (hfuel : 4 * (charsOfItems layout level items).length ≤ fuel)
    (hdepth : depth + n ≤ depthLimit) (offset : Nat) (rest : Text) :
    Completes Items.Spells
      (readMoreItems fuel depth ⟨offset, ofChars (charsOfItems layout level items) ++ rest⟩)
      items rest := by
  induction items generalizing fuel offset with
  | nil =>
      simp only [charsOfItems, List.length_append, List.length_singleton] at hfuel
      obtain ⟨fuel, rfl⟩ : ∃ less, fuel = less + 1 := ⟨fuel - 1, by omega⟩
      refine readMoreItems_close ?_
      simp only [charsOfItems, ofChars_append, List.append_assoc]
      exact skipBlanksFrom_blanks (isBlank_of_mem_newLine layout level) (by decide) offset rest
  | cons item items ih =>
      obtain ⟨hfits, hread⟩ := hitems item List.mem_cons_self
      simp only [charsOfItems, List.length_append, List.length_cons] at hfuel
      obtain ⟨fuel, rfl⟩ : ∃ less, fuel = less + 2 := ⟨fuel - 2, by omega⟩
      have hmore : ∀ offset, Completes Items.Spells (readMoreItems fuel depth
          ⟨offset, ofChars (charsOfItems layout level items) ++ rest⟩) items rest :=
        ih (fun item hitem => hitems item (List.mem_cons_of_mem _ hitem)) (by omega)
      obtain ⟨c, behind, hstart, hblank, hopen⟩ := exists_start hfits layout (level + 1)
        (ofChars (charsOfItems layout level items) ++ rest)
      have hnext : ∀ offset, (Cursor.skipBlanksFrom offset
          (ofChars (layout.newLine (level + 1)) ++ (ofChars (item.chars layout (level + 1)) ++
            (ofChars (charsOfItems layout level items) ++ rest)))).text = .char c :: behind := by
        intro offset
        rw [← hstart]
        exact skipBlanksFrom_value hfits layout (level + 1)
          (isBlank_of_mem_newLine layout (level + 1)) offset _
      refine readMoreItems_item ?_ hnext hopen ?_
      · simp only [charsOfItems, List.cons_append, List.append_assoc, ofChars_cons, ofChars_append]
        exact congrArg Cursor.text (skipBlanksFrom_of_not_blank (by decide) offset _)
      · intro offset
        rw [← hstart]
        refine readItem_value (hread layout (level + 1) (by omega) hdepth ?_) hmore
        rw [hstart]
        exact congrArg Cursor.text (skipBlanksFrom_of_not_blank hblank offset behind)

theorem readMember_written (layout : Layout) (level : Nat) (name : String)
    (hfits : value.Fits n) (hread : ReadsBack n value)
    (hfuel : 4 * (value.chars layout level).length ≤ fuel) (hdepth : depth + n ≤ depthLimit)
    (hmore : ∀ offset,
      Completes Members.Spells (readMoreMembers fuel depth ⟨offset, between⟩) members rest)
    (offset : Nat) :
    Completes Members.Spells
      (readMember (fuel + 1) depth ⟨offset, ofChars (stringChars name) ++
        (ofChars layout.colon ++ (ofChars (value.chars layout level) ++ between))⟩)
      ((name, value) :: members) rest := by
  obtain ⟨blanks, hcolon, hblanks⟩ := exists_colon layout
  rw [hcolon]
  obtain ⟨stop, hname⟩ := scanString_written name (offset + 1)
    (ofChars (':' :: blanks) ++ (ofChars (value.chars layout level) ++ between))
  have hnext : ∀ offset, (Cursor.skipBlanksFrom offset
      (ofChars (':' :: blanks) ++ (ofChars (value.chars layout level) ++ between))).text =
      .char ':' :: (ofChars blanks ++ (ofChars (value.chars layout level) ++ between)) :=
    fun offset => congrArg Cursor.text (skipBlanksFrom_of_not_blank (by decide) offset _)
  refine readMember_named hname hnext ?_ hmore
  intro offset
  exact hread layout level hfuel hdepth
    (skipBlanksFrom_value hfits layout level hblanks offset between)

/-- The members behind one of them, up to the brace, one member after the other. -/
theorem readMoreMembers_written {members : List (String × Json)}
    (hmembers : ∀ member ∈ members, member.2.Fits n ∧ ReadsBack n member.2)
    (hfuel : 4 * (charsOfMembers layout level members).length ≤ fuel)
    (hdepth : depth + n ≤ depthLimit) (offset : Nat) (rest : Text) :
    Completes Members.Spells
      (readMoreMembers fuel depth ⟨offset, ofChars (charsOfMembers layout level members) ++ rest⟩)
      members rest := by
  induction members generalizing fuel offset with
  | nil =>
      simp only [charsOfMembers, List.length_append, List.length_singleton] at hfuel
      obtain ⟨fuel, rfl⟩ : ∃ less, fuel = less + 1 := ⟨fuel - 1, by omega⟩
      refine readMoreMembers_close ?_
      simp only [charsOfMembers, ofChars_append, List.append_assoc]
      exact skipBlanksFrom_blanks (isBlank_of_mem_newLine layout level) (by decide) offset rest
  | cons member members ih =>
      obtain ⟨name, value⟩ := member
      obtain ⟨hfits, hread⟩ : value.Fits n ∧ ReadsBack n value :=
        hmembers (name, value) List.mem_cons_self
      simp only [charsOfMembers, List.length_append, List.length_cons] at hfuel
      obtain ⟨fuel, rfl⟩ : ∃ less, fuel = less + 2 := ⟨fuel - 2, by omega⟩
      have hmore : ∀ offset, Completes Members.Spells (readMoreMembers fuel depth
          ⟨offset, ofChars (charsOfMembers layout level members) ++ rest⟩) members rest :=
        ih (fun member hmember => hmembers member (List.mem_cons_of_mem _ hmember)) (by omega)
      refine readMoreMembers_member ?_ (skipBlanksFrom_name layout (level + 1) name _)
        (readMember_written layout (level + 1) name hfits hread (by omega) hdepth hmore)
      simp only [charsOfMembers, List.cons_append, List.append_assoc, ofChars_cons, ofChars_append]
      exact congrArg Cursor.text (skipBlanksFrom_of_not_blank (by decide) offset _)

theorem readsBack_null : ReadsBack n .null := by
  intro layout level fuel depth cursor rest hfuel _ htext
  have hlength : (Json.null.chars layout level).length = 4 := rfl
  obtain ⟨fuel, rfl⟩ : ∃ less, fuel = less + 1 := ⟨fuel - 1, by omega⟩
  exact readNode_scalar htext (by decide) (by decide)
    (congrArg some (scanWord_written .null ['u', 'l', 'l'] _ rest))

theorem readsBack_boolean (choice : Bool) : ReadsBack n (.boolean choice) := by
  intro layout level fuel depth cursor rest hfuel _ htext
  cases choice with
  | true =>
      have hlength : ((Json.boolean true).chars layout level).length = 4 := rfl
      obtain ⟨fuel, rfl⟩ : ∃ less, fuel = less + 1 := ⟨fuel - 1, by omega⟩
      exact readNode_scalar htext (by decide) (by decide)
        (congrArg some (scanWord_written (.boolean true) ['r', 'u', 'e'] _ rest))
  | false =>
      have hlength : ((Json.boolean false).chars layout level).length = 5 := rfl
      obtain ⟨fuel, rfl⟩ : ∃ less, fuel = less + 1 := ⟨fuel - 1, by omega⟩
      exact readNode_scalar htext (by decide) (by decide)
        (congrArg some (scanWord_written (.boolean false) ['a', 'l', 's', 'e'] _ rest))

theorem readsBack_string (s : String) : ReadsBack n (.string s) := by
  intro layout level fuel depth cursor rest hfuel _ htext
  have hlength : ((Json.string s).chars layout level).length =
      (s.toList.flatMap escapedChar ++ ['"']).length + 1 := rfl
  obtain ⟨fuel, rfl⟩ : ∃ less, fuel = less + 1 := ⟨fuel - 1, by omega⟩
  obtain ⟨stop, hscan⟩ := scanString_written s (cursor.skipBlanks.offset + 1) rest
  exact readNode_scalar htext (by decide) (by decide) (congrArg some hscan)

/-- A list is read back if its items are. -/
theorem readsBack_array {items : List Json}
    (hitems : ∀ item ∈ items, item.Fits n ∧ ReadsBack n item) :
    ReadsBack (n + 1) (.array items) := by
  intro layout level fuel depth cursor rest hfuel hdepth htext
  cases items with
  | nil =>
      have hlength : ((Json.array []).chars layout level).length = 2 := rfl
      obtain ⟨fuel, rfl⟩ : ∃ less, fuel = less + 2 := ⟨fuel - 2, by omega⟩
      refine readNode_list htext (by omega) fun offset => readFirstItem_close ?_
      exact congrArg Cursor.text (skipBlanksFrom_of_not_blank (by decide) offset rest)
  | cons item items =>
      obtain ⟨hfits, hread⟩ := hitems item List.mem_cons_self
      simp only [chars, List.length_append, List.length_cons] at hfuel
      -- One unit of fuel each for the list, its first place, and the item.
      obtain ⟨fuel, rfl⟩ : ∃ less, fuel = less + 3 := ⟨fuel - 3, by omega⟩
      simp only [chars, List.cons_append, List.append_assoc, ofChars_cons, ofChars_append] at htext
      refine readNode_list htext (by omega) ?_
      intro offset
      -- Behind the bracket stand blanks, then the first item.
      have hskip := skipBlanksFrom_value hfits layout (level + 1)
        (isBlank_of_mem_newLine layout (level + 1)) offset
        (ofChars (charsOfItems layout level items) ++ rest)
      obtain ⟨c, behind, hstart, -, hopen⟩ := exists_start hfits layout (level + 1)
        (ofChars (charsOfItems layout level items) ++ rest)
      refine readFirstItem_item (hskip.trans hstart) hopen ?_
      have hmore : ∀ behind, Completes Items.Spells (readMoreItems fuel (depth + 1)
          ⟨behind, ofChars (charsOfItems layout level items) ++ rest⟩) items rest := by
        intro behind
        exact readMoreItems_written (fun item hitem => hitems item (List.mem_cons_of_mem _ hitem))
          (by omega) (by omega) behind rest
      refine readItem_value (hread layout (level + 1) (by omega) (by omega) ?_) hmore
      rw [skipBlanks_skipBlanks]
      exact hskip

/-- A map is read back if its values are. -/
theorem readsBack_object {members : List (String × Json)}
    (hmembers : ∀ member ∈ members, member.2.Fits n ∧ ReadsBack n member.2) :
    ReadsBack (n + 1) (.object members) := by
  intro layout level fuel depth cursor rest hfuel hdepth htext
  cases members with
  | nil =>
      have hlength : ((Json.object []).chars layout level).length = 2 := rfl
      obtain ⟨fuel, rfl⟩ : ∃ less, fuel = less + 2 := ⟨fuel - 2, by omega⟩
      refine readNode_map htext (by omega) fun offset => readFirstMember_close ?_
      exact congrArg Cursor.text (skipBlanksFrom_of_not_blank (by decide) offset rest)
  | cons member members =>
      obtain ⟨name, value⟩ := member
      obtain ⟨hfits, hread⟩ : value.Fits n ∧ ReadsBack n value :=
        hmembers (name, value) List.mem_cons_self
      simp only [chars, List.length_append, List.length_cons] at hfuel
      obtain ⟨fuel, rfl⟩ : ∃ less, fuel = less + 3 := ⟨fuel - 3, by omega⟩
      simp only [chars, List.cons_append, List.append_assoc, ofChars_cons, ofChars_append] at htext
      refine readNode_map htext (by omega) ?_
      intro offset
      obtain ⟨place, hplace⟩ := exists_place (skipBlanksFrom_name layout (level + 1) name
        (ofChars layout.colon ++ (ofChars (value.chars layout (level + 1)) ++
          (ofChars (charsOfMembers layout level members) ++ rest)))) offset
      refine readFirstMember_member (congrArg Cursor.text hplace) ?_
      have hskip : (Cursor.mk offset _).skipBlanks = _ := hplace
      rw [hskip]
      have hmore : ∀ behind, Completes Members.Spells (readMoreMembers fuel (depth + 1)
          ⟨behind, ofChars (charsOfMembers layout level members) ++ rest⟩) members rest := by
        intro behind
        exact readMoreMembers_written
          (fun member hmember => hmembers member (List.mem_cons_of_mem _ hmember))
          (by omega) (by omega) behind rest
      exact readMember_written layout (level + 1) name hfits hread (by omega) (by omega) hmore place

/-- Every value that fits is read back.  The recursion is on how deep its containers nest. -/
theorem readsBack_of_fits : ∀ {n : Nat} {value : Json}, value.Fits n → ReadsBack n value
  | _, .null, _ => readsBack_null
  | _, .boolean choice, _ => readsBack_boolean choice
  | 0, .number _, hfits => hfits.elim
  | _ + 1, .number _, hfits => hfits.elim
  | _, .string s, _ => readsBack_string s
  | 0, .array _, hfits => hfits.elim
  | _ + 1, .array _, hfits =>
      readsBack_array fun item hitem => ⟨hfits item hitem, readsBack_of_fits (hfits item hitem)⟩
  | 0, .object _, hfits => hfits.elim
  | _ + 1, .object _, hfits =>
      readsBack_object fun member hmember =>
        ⟨hfits member hmember, readsBack_of_fits (hfits member hmember)⟩

/-- A written value, read as a whole text, gives a sound tree for the value, and nothing is
wrong behind it. -/
theorem spells_of_written (hfits : value.Fits n) (hdepth : n ≤ depthLimit) (layout : Layout) :
    let document := Document.ofText (ofChars (value.chars layout 0))
    document.root.Spells value ∧ document.trailing = none := by
  have hskip : (Cursor.mk 0 (ofChars (value.chars layout 0))).skipBlanks.text =
      ofChars (value.chars layout 0) ++ [] := by
    have hstart := skipBlanksFrom_value hfits layout 0 (List.forall_mem_nil _) 0 []
    rw [List.append_nil] at hstart ⊢
    exact hstart
  have hfuel : 4 * (value.chars layout 0).length ≤
      4 * (ofChars (value.chars layout 0)).length + 4 := by
    rw [ofChars, List.length_map]
    omega
  obtain ⟨root, stop, hread, hspells⟩ :=
    readsBack_of_fits hfits layout 0 hfuel (by omega : 0 + n ≤ depthLimit) hskip
  show (Document.ofText (ofChars (value.chars layout 0))).root.Spells value ∧
    (Document.ofText (ofChars (value.chars layout 0))).trailing = none
  rw [Document.ofText, hread]
  exact ⟨hspells, rfl⟩

/-- Values that fit have texts of their own. -/
theorem eq_of_compact_eq {first second : Json} (hfirst : first.Fits n) (hsecond : second.Fits n)
    (hdepth : n ≤ depthLimit) (heq : first.compact = second.compact) : first = second := by
  have hchars : first.chars .compact 0 = second.chars .compact 0 := String.ofList_injective heq
  have hread := (spells_of_written hfirst hdepth .compact).1.contents
  rw [hchars, (spells_of_written hsecond hdepth .compact).1.contents] at hread
  exact (Option.some.inj hread).symm

end CloudSteward.Json
