import CloudSteward.Proofs.Json.Restoring
import Mathlib.Data.List.Nodup

/-!
# Whoever reads a whole has read its parts

A list is read only if each of its items is (`Codec.exists_read_of_lists`), and a record only
if every part that it holds for a field is read as that field, whether the record was written
as a map or as a list (`Record.exists_read_of_holds`).  So a part that no reader accepts spoils
every whole around it, wherever in it the part stands.

The parts are those of the tree and not of a value, since other parts of the same tree may have
faults, and a reader that does not care for them skips these.
-/

namespace CloudSteward.Json

/-! ## Parts -/

/-- Which item stands at which place of a list. -/
inductive Items.Holds (part : Node) : Nat → Items → Prop where
  | here {resting : Nat} {rest : Items} : Holds part 0 (.item part resting rest)
  | there {place : Nat} {node : Node} {resting : Nat} {rest : Items} :
      Holds part place rest → Holds part (place + 1) (.item node resting rest)

/-- Which values the members with a name have. -/
inductive Members.Holds (name : String) (part : Node) : Members → Prop where
  | here {obstacle : Option Fault} {keyStop behindKey resting : Nat} {rest : Members} :
      Holds name part (.member (.ok name) obstacle keyStop behindKey part resting rest)
  | there {key : Except Fault String} {obstacle : Option Fault} {keyStop behindKey : Nat}
      {node : Node} {resting : Nat} {rest : Members} : Holds name part rest →
        Holds name part (.member key obstacle keyStop behindKey node resting rest)

/-- Whether a part is an item of a list. -/
inductive Node.Lists (part : Node) : Node → Prop where
  | item {start depth place : Nat} {items : Items} : items.Holds part place →
      Lists part (.list start depth items)

/-- Whether a part is what a record holds for the field of a name: a member of that name, or the
item at the place of the field. -/
inductive Record.Holds {ρ : Type} (record : Record ρ) (name : String) (part : Node) :
    Node → Prop where
  | named {start depth : Nat} {members : Members} : members.Holds name part →
      Holds record name part (.map start depth members)
  | placed {start depth place : Nat} {items : Items} :
      (record.fields.map Field.name)[place]? = some name → items.Holds part place →
        Holds record name part (.list start depth items)

/-! ## Lists and optional values -/

namespace Codec

variable {α : Type} {codec : Codec α} {manner : Manner} {node part : Node}

theorem enter_eq_ok_iff {start depth : Nat} {inside : Except Fault α} {value : α} :
    enter start depth inside = .ok value ↔ depthFault start depth = none ∧ inside = .ok value := by
  unfold enter
  cases depthFault start depth <;> simp

/-- An item that is read is one of the type, and the others are read behind it. -/
theorem readItems_item_inv {resting : Nat} {rest : Items} {values : List α}
    (hread : codec.readItems manner (.item node resting rest) = .ok values) :
    ∃ value others, codec.read manner node = .ok value ∧
      codec.readItems manner rest = .ok others ∧ values = value :: others := by
  rw [readItems] at hread
  cases hfirst : codec.read manner node with
  | error fault =>
      rw [hfirst] at hread
      cases hread
  | ok value =>
      cases hrest : codec.readItems manner rest with
      | error fault =>
          simp only [hfirst, hrest, Except.map] at hread
          cases hread
      | ok others =>
          simp only [hfirst, hrest, Except.map] at hread
          exact ⟨value, others, rfl, rfl, (Except.ok.inj hread).symm⟩

theorem exists_read_of_holds {place : Nat} {items : Items} {values : List α}
    (hread : codec.readItems manner items = .ok values) (hpart : items.Holds part place) :
    ∃ value, codec.read manner part = .ok value := by
  induction hpart generalizing values with
  | here =>
      obtain ⟨value, -, hvalue, -⟩ := readItems_item_inv hread
      exact ⟨value, hvalue⟩
  | there _ ih =>
      obtain ⟨-, others, -, hothers, -⟩ := readItems_item_inv hread
      exact ih hothers

theorem exists_read_of_lists {values : List α} (hread : (list codec).read manner node = .ok values)
    (hpart : part.Lists node) : ∃ value, codec.read manner part = .ok value := by
  cases hpart with
  | item hitem => exact exists_read_of_holds (enter_eq_ok_iff.mp hread).2 hitem

/-- An optional value is read where there is nothing, or where the value is. -/
theorem exists_read_of_optional {value : Option α}
    (hread : (optional codec).read manner node = .ok value) :
    node.Spells .null ∨ ∃ content, codec.read manner node = .ok content := by
  simp only [optional] at hread
  split at hread
  case h_1 => exact .inl ⟨rfl, rfl⟩
  case h_2 =>
    cases hcontent : codec.read manner node with
    | error fault =>
        rw [hcontent] at hread
        cases hread
    | ok content => exact .inr ⟨content, rfl⟩

/-- A text is decoded if its value is read and nothing is wrong behind it. -/
theorem decode_eq_ok_iff {text : Text} {value : α} :
    codec.decode text = .ok value ↔
      codec.read .streamed (Document.ofText text).root = .ok value ∧
        (Document.ofText text).trailing = none := by
  cases hroot : codec.read .streamed (Document.ofText text).root with
  | error fault => simp [decode, hroot]
  | ok found =>
      cases htrailing : (Document.ofText text).trailing <;> simp [decode, hroot, htrailing]

end Codec

/-! ## Records -/

namespace Record

variable {ρ : Type} {record : Record ρ} {manner : Manner} {name : String} {field : Field ρ}
  {node part : Node} {result : ρ}

/-- A member that is read was named, and it was read as the field of that name, if there is one;
the others are read behind it. -/
theorem readMembers_member_inv {seen : List String} {value : ρ} {key : Except Fault String}
    {obstacle : Option Fault} {keyStop behindKey resting : Nat} {rest : Members}
    (hread : record.readMembers manner seen value
      (.member key obstacle keyStop behindKey node resting rest) = .ok result) :
    (∀ name field, key = .ok name →
        record.fields.find? (fun other => other.name == name) = some field →
          ∃ before after, field.read manner node before = .ok after) ∧
      ∃ seen after, record.readMembers manner seen after rest = .ok result := by
  cases key with
  | error fault => cases hread
  | ok key =>
      rw [readMembers] at hread
      cases hfind : record.fields.find? fun other => other.name == key with
      | none =>
          simp only [hfind] at hread
          cases hobstacle : node.obstacle? with
          | some fault =>
              rw [hobstacle] at hread
              cases hread
          | none =>
              rw [hobstacle] at hread
              refine ⟨?_, seen, value, hread⟩
              rintro name field hkey hname
              cases hkey
              rw [hfind] at hname
              cases hname
      | some field =>
          simp only [hfind] at hread
          by_cases hseen : seen.contains key = true
          · rw [if_pos hseen] at hread
            cases hread
          · rw [if_neg hseen] at hread
            cases hvalue : field.read manner node value with
            | error fault =>
                rw [hvalue] at hread
                cases hread
            | ok after =>
                rw [hvalue] at hread
                refine ⟨?_, _, after, hread⟩
                rintro name other hkey hname
                cases hkey
                obtain rfl := Option.some.inj (hfind.symm.trans hname)
                exact ⟨value, after, hvalue⟩

theorem exists_read_of_member {seen : List String} {value : ρ} {members : Members}
    (hname : record.fields.find? (fun other => other.name == name) = some field)
    (hread : record.readMembers manner seen value members = .ok result)
    (hpart : members.Holds name part) :
    ∃ before after, field.read manner part before = .ok after := by
  induction hpart generalizing seen value with
  | here => exact (readMembers_member_inv hread).1 name field rfl hname
  | there _ ih =>
      obtain ⟨seen, value, hrest⟩ := (readMembers_member_inv hread).2
      exact ih hrest

/-- An item that is read was read as the first field, and the others as the other fields. -/
theorem readItems_item_inv {first : Field ρ} {fields : List (Field ρ)} {index resting : Nat}
    {value : ρ} {rest : Items}
    (hread : record.readItems manner (first :: fields) index value (.item node resting rest) =
      .ok result) :
    ∃ after, first.read manner node value = .ok after ∧
      record.readItems manner fields (index + 1) after rest = .ok result := by
  rw [readItems] at hread
  cases hfirst : first.read manner node value with
  | error fault =>
      rw [hfirst] at hread
      cases hread
  | ok after =>
      rw [hfirst] at hread
      exact ⟨after, rfl, hread⟩

theorem exists_read_of_item {fields : List (Field ρ)} {index place : Nat} {value : ρ}
    {items : Items} (hplace : fields[place]? = some field)
    (hread : record.readItems manner fields index value items = .ok result)
    (hpart : items.Holds part place) :
    ∃ before after, field.read manner part before = .ok after := by
  induction hpart generalizing fields index value with
  | here =>
      cases fields with
      | nil => cases hplace
      | cons first fields =>
          obtain rfl := Option.some.inj hplace
          obtain ⟨after, hafter, -⟩ := readItems_item_inv hread
          exact ⟨value, after, hafter⟩
  | there _ ih =>
      cases fields with
      | nil => cases hplace
      | cons first fields =>
          obtain ⟨after, -, hrest⟩ := readItems_item_inv hread
          exact ih hplace hrest

/-- A record that is read has every part that it holds for a field read as that field. -/
theorem exists_read_of_holds {β : Type} {codec : Codec β} {set : ρ → β → ρ}
    (hnames : (record.fields.map Field.name).Nodup)
    (hname : record.fields.find? (fun other => other.name == name) = some field)
    (hfield : ∀ manner node value,
      field.read manner node value = (codec.read manner node).map (set value))
    (hread : record.codec.read manner node = .ok result) (hpart : record.Holds name part node) :
    ∃ content, codec.read manner part = .ok content := by
  have hpart : ∃ before after, field.read manner part before = .ok after := by
    cases hpart with
    | named hmember => exact exists_read_of_member hname (Codec.enter_eq_ok_iff.mp hread).2 hmember
    | placed hplace hitem =>
        rw [List.getElem?_map] at hplace
        obtain ⟨other, hother, hsame⟩ := Option.map_eq_some_iff.mp hplace
        -- The field at that place is the one of that name, as there is only one.
        have hfound := List.find?_some hname
        obtain rfl := List.inj_on_of_nodup_map hnames (List.mem_of_getElem? hother)
          (List.mem_of_find?_eq_some hname) (hsame.trans (beq_iff_eq.mp hfound).symm)
        exact exists_read_of_item hother (Codec.enter_eq_ok_iff.mp hread).2 hitem
  obtain ⟨before, after, hafter⟩ := hpart
  rw [hfield] at hafter
  cases hcontent : codec.read manner part with
  | error fault =>
      rw [hcontent] at hafter
      cases hafter
  | ok content => exact ⟨content, rfl⟩

end Record

/-! ## Trees without faults -/

/-- A tree stands for one value only. -/
theorem Node.Spells.unique {node : Node} {first second : Json} (hfirst : node.Spells first)
    (hsecond : node.Spells second) : first = second :=
  Option.some.inj (hfirst.contents.symm.trans hsecond.contents)

mutual

/-- A tree without faults stands for a value. -/
theorem Node.exists_spells (node : Node) (hsound : node.fault? = none) :
    ∃ value, node.Spells value := by
  cases node with
  | absent fault => cases hsound
  | scalar start stop quoted value obstacle =>
      cases value with
      | error fault => cases hsound
      | ok scalar => exact ⟨scalar.contents, rfl, hsound⟩
  | list start depth items =>
      obtain ⟨values, hitems⟩ := items.exists_spells (Option.or_eq_none_iff.mp hsound).2
      refine ⟨.array values, ?_, hsound⟩
      simp only [Node.contents?, hitems.contents, Option.map_some]
  | map start depth members =>
      obtain ⟨values, hmembers⟩ := members.exists_spells (Option.or_eq_none_iff.mp hsound).2
      refine ⟨.object values, ?_, hsound⟩
      simp only [Node.contents?, hmembers.contents, Option.map_some]

theorem Items.exists_spells (items : Items) (hsound : items.fault? = none) :
    ∃ values, items.Spells values := by
  cases items with
  | close stop => exact ⟨[], Items.spells_close stop⟩
  | broken why place => cases hsound
  | item node resting rest =>
      obtain ⟨hnode, hrest⟩ := Option.or_eq_none_iff.mp hsound
      obtain ⟨value, hvalue⟩ := node.exists_spells hnode
      obtain ⟨values, hvalues⟩ := rest.exists_spells hrest
      exact ⟨value :: values, Items.Spells.item hvalue hvalues resting⟩

theorem Members.exists_spells (members : Members) (hsound : members.fault? = none) :
    ∃ values, members.Spells values := by
  cases members with
  | close stop => exact ⟨[], Members.spells_close stop⟩
  | broken why place => cases hsound
  | unquoted place => cases hsound
  | member key obstacle keyStop behindKey node resting rest =>
      cases key with
      | error fault => cases hsound
      | ok name =>
          obtain ⟨hnode, hrest⟩ := Option.or_eq_none_iff.mp hsound
          obtain ⟨value, hvalue⟩ := node.exists_spells hnode
          obtain ⟨values, hvalues⟩ := rest.exists_spells hrest
          refine ⟨(name, value) :: values, ?_, hsound⟩
          simp only [Members.contents?, hvalue.contents, hvalues.contents]

end

/-- So what every reader takes that wants all of a value, is what stands for a value. -/
theorem read_eq_ok_iff {manner : Manner} {node : Node} {value : Json} :
    codec.read manner node = .ok value ↔ node.Spells value := by
  constructor
  · intro hread
    cases hfault : node.fault? with
    | some fault =>
        simp only [codec, hfault] at hread
        cases hread
    | none =>
        obtain ⟨found, hfound⟩ := node.exists_spells hfault
        simp only [codec, hfault, hfound.contents] at hread
        obtain rfl := Except.ok.inj hread
        exact hfound
  · intro hspells
    simp only [codec, hspells.sound, hspells.contents]

end CloudSteward.Json
