import CloudSteward.Proofs.Json.Reading

/-!
# Codecs that restore what they write

A codec restores a value if it reads that value back from every sound tree that stands
for what it writes, in either manner (`Codec.Restores`).  Strings, lists and records
restore what their parts restore; and what a codec restores can be decoded from the text
that it is encoded in (`Codec.Restores.decode_encode`).

A record is read back field by field.  The record that is being filled in begins as the
blank one and ends as the written one, and each field takes it one step further: by what
was written of the field, or, where nothing was, by leaving it alone.
-/

namespace CloudSteward.Json

/-! ## The shape of a tree that stands for a value -/

theorem Scalar.contents_injective {first second : Scalar}
    (heq : first.contents = second.contents) : first = second := by
  cases first <;> cases second <;> simp_all [Scalar.contents]

theorem Scalar.contents_ne_array (scalar : Scalar) (values : List Json) :
    scalar.contents ≠ .array values := by
  intro heq
  cases scalar <;> cases heq

theorem Scalar.contents_ne_object (scalar : Scalar) (values : List (String × Json)) :
    scalar.contents ≠ .object values := by
  intro heq
  cases scalar <;> cases heq

theorem Node.Spells.exists_scalar {node : Node} {scalar : Scalar}
    (hspells : node.Spells scalar.contents) :
    ∃ start stop quoted obstacle, node = .scalar start stop quoted (.ok scalar) obstacle := by
  have hcontents := hspells.contents
  cases node with
  | absent => cases hcontents
  | scalar start stop quoted read obstacle =>
      cases read with
      | error => cases hcontents
      | ok found =>
          obtain rfl := Scalar.contents_injective (Option.some.inj hcontents)
          exact ⟨start, stop, quoted, obstacle, rfl⟩
  | list start depth items =>
      obtain ⟨values, -, heq⟩ := Option.map_eq_some_iff.mp hcontents
      exact absurd heq.symm (scalar.contents_ne_array values)
  | map start depth members =>
      obtain ⟨values, -, heq⟩ := Option.map_eq_some_iff.mp hcontents
      exact absurd heq.symm (scalar.contents_ne_object values)

theorem Node.Spells.exists_list {node : Node} {values : List Json}
    (hspells : node.Spells (.array values)) :
    ∃ start depth items, node = .list start depth items ∧ depthFault start depth = none ∧
      items.Spells values := by
  obtain ⟨hcontents, hsound⟩ := hspells
  cases node with
  | absent => cases hcontents
  | scalar start stop quoted read obstacle =>
      cases read with
      | error => cases hcontents
      | ok found =>
          exact absurd (Option.some.inj hcontents) (found.contents_ne_array values)
  | list start depth items =>
      obtain ⟨found, hitems, heq⟩ := Option.map_eq_some_iff.mp hcontents
      obtain rfl := Json.array.inj heq
      obtain ⟨hshallow, hinside⟩ := Option.or_eq_none_iff.mp hsound
      exact ⟨start, depth, items, rfl, hshallow, hitems, hinside⟩
  | map start depth members =>
      obtain ⟨found, -, heq⟩ := Option.map_eq_some_iff.mp hcontents
      cases heq

theorem Node.Spells.exists_map {node : Node} {values : List (String × Json)}
    (hspells : node.Spells (.object values)) :
    ∃ start depth members, node = .map start depth members ∧ depthFault start depth = none ∧
      members.Spells values := by
  obtain ⟨hcontents, hsound⟩ := hspells
  cases node with
  | absent => cases hcontents
  | scalar start stop quoted read obstacle =>
      cases read with
      | error => cases hcontents
      | ok found =>
          exact absurd (Option.some.inj hcontents) (found.contents_ne_object values)
  | list start depth items =>
      obtain ⟨found, -, heq⟩ := Option.map_eq_some_iff.mp hcontents
      cases heq
  | map start depth members =>
      obtain ⟨found, hmembers, heq⟩ := Option.map_eq_some_iff.mp hcontents
      obtain rfl := Json.object.inj heq
      obtain ⟨hshallow, hinside⟩ := Option.or_eq_none_iff.mp hsound
      exact ⟨start, depth, members, rfl, hshallow, hmembers, hinside⟩

/-- What stands for an item and for those behind it makes up what stands for all. -/
theorem Items.contents?_item {node : Node} {resting : Nat} {rest : Items} {values : List Json}
    (hcontents : (Items.item node resting rest).contents? = some values) :
    ∃ value others, node.contents? = some value ∧ rest.contents? = some others ∧
      values = value :: others := by
  rw [Items.contents?] at hcontents
  cases hnode : node.contents? with
  | none =>
      rw [hnode] at hcontents
      cases hcontents
  | some value =>
      cases hrest : rest.contents? with
      | none =>
          rw [hnode, hrest] at hcontents
          cases hcontents
      | some others =>
          rw [hnode, hrest] at hcontents
          exact ⟨value, others, rfl, rfl, (Option.some.inj hcontents).symm⟩

theorem Items.Spells.exists_close {items : Items} (hspells : items.Spells []) :
    ∃ stop, items = .close stop := by
  have hcontents := hspells.contents
  cases items with
  | close stop => exact ⟨stop, rfl⟩
  | broken => cases hcontents
  | item node resting rest =>
      obtain ⟨value, others, _, _, heq⟩ := Items.contents?_item hcontents
      cases heq

theorem Items.Spells.exists_item {items : Items} {value : Json} {values : List Json}
    (hspells : items.Spells (value :: values)) :
    ∃ node resting rest, items = .item node resting rest ∧ node.Spells value ∧
      rest.Spells values := by
  obtain ⟨hcontents, hsound⟩ := hspells
  cases items with
  | close => cases hcontents
  | broken => cases hcontents
  | item node resting rest =>
      obtain ⟨hnode, hrest⟩ := Option.or_eq_none_iff.mp hsound
      obtain ⟨found, others, hvalue, hvalues, heq⟩ := Items.contents?_item hcontents
      obtain ⟨rfl, rfl⟩ := List.cons.inj heq
      exact ⟨node, resting, rest, rfl, ⟨hvalue, hnode⟩, hvalues, hrest⟩

/-- The same of a member. -/
theorem Members.contents?_member {key : String} {obstacle : Option Fault}
    {keyStop behindKey resting : Nat} {node : Node} {rest : Members}
    {values : List (String × Json)}
    (hcontents : (Members.member (.ok key) obstacle keyStop behindKey node resting rest).contents? =
      some values) :
    ∃ value others, node.contents? = some value ∧ rest.contents? = some others ∧
      values = (key, value) :: others := by
  rw [Members.contents?] at hcontents
  cases hnode : node.contents? with
  | none =>
      rw [hnode] at hcontents
      cases hcontents
  | some value =>
      cases hrest : rest.contents? with
      | none =>
          rw [hnode, hrest] at hcontents
          cases hcontents
      | some others =>
          rw [hnode, hrest] at hcontents
          exact ⟨value, others, rfl, rfl, (Option.some.inj hcontents).symm⟩

theorem Members.Spells.exists_close {members : Members} (hspells : members.Spells []) :
    ∃ stop, members = .close stop := by
  have hcontents := hspells.contents
  cases members with
  | close stop => exact ⟨stop, rfl⟩
  | broken => cases hcontents
  | unquoted => cases hcontents
  | member key obstacle keyStop behindKey node resting rest =>
      cases key with
      | error => cases hcontents
      | ok key =>
          obtain ⟨value, others, _, _, heq⟩ := Members.contents?_member hcontents
          cases heq

theorem Members.Spells.exists_member {members : Members} {name : String} {value : Json}
    {values : List (String × Json)} (hspells : members.Spells ((name, value) :: values)) :
    ∃ obstacle keyStop behindKey node resting rest,
      members = .member (.ok name) obstacle keyStop behindKey node resting rest ∧
      node.Spells value ∧ rest.Spells values := by
  obtain ⟨hcontents, hsound⟩ := hspells
  cases members with
  | close => cases hcontents
  | broken => cases hcontents
  | unquoted => cases hcontents
  | member key obstacle keyStop behindKey node resting rest =>
      cases key with
      | error => cases hcontents
      | ok key =>
          obtain ⟨hnode, hrest⟩ := Option.or_eq_none_iff.mp hsound
          obtain ⟨found, others, hvalue, hvalues, heq⟩ := Members.contents?_member hcontents
          obtain ⟨hmember, rfl⟩ := List.cons.inj heq
          obtain ⟨rfl, rfl⟩ := Prod.mk.inj hmember
          exact ⟨obstacle, keyStop, behindKey, node, resting, rest, rfl, ⟨hvalue, hnode⟩, hvalues,
            hrest⟩

/-! ## Codecs -/

/-- What fits still fits where there is more room. -/
theorem Fits.mono : ∀ {n m : Nat} {value : Json}, value.Fits n → n ≤ m → value.Fits m
  | _, 0, .null, _, _ => trivial
  | _, _ + 1, .null, _, _ => trivial
  | _, 0, .boolean _, _, _ => trivial
  | _, _ + 1, .boolean _, _, _ => trivial
  | _, 0, .string _, _, _ => trivial
  | _, _ + 1, .string _, _, _ => trivial
  | 0, _, .number _, hfits, _ => hfits.elim
  | _ + 1, _, .number _, hfits, _ => hfits.elim
  | 0, _, .array _, hfits, _ => hfits.elim
  | 0, _, .object _, hfits, _ => hfits.elim
  | _ + 1, _ + 1, .array _, hfits, hle => fun item hitem =>
      (hfits item hitem).mono (Nat.le_of_succ_le_succ hle)
  | _ + 1, _ + 1, .object _, hfits, hle => fun member hmember =>
      (hfits member hmember).mono (Nat.le_of_succ_le_succ hle)

namespace Codec

variable {α : Type} {codec : Codec α} {n : Nat}

/-- A value is restored if what is written for it fits, and every sound tree that stands
for that is read as the value. -/
structure Restores (codec : Codec α) (n : Nat) (value : α) : Prop where
  fits : (codec.write value).Fits n
  reads : ∀ (manner : Manner) {node : Node}, node.Spells (codec.write value) →
    codec.read manner node = .ok value

theorem Restores.mono {m : Nat} {value : α} (h : codec.Restores n value) (hle : n ≤ m) :
    codec.Restores m value where
  fits := h.fits.mono hle
  reads := h.reads

/-- A value that is spelled is restored if its spelling can be parsed. -/
theorem restores_spelled {expected : String} {parse : String → Except Complaint α}
    {spell : α → String} {value : α} (hparse : parse (spell value) = .ok value) :
    (spelled expected parse spell).Restores n value where
  fits := by cases n <;> trivial
  reads manner node hspells := by
    have hscalar : node.Spells (Scalar.string (spell value)).contents := hspells
    obtain ⟨start, stop, quoted, obstacle, rfl⟩ := hscalar.exists_scalar
    simp only [spelled, hparse]

theorem restores_string (s : String) : string.Restores n s :=
  restores_spelled rfl

/-- A value of an enumeration is restored if its name is known as its own. -/
theorem restores_enumeration {known : List (String × α)} {name : α → String} {value : α}
    (hknown : variant known (name value) = .ok value) :
    (enumeration known name).Restores n value where
  fits := by cases n <;> trivial
  reads manner node hspells := by
    have hscalar : node.Spells (Scalar.string (name value)).contents := hspells
    obtain ⟨start, stop, quoted, obstacle, rfl⟩ := hscalar.exists_scalar
    simp only [enumeration, readVariant, hknown]

theorem restores_boolean (choice : Bool) : boolean.Restores n choice where
  fits := by cases n <;> trivial
  reads manner node hspells := by
    have hscalar : node.Spells (Scalar.boolean choice).contents := hspells
    obtain ⟨start, stop, quoted, obstacle, rfl⟩ := hscalar.exists_scalar
    rfl

/-- Nothing is written as `null`, so something has to be written otherwise. -/
theorem restores_optional {value : Option α}
    (hvalue : ∀ content ∈ value, codec.Restores n content ∧ codec.write content ≠ .null) :
    (optional codec).Restores n value where
  fits := by
    cases value with
    | none => cases n <;> trivial
    | some content => exact (hvalue content rfl).1.fits
  reads manner node hspells := by
    cases value with
    | none =>
        have hscalar : node.Spells Scalar.null.contents := hspells
        obtain ⟨start, stop, quoted, obstacle, rfl⟩ := hscalar.exists_scalar
        rfl
    | some content =>
        obtain ⟨hrestores, hwritten⟩ := hvalue content rfl
        have hread : (codec.read manner node).map some = .ok (some content) :=
          congrArg (Except.map some) (hrestores.reads manner hspells)
        simp only [optional]
        split
        case h_1 => exact absurd (Option.some.inj hspells.contents).symm hwritten
        case h_2 => exact hread

/-- The items of a list are read one by one. -/
theorem readItems_of_restores {values : List α}
    (hvalues : ∀ value ∈ values, codec.Restores n value) (manner : Manner) {items : Items}
    (hspells : items.Spells (values.map codec.write)) :
    codec.readItems manner items = .ok values := by
  induction values generalizing items with
  | nil =>
      obtain ⟨stop, rfl⟩ := hspells.exists_close
      rfl
  | cons value values ih =>
      obtain ⟨node, resting, rest, rfl, hnode, hrest⟩ := hspells.exists_item
      have hvalue := (hvalues value List.mem_cons_self).reads manner hnode
      have hmore := ih (fun value hmem => hvalues value (List.mem_cons_of_mem _ hmem)) hrest
      rw [readItems, hvalue]
      show (codec.readItems manner rest).map (value :: ·) = .ok (value :: values)
      rw [hmore]
      rfl

theorem restores_list {values : List α} (hvalues : ∀ value ∈ values, codec.Restores n value) :
    (list codec).Restores (n + 1) values where
  fits := by
    intro item hitem
    obtain ⟨value, hvalue, rfl⟩ := List.mem_map.mp hitem
    exact (hvalues value hvalue).fits
  reads manner node hspells := by
    obtain ⟨start, depth, items, rfl, hshallow, hitems⟩ := hspells.exists_list
    show enter start depth (codec.readItems manner items) = .ok values
    rw [enter, hshallow]
    exact readItems_of_restores hvalues manner hitems

/-- The members of a map are read one by one. -/
theorem readMembers_of_restores {entries : List (String × α)}
    (hentries : ∀ entry ∈ entries, codec.Restores n entry.2) (manner : Manner)
    {members : Members}
    (hspells : members.Spells (entries.map fun (key, value) => (key, codec.write value))) :
    codec.readMembers manner members = .ok entries := by
  induction entries generalizing members with
  | nil =>
      obtain ⟨stop, rfl⟩ := hspells.exists_close
      rfl
  | cons entry entries ih =>
      obtain ⟨obstacle, keyStop, behindKey, node, resting, rest, rfl, hnode, hrest⟩ :=
        hspells.exists_member
      have hentry := (hentries entry List.mem_cons_self).reads manner hnode
      have hmore := ih (fun entry hmem => hentries entry (List.mem_cons_of_mem _ hmem)) hrest
      rw [readMembers, hentry]
      show (codec.readMembers manner rest).map ((entry.1, entry.2) :: ·) = .ok (entry :: entries)
      rw [hmore]
      rfl

theorem restores_map {β : Type} {ofList : List (String × α) → β} {toList : β → List (String × α)}
    {value : β} (hentries : ∀ entry ∈ toList value, codec.Restores n entry.2)
    (hvalue : ofList (toList value) = value) :
    (map codec ofList toList).Restores (n + 1) value where
  fits := by
    intro member hmember
    obtain ⟨entry, hentry, rfl⟩ := List.mem_map.mp hmember
    exact (hentries entry hentry).fits
  reads manner node hspells := by
    obtain ⟨start, depth, members, rfl, hshallow, hmembers⟩ := hspells.exists_map
    show enter start depth ((codec.readMembers manner members).map ofList) = .ok value
    rw [enter, hshallow, readMembers_of_restores hentries manner hmembers]
    exact congrArg Except.ok hvalue

/-- What is restored can be decoded from its text, in either layout. -/
theorem Restores.decode_chars {value : α} (hrestores : codec.Restores n value)
    (hdepth : n ≤ depthLimit) (layout : Layout) :
    codec.decode (Text.ofChars ((codec.write value).chars layout 0)) = .ok value := by
  obtain ⟨hspells, htrailing⟩ := spells_of_written hrestores.fits hdepth layout
  simp only [decode, hrestores.reads .streamed hspells, htrailing]

theorem Restores.decode_encode {value : α} (hrestores : codec.Restores n value)
    (hdepth : n ≤ depthLimit) : codec.decode (Text.ofString (codec.encode value)) = .ok value := by
  rw [Text.ofString, encode, compact, String.toList_ofList]
  exact hrestores.decode_chars hdepth .compact

theorem Restores.decode_encodeIndented {value : α} (hrestores : codec.Restores n value)
    (hdepth : n ≤ depthLimit) :
    codec.decode (Text.ofString (codec.encodeIndented value)) = .ok value := by
  rw [Text.ofString, encodeIndented, indented, String.toList_ofList]
  exact hrestores.decode_chars hdepth .indented

/-- Values that are written alike are the same. -/
theorem Restores.eq_of_write_eq {first second : α} (hfirst : codec.Restores n first)
    (hsecond : codec.Restores n second) (hdepth : n ≤ depthLimit)
    (heq : codec.write first = codec.write second) : first = second := by
  have hread := hfirst.decode_chars hdepth .compact
  rw [heq, hsecond.decode_chars hdepth .compact] at hread
  exact (Except.ok.inj hread).symm

end Codec

/-! ## Fields -/

variable {ρ β : Type} {n : Nat} {value before between after : ρ}

/-- How a field takes the record that is being filled in one step towards the written
one: by what was written of it, or by being left out. -/
inductive Field.Restores (field : Field ρ) (n : Nat) (value before after : ρ) : Prop where
  | written {json : Json} (hwrite : field.write value = some json) (hfits : json.Fits n)
      (hread : ∀ (manner : Manner) {node : Node}, node.Spells json →
        field.read manner node before = .ok after)
  | hidden (hwrite : field.write value = none) (hoptional : field.required = false)
      (hsame : after = before)

/-- How several fields do, one after the other. -/
inductive Field.RestoreAll (n : Nat) (value : ρ) : List (Field ρ) → ρ → ρ → Prop where
  | nil {record : ρ} : RestoreAll n value [] record record
  | cons {field : Field ρ} {fields : List (Field ρ)} {before between after : ρ}
      (hfirst : field.Restores n value before between)
      (hrest : RestoreAll n value fields between after) :
      RestoreAll n value (field :: fields) before after

namespace Field

variable {codec : Codec β} {get : ρ → β} {set : ρ → β → ρ}

/-- What a field writes of the record, it sets in the one that is filled in. -/
theorem Restores.of_written {field : Field ρ} (hcodec : codec.Restores n (get value))
    (hwrite : field.write value = some (codec.write (get value)))
    (hread : ∀ manner node record,
      field.read manner node record = (codec.read manner node).map (set record)) :
    field.Restores n value before (set before (get value)) := by
  refine .written hwrite hcodec.fits fun manner node hspells => ?_
  rw [hread, hcodec.reads manner hspells]
  rfl

theorem Restores.mandatory {name : String} (hcodec : codec.Restores n (get value)) :
    (Field.mandatory name codec get set).Restores n value before (set before (get value)) :=
  .of_written hcodec rfl fun _ _ _ => rfl

theorem Restores.defaulted {name : String} (hcodec : codec.Restores n (get value)) :
    (Field.defaulted name codec get set).Restores n value before (set before (get value)) :=
  .of_written hcodec rfl fun _ _ _ => rfl

/-- A sparse field is left out only where its value is what the record holds anyway. -/
theorem Restores.sparse {name : String} {hidden : β → Bool} {absent : β}
    (hcodec : codec.Restores n (get value))
    (hhidden : hidden (get value) = true → get value = absent)
    (hsame : set before absent = before) :
    (Field.sparse name codec hidden get set).Restores n value before (set before (get value)) := by
  by_cases hleft : hidden (get value) = true
  · exact .hidden (if_pos hleft) rfl ((congrArg (set before) (hhidden hleft)).trans hsame)
  · exact .of_written hcodec (if_neg hleft) fun _ _ _ => rfl

end Field

/-! ## Records -/

namespace Record

variable {record : Record ρ}

theorem name_mem_of_mem_members {member : String × Json} (h : member ∈ record.members value) :
    member.1 ∈ record.fields.map Field.name := by
  obtain ⟨field, hfield, hwrite⟩ := List.mem_filterMap.mp h
  obtain ⟨json, -, rfl⟩ := Option.map_eq_some_iff.mp hwrite
  exact List.mem_map_of_mem hfield

theorem name_ne_of_mem_members {name : String} (h : name ∉ record.fields.map Field.name) :
    ∀ member ∈ record.members value, member.1 ≠ name :=
  fun _ hmember heq => h (heq ▸ name_mem_of_mem_members hmember)

theorem fits_members {fields : List (Field ρ)}
    (hall : Field.RestoreAll n value fields before after) :
    ∀ member ∈ fields.filterMap fun field => (field.write value).map (field.name, ·),
      member.2.Fits n := by
  induction hall with
  | nil => exact fun member hmember => absurd hmember List.not_mem_nil
  | @cons field fields before between after hfirst hrest ih =>
      intro member hmember
      cases hfirst with
      | written hwrite hfits hread =>
          rw [List.filterMap_cons, hwrite] at hmember
          rcases List.mem_cons.mp hmember with rfl | hmember
          · exact hfits
          · exact ih member hmember
      | hidden hwrite hoptional hsame =>
          rw [List.filterMap_cons, hwrite] at hmember
          exact ih member hmember

/-- Where no field that must be there is missing, a record ends with its members. -/
theorem readMembers_close {manner : Manner} {seen : List String}
    (hrequired : ∀ field ∈ record.fields, field.required = true → field.name ∈ seen)
    (value : ρ) (stop : Nat) : record.readMembers manner seen value (.close stop) = .ok value := by
  have hnone : record.fields.find?
      (fun field => field.required && !seen.contains field.name) = none := by
    rw [List.find?_eq_none]
    intro field hfield hmissing
    obtain ⟨hneeded, hunseen⟩ := Bool.and_eq_true_iff.mp hmissing
    rw [List.contains_iff_mem.mpr (hrequired field hfield hneeded)] at hunseen
    exact absurd hunseen (by decide)
  rw [readMembers, hnone]

/-- The name of a field leads to it, as no field before it has that name. -/
theorem find?_name (hnames : (record.fields.map Field.name).Nodup) {past others : List (Field ρ)}
    {field : Field ρ} (hfields : record.fields = past ++ field :: others) :
    field.name ∉ past.map Field.name ∧
      record.fields.find? (fun other => other.name == field.name) = some field := by
  have hnew : field.name ∉ past.map Field.name := by
    rw [hfields, List.map_append, List.map_cons] at hnames
    exact fun hmem => (List.nodup_append.mp hnames).2.2 _ hmem _ List.mem_cons_self rfl
  refine ⟨hnew, List.find?_eq_some_iff_append.mpr ⟨beq_self_eq_true _, past, others, hfields, ?_⟩⟩
  intro other hother
  have hne : other.name ≠ field.name := fun heq => hnew (heq ▸ List.mem_map_of_mem hother)
  rw [beq_eq_false_iff_ne.mpr hne]
  rfl

/-- The members that were written of some fields are read one by one.  Of the fields `past`
that lie behind, no other than `seen` were written, and those that must be there were. -/
theorem readMembers_of_restoreAll (hnames : (record.fields.map Field.name).Nodup)
    {manner : Manner} {past fields : List (Field ρ)} {seen : List String} {members : Members}
    (hfields : record.fields = past ++ fields)
    (hseen : ∀ name ∈ seen, name ∈ past.map Field.name)
    (hrequired : ∀ field ∈ past, field.required = true → field.name ∈ seen)
    (hall : Field.RestoreAll n value fields before after)
    (hspells : members.Spells
      (fields.filterMap fun field => (field.write value).map (field.name, ·))) :
    record.readMembers manner seen before members = .ok after := by
  induction hall generalizing past seen members with
  | nil =>
      obtain ⟨stop, rfl⟩ := hspells.exists_close
      rw [List.append_nil] at hfields
      exact readMembers_close (hfields ▸ hrequired) _ stop
  | @cons field fields before between after hfirst hrest ih =>
      have hbehind : record.fields = (past ++ [field]) ++ fields := by
        rw [hfields, List.append_assoc, List.singleton_append]
      obtain ⟨hnew, hfind⟩ := find?_name hnames hfields
      cases hfirst with
      | @written json hwrite hfits hread =>
          rw [List.filterMap_cons, hwrite] at hspells
          obtain ⟨obstacle, keyStop, behindKey, node, resting, rest, rfl, hnode, hmore⟩ :=
            hspells.exists_member
          -- The member is met for the first time, as its field lies ahead.
          have hunseen : ¬seen.contains field.name = true :=
            fun hcontains => hnew (hseen _ (List.contains_iff_mem.mp hcontains))
          rw [readMembers, hfind]
          simp only [hunseen, hread manner hnode]
          refine ih hbehind ?_ ?_ hmore
          · intro name hname
            rw [List.map_append]
            rcases List.mem_cons.mp hname with rfl | hname
            · exact List.mem_append_right _ List.mem_cons_self
            · exact List.mem_append_left _ (hseen name hname)
          · intro other hother hneeded
            rcases List.mem_append.mp hother with hother | hother
            · exact List.mem_cons_of_mem _ (hrequired other hother hneeded)
            · rw [List.mem_singleton.mp hother]
              exact List.mem_cons_self
      | hidden hwrite hoptional hsame =>
          subst hsame
          rw [List.filterMap_cons, hwrite] at hspells
          refine ih hbehind ?_ ?_ hspells
          · intro name hname
            rw [List.map_append]
            exact List.mem_append_left _ (hseen name hname)
          · intro other hother hneeded
            rcases List.mem_append.mp hother with hother | hother
            · exact hrequired other hother hneeded
            · rw [List.mem_singleton.mp hother, hoptional] at hneeded
              exact nomatch hneeded

/-- A record is restored if each of its fields takes what is filled in one step further. -/
theorem restores (hnames : (record.fields.map Field.name).Nodup)
    (hall : Field.RestoreAll n value record.fields record.blank value) :
    record.codec.Restores (n + 1) value where
  fits := fits_members hall
  reads manner node hspells := by
    obtain ⟨start, depth, members, rfl, hshallow, hmembers⟩ := hspells.exists_map
    show Codec.enter start depth (record.readMembers manner [] record.blank members) = .ok value
    rw [Codec.enter, hshallow]
    exact readMembers_of_restoreAll hnames (List.nil_append _).symm (List.forall_mem_nil _)
      (List.forall_mem_nil _) hall hmembers

end Record

end CloudSteward.Json
