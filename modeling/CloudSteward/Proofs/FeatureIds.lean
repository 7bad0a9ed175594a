import CloudSteward.Proofs.Json.Parts
import CloudSteward.Wire.Role
import Mathlib.Data.List.Forall2

/-!
# What identifies a feature

A feature is identified by a string, or by an object with exactly one group and exactly one name,
both of them strings; what other members the object has does not matter (`FeatureId.Identifies`).
A tree is read as an identifier just if it stands for such a value, so every value but these is
refused, of whatever kind and however deep it is (`FeatureId.read_eq_ok_iff`).
-/

namespace CloudSteward

open Json

/-- The values of the members with a name. -/
def Json.valuesOf (name : String) (members : List (String × Json)) : List Json :=
  (members.filter fun member => member.1 = name).map Prod.snd

namespace FeatureId

/-- The values that identify features. -/
inductive Identifies : Json → FeatureId → Prop where
  | plain (id : String) : Identifies (.string id) (.plain id)
  | bucket {members : List (String × Json)} {group name : String} :
      Json.valuesOf "groupId" members = [.string group] →
      Json.valuesOf "bucketName" members = [.string name] →
        Identifies (.object members) (.bucket group name)

/-- What is written of an identifier identifies the feature. -/
theorem identifies_write (id : FeatureId) : Identifies (codec.write id) id := by
  cases id with
  | plain id => exact .plain id
  | bucket group name => exact .bucket (by simp [Json.valuesOf]) (by simp [Json.valuesOf])

/-- The values that are found under a name stand for the values of that name. -/
theorem forall₂_valuesOf (name : String) {members : Members} {values : List (String × Json)}
    (hspells : members.Spells values) :
    List.Forall₂ Node.Spells (valuesOf name members) (Json.valuesOf name values) := by
  induction values generalizing members with
  | nil =>
      obtain ⟨stop, rfl⟩ := hspells.exists_close
      exact .nil
  | cons member values ih =>
      obtain ⟨_, _, _, node, _, rest, rfl, hnode, hrest⟩ := hspells.exists_member
      by_cases hname : member.1 = name
      · simp only [valuesOf, Json.valuesOf, hname, List.filter_cons, decide_true, if_true]
        exact .cons hnode (ih hrest)
      · simp only [valuesOf, Json.valuesOf, hname, List.filter_cons, decide_false, if_false]
        exact ih hrest

theorem onlyString?_eq_some_iff (name s : String) {members : Members}
    {values : List (String × Json)} (hspells : members.Spells values) :
    onlyString? name members = some s ↔ Json.valuesOf name values = [.string s] := by
  have hall := forall₂_valuesOf name hspells
  unfold onlyString?
  constructor
  · intro honly
    split at honly
    case h_1 start stop quoted found obstacle hnodes =>
      obtain rfl := Option.some.inj honly
      rw [hnodes] at hall
      obtain ⟨value, others, hvalue, hothers, hvalues⟩ := List.forall₂_cons_left_iff.mp hall
      obtain rfl := List.forall₂_nil_left_iff.mp hothers
      have hstring : (Node.scalar start stop quoted (.ok (.string found)) obstacle).Spells
          (.string found) := ⟨rfl, rfl⟩
      rw [hvalues, hvalue.unique hstring]
    case h_2 => cases honly
  · intro hvalues
    rw [hvalues] at hall
    obtain ⟨node, others, hnode, hothers, hnodes⟩ := List.forall₂_cons_right_iff.mp hall
    obtain rfl := List.forall₂_nil_right_iff.mp hothers
    have hscalar : node.Spells (Scalar.string s).contents := hnode
    obtain ⟨start, stop, quoted, obstacle, rfl⟩ := hscalar.exists_scalar
    rw [hnodes]

/-- A tree that stands for a value is read as what the value identifies. -/
theorem ofNode?_eq_some_iff {node : Node} {value : Json} (hspells : node.Spells value)
    (id : FeatureId) : ofNode? node = some id ↔ Identifies value id := by
  have hcontents := hspells.contents
  cases node with
  | absent fault => cases hcontents
  | scalar start stop quoted read obstacle =>
      cases read with
      | error fault => cases hcontents
      | ok scalar =>
          obtain rfl := Option.some.inj hcontents
          cases scalar with
          | string s =>
              constructor
              · rintro ⟨⟩
                exact .plain s
              · rintro ⟨⟩
                rfl
          | _ => exact ⟨nofun, nofun⟩
  | list start depth items =>
      obtain ⟨values, -, rfl⟩ := Option.map_eq_some_iff.mp hcontents
      exact ⟨nofun, nofun⟩
  | map start depth members =>
      obtain ⟨values, hvalues, rfl⟩ := Option.map_eq_some_iff.mp hcontents
      have hmembers : members.Spells values :=
        ⟨hvalues, (Option.or_eq_none_iff.mp hspells.sound).2⟩
      have hread : ofNode? (.map start depth members) = some id ↔
          ∃ group, onlyString? "groupId" members = some group ∧
            ∃ name, onlyString? "bucketName" members = some name ∧ .bucket group name = id := by
        simp [ofNode?, Option.bind_eq_some_iff]
      simp only [hread, onlyString?_eq_some_iff _ _ hmembers]
      constructor
      · rintro ⟨group, hgroup, name, hname, rfl⟩
        exact .bucket hgroup hname
      · intro hid
        cases hid with
        | bucket hgroup hname => exact ⟨_, hgroup, _, hname, rfl⟩

theorem read_eq_ok_iff {manner : Manner} {node : Node} {id : FeatureId} :
    codec.read manner node = .ok id ↔ ∃ value, node.Spells value ∧ Identifies value id := by
  constructor
  · intro hread
    cases hfault : node.fault? with
    | some fault =>
        simp only [codec, hfault] at hread
        cases hread
    | none =>
        obtain ⟨value, hspells⟩ := node.exists_spells hfault
        refine ⟨value, hspells, (ofNode?_eq_some_iff hspells id).mp ?_⟩
        cases hnode : ofNode? node with
        | none =>
            simp only [codec, hfault, hnode] at hread
            cases hread
        | some found =>
            simp only [codec, hfault, hnode] at hread
            exact congrArg some (Except.ok.inj hread)
  · rintro ⟨value, hspells, hid⟩
    simp only [codec, hspells.sound, (ofNode?_eq_some_iff hspells id).mpr hid]

/-- A text is decoded just if the value that it stands for identifies a feature. -/
theorem decode_eq_ok_iff (text : Text) (id : FeatureId) :
    codec.decode text = .ok id ↔
      ∃ value, Json.codec.decode text = .ok value ∧ Identifies value id := by
  simp only [Codec.decode_eq_ok_iff, read_eq_ok_iff, Json.read_eq_ok_iff]
  constructor
  · rintro ⟨⟨value, hspells, hid⟩, htrailing⟩
    exact ⟨value, ⟨hspells, htrailing⟩, hid⟩
  · rintro ⟨value, ⟨hspells, htrailing⟩, hid⟩
    exact ⟨⟨value, hspells, hid⟩, htrailing⟩

end FeatureId

end CloudSteward
