import CloudSteward.Json.Node
import CloudSteward.Json.Printer
import CloudSteward.Json.Message

/-!
# Reading and writing typed values

A `Codec` says how the values of a type are written and how they are read from a
tree.  A tree is read in one of two manners.  Streamed, the reader goes through
the text and its complaints have places.  Kept, the value was first taken in as
a whole; then its complaints have none, and it is a little stricter about what
may surround the value of an enumeration.

Records are described field by field, and one description serves both ways.
-/

namespace CloudSteward.Json

/-- How a tree is read. -/
inductive Manner where
  | streamed
  | kept
deriving DecidableEq, Repr

namespace Manner

/-- A complaint about a value of which `offset` bytes were read. -/
def complain (manner : Manner) (complaint : Complaint) (offset : Nat) : Fault :=
  match manner with
  | .streamed => .placed complaint offset
  | .kept => .placeless complaint

/-- Where a fault inside a container is placed once the reader has left it. -/
def settle (manner : Manner) (fault : Fault) (offset : Nat) : Fault :=
  match manner with
  | .streamed => fault.settle offset
  | .kept => fault

end Manner

namespace Node

/-- The complaint about a value that is not what was expected. -/
def refuse (node : Node) (manner : Manner) (expected : String) : Fault :=
  match node with
  | .absent fault => fault
  | .scalar _ _ _ (.error fault) _ => fault
  | .scalar _ stop _ (.ok value) _ =>
      manner.complain (.wrongType value.found expected) stop
  | .list start _ _ => manner.complain (.wrongType .list expected) start
  | .map start _ _ => manner.complain (.wrongType .map expected) start

/-- The complaint about a value that should not be there at all. -/
def refuseSurplus : Node → Fault
  | .absent fault => { fault with complaint := .trailingCharacters }
  | .scalar start _ _ _ _ => .placed .trailingCharacters (start + 1)
  | .list start _ _ => .placed .trailingCharacters (start + 1)
  | .map start _ _ => .placed .trailingCharacters (start + 1)

end Node

/-- How values of a type are read and written. -/
structure Codec (α : Type) where
  read : Manner → Node → Except Fault α
  write : α → Json

namespace Codec

variable {α β : Type}

/-- Reads a whole text. -/
def decode (codec : Codec α) (text : Text) : Except Error α :=
  let document := Document.ofText text
  match codec.read .streamed document.root with
  | .error fault => .error (fault.locate text)
  | .ok value =>
      match document.trailing with
      | some fault => .error (fault.locate text)
      | none => .ok value

/-- The compact text of a value. -/
def encode (codec : Codec α) (value : α) : String :=
  (codec.write value).compact

/-- The indented text of a value. -/
def encodeIndented (codec : Codec α) (value : α) : String :=
  (codec.write value).indented

/-! ## Scalars -/

/-- Strings that spell a value; `expected` names what they should spell. -/
def spelled (expected : String) (parse : String → Except Complaint α)
    (spell : α → String) : Codec α where
  read manner node :=
    match node with
    | .scalar _ stop _ (.ok (.string s)) _ =>
        match parse s with
        | .ok value => .ok value
        | .error complaint => .error (manner.complain complaint stop)
    | _ => .error (node.refuse manner expected)
  write value := .string (spell value)

def string : Codec String :=
  spelled "a string" .ok id

def boolean : Codec Bool where
  read manner node :=
    match node with
    | .scalar _ _ _ (.ok (.boolean value)) _ => .ok value
    | _ => .error (node.refuse manner "a boolean")
  write value := .boolean value

/-- A value, or nothing for `null`. -/
def optional (codec : Codec α) : Codec (Option α) where
  read manner node :=
    match node with
    | .scalar _ _ _ (.ok .null) _ => .ok none
    | _ => (codec.read manner node).map some
  write
    | none => .null
    | some value => codec.write value

/-! ## Lists and maps -/

/-- Goes into a container, unless it is too deep. -/
def enter (start depth : Nat) (inside : Except Fault α) : Except Fault α :=
  match depthFault start depth with
  | some fault => .error fault
  | none => inside

/-- Reads items of one type. -/
def readItems (codec : Codec α) (manner : Manner) : Items → Except Fault (List α)
  | .close _ => .ok []
  | .broken why place => .error (why.itemFault place)
  | .item node resting rest =>
      match codec.read manner node with
      | .error fault => .error (manner.settle fault resting)
      | .ok value => (readItems codec manner rest).map (value :: ·)

def list (codec : Codec α) : Codec (List α) where
  read manner node :=
    match node with
    | .list start depth items => enter start depth (codec.readItems manner items)
    | _ => .error (node.refuse manner "a sequence")
  write values := .array (values.map codec.write)

/-- Reads members whose values are of one type, in the order of the text. -/
def readMembers (codec : Codec α) (manner : Manner) : Members → Except Fault (List (String × α))
  | .close _ => .ok []
  | .broken why place => .error (why.memberFault place)
  | .unquoted place => .error (.placed .keyNotString (place + 1))
  | .member (.error fault) _ _ _ _ _ _ => .error fault
  | .member (.ok key) _ _ _ node resting rest =>
      match codec.read manner node with
      | .error fault => .error (manner.settle fault resting)
      | .ok value => (readMembers codec manner rest).map ((key, value) :: ·)

/-- Maps with keys of any name; a type keeps of them what `ofList` keeps. -/
def map (codec : Codec α) (ofList : List (String × α) → β) (toList : β → List (String × α)) :
    Codec β where
  read manner node :=
    match node with
    | .map start depth members =>
        enter start depth ((codec.readMembers manner members).map ofList)
    | _ => .error (node.refuse manner "a map")
  write value := .object ((toList value).map fun (key, value) => (key, codec.write value))

/-! ## Enumerations -/

/-- The value of a name, or a complaint that lists the names. -/
def variant (known : List (String × α)) (name : String) : Except Complaint α :=
  match known.lookup name with
  | some value => .ok value
  | none => .error (.unknownVariant name (known.map Prod.fst))

/-- Reads the map form of a name: one member with that key and no value. -/
def readVariantMap (known : List (String × α)) : Members → Except Fault α
  | .close stop => .error (.placed .expectedValue stop)
  | .broken _ place => .error (.placed .endInMap place)
  | .unquoted place => .error (.placed .keyNotString (place + 1))
  | .member (.error fault) _ _ _ _ _ _ => .error fault
  | .member (.ok key) _ keyStop _ node resting rest =>
      match variant known key with
      | .error complaint => .error (.placed complaint keyStop)
      | .ok value =>
          match node, rest with
          | .scalar _ _ _ (.ok .null) _, .close _ => .ok value
          | .scalar _ _ _ (.ok .null) _, .broken .ended place =>
              .error (.placed .endInMap place)
          | .scalar _ _ _ (.ok .null) _, _ => .error (.placed .expectedValue resting)
          | _, _ => .error (node.refuse .streamed "unit")

/-- Whether a kept value stands for no value. -/
def isUnit : Node → Bool
  | .scalar _ _ _ (.ok .null) _ => true
  | .map _ _ (.close _) => true
  | _ => false

/-- Reads the map form of a name from a kept value. -/
def readKeptVariantMap (known : List (String × α)) : Members → Except Fault α
  | .member (.ok key) _ _ _ node _ (.close _) =>
      match variant known key with
      | .error complaint => .error (.placeless complaint)
      | .ok value =>
          if isUnit node then .ok value else .error (node.refuse .kept "unit")
  | _ => .error (.placeless (.wrongValue .map "map with a single key"))

/-- Reads a name of an enumeration. -/
def readVariant (known : List (String × α)) (manner : Manner) (node : Node) : Except Fault α :=
  match node with
  | .scalar _ stop _ (.ok (.string name)) _ =>
      match variant known name with
      | .ok value => .ok value
      | .error complaint => .error (manner.complain complaint stop)
  | _ =>
      match manner with
      | .streamed =>
          match node with
          | .map start depth members => enter start depth (readVariantMap known members)
          | .scalar _ _ true (.error fault) _ => .error fault
          | .scalar start _ _ _ _ => .error (.placed .expectedValue (start + 1))
          | .list start _ _ => .error (.placed .expectedValue (start + 1))
          | .absent fault => .error fault
      | .kept =>
          match node with
          | .map _ _ members => readKeptVariantMap known members
          | _ => .error (node.refuse .kept "string or map")

/-- An enumeration with a name for each value. -/
def enumeration (known : List (String × α)) (name : α → String) : Codec α where
  read := readVariant known
  write value := .string (name value)

end Codec

/-! ## Records -/

/-- A field of a record: how it is read into a record, and what is written of it,
if anything. -/
structure Field (ρ : Type) where
  name : String
  /-- Whether the field must be there when a record is read. -/
  required : Bool
  read : Manner → Node → ρ → Except Fault ρ
  write : ρ → Option Json

namespace Field

variable {ρ β : Type}

private def make (name : String) (required : Bool) (codec : Codec β) (get : ρ → β)
    (set : ρ → β → ρ) (hidden : β → Bool) : Field ρ where
  name
  required
  read manner node record := (codec.read manner node).map (set record)
  write record := if hidden (get record) then none else some (codec.write (get record))

/-- A field that must be there. -/
def mandatory (name : String) (codec : Codec β) (get : ρ → β) (set : ρ → β → ρ) : Field ρ :=
  make name true codec get set fun _ => false

/-- A field that may be missing, and is always written. -/
def defaulted (name : String) (codec : Codec β) (get : ρ → β) (set : ρ → β → ρ) : Field ρ :=
  make name false codec get set fun _ => false

/-- A field that may be missing, and is left out where `hidden` holds. -/
def sparse (name : String) (codec : Codec β) (hidden : β → Bool) (get : ρ → β)
    (set : ρ → β → ρ) : Field ρ :=
  make name false codec get set hidden

end Field

/-- The description of a record type. -/
structure Record (ρ : Type) where
  /-- What the type is called in messages. -/
  title : String
  /-- The record in which every field that may be missing has its default. -/
  blank : ρ
  fields : List (Field ρ)

namespace Record

variable {ρ : Type}

/-- "1 element", "2 elements" and so on. -/
def elements (count : Nat) : String :=
  if count = 1 then "1 element" else toString count ++ " elements"

/-- What a record that is read from a list should have been. -/
def expectedLength (record : Record ρ) : String :=
  "struct " ++ record.title ++ " with " ++ elements record.fields.length

/-- Reads members into a record; `seen` are the fields that were read already. -/
def readMembers (record : Record ρ) (manner : Manner) :
    List String → ρ → Members → Except Fault ρ
  | seen, value, .close stop =>
      match record.fields.find? fun field => field.required && !seen.contains field.name with
      | some field => .error (manner.complain (.missingField field.name) stop)
      | none => .ok value
  | _, _, .broken why place => .error (why.memberFault place)
  | _, _, .unquoted place => .error (.placed .keyNotString (place + 1))
  | _, _, .member (.error fault) _ _ _ _ _ _ => .error fault
  | seen, value, .member (.ok key) _ _ behindKey node resting rest =>
      match record.fields.find? fun field => field.name == key with
      | none =>
          match node.obstacle? with
          | some fault => .error fault
          | none => readMembers record manner seen value rest
      | some field =>
          if seen.contains key then
            .error (manner.complain (.duplicateField key) behindKey)
          else
            match field.read manner node value with
            | .error fault => .error (manner.settle fault resting)
            | .ok value => readMembers record manner (key :: seen) value rest

/-- The number of items that are left of a kept list. -/
def countItems : Items → Nat
  | .close _ => 0
  | .broken _ _ => 0
  | .item _ _ rest => countItems rest + 1

/-- The complaint about the items behind the last field, if there are any. -/
def surplusFault? (record : Record ρ) (manner : Manner) (items : Items) : Option Fault :=
  match items with
  | .close _ => none
  | .broken why place => some (why.surplusItemFault place)
  | .item node _ _ =>
      match manner with
      | .streamed => some node.refuseSurplus
      | .kept =>
          let length := record.fields.length + countItems items
          some (.placeless (.wrongLength length (elements record.fields.length ++ " in sequence")))

/-- Reads items into a record, field by field; `index` counts the fields that were
read already. -/
def readItems (record : Record ρ) (manner : Manner) :
    List (Field ρ) → Nat → ρ → Items → Except Fault ρ
  | [], _, value, items =>
      match record.surplusFault? manner items with
      | some fault => .error fault
      | none => .ok value
  | field :: fields, index, value, .close stop =>
      if field.required then
        .error (manner.complain (.wrongLength index record.expectedLength) stop)
      else readItems record manner fields (index + 1) value (.close stop)
  | _ :: _, _, _, .broken why place => .error (why.itemFault place)
  | field :: fields, index, value, .item node resting rest =>
      match field.read manner node value with
      | .error fault => .error (manner.settle fault resting)
      | .ok value => readItems record manner fields (index + 1) value rest

/-- Reads a record: a map of its fields in any order, or a list of them in the
order of the description. -/
def read (record : Record ρ) (manner : Manner) (node : Node) : Except Fault ρ :=
  match node with
  | .map start depth members =>
      Codec.enter start depth (record.readMembers manner [] record.blank members)
  | .list start depth items =>
      Codec.enter start depth (record.readItems manner record.fields 0 record.blank items)
  | _ => .error (node.refuse manner ("struct " ++ record.title))

/-- The members that are written of a record. -/
def members (record : Record ρ) (value : ρ) : List (String × Json) :=
  record.fields.filterMap fun field => (field.write value).map (field.name, ·)

def codec (record : Record ρ) : Codec ρ where
  read := record.read
  write value := .object (record.members value)

end Record

end CloudSteward.Json
