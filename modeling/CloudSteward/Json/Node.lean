import CloudSteward.Json.Scalar

/-!
# JSON texts as trees

A `Node` is a value together with the places that faults about it refer to.  A
text is turned into a tree without asking what the reader of the tree expects;
where the text is broken the tree ends, and the end says why.  What the user is
told then depends on the reader: one that looks at a value, and one that skips
it, complain about different things, so an end keeps its cause and not its
wording.
-/

namespace CloudSteward.Json

/-- Why the items of a container end without its closing bracket. -/
inductive Break where
  /-- The text ends where a comma or the bracket should stand. -/
  | ended
  /-- The text ends behind a comma. -/
  | endedAfterComma
  /-- The bracket stands behind a comma. -/
  | closedAfterComma
  /-- Something else stands where a comma or the bracket should. -/
  | noComma
deriving DecidableEq, Repr

mutual

/-- A value and its places. -/
inductive Node where
  /-- No value begins here. -/
  | absent (fault : Fault)
  /-- A scalar; `quoted` tells whether it begins with a quote. -/
  | scalar (start stop : Nat) (quoted : Bool) (value : Except Fault Scalar)
      (obstacle : Option Fault)
  /-- A list; `depth` counts the brackets that are open inside it. -/
  | list (start depth : Nat) (items : Items)
  /-- A map; `depth` counts the brackets that are open inside it. -/
  | map (start depth : Nat) (members : Members)

/-- The items of a list. -/
inductive Items where
  | close (stop : Nat)
  | broken (why : Break) (place : Nat)
  /-- An item, and the place where a reader rests that gives up behind it. -/
  | item (value : Node) (resting : Nat) (rest : Items)

/-- The members of a map. -/
inductive Members where
  | close (stop : Nat)
  | broken (why : Break) (place : Nat)
  /-- Something that is not a string stands where a key should. -/
  | unquoted (place : Nat)
  /-- A member, and the places behind its key.  A reader that gives up behind the
  key rests at `behindKey`, and one that gives up behind the value at `resting`. -/
  | member (key : Except Fault String) (obstacle : Option Fault) (keyStop behindKey : Nat)
      (value : Node) (resting : Nat) (rest : Members)

end

/-! ## What the ends of a container mean -/

namespace Break

/-- The complaint of a reader that wants another item. -/
def itemFault : Break → Nat → Fault
  | .ended, place => .placed .endInList place
  | .endedAfterComma, place => .placed .endInValue place
  | .closedAfterComma, place => .placed .trailingComma (place + 1)
  | .noComma, place => .placed .expectedCommaOrBracket (place + 1)

/-- The complaint of a reader that skips the list. -/
def skippedItemFault : Break → Nat → Fault
  | .ended, place => .placed .endInList place
  | .endedAfterComma, place => .placed .endInValue place
  | .closedAfterComma, place => .placed .expectedValue (place + 1)
  | .noComma, place => .placed .expectedCommaOrBracket (place + 1)

/-- The complaint of a reader that has all items it wants. -/
def surplusItemFault : Break → Nat → Fault
  | .ended, place => .placed .endInList place
  | .endedAfterComma, place => .placed .trailingCharacters place
  | .closedAfterComma, place => .placed .trailingComma (place + 1)
  | .noComma, place => .placed .trailingCharacters (place + 1)

/-- The complaint of a reader that wants another member. -/
def memberFault : Break → Nat → Fault
  | .ended, place => .placed .endInMap place
  | .endedAfterComma, place => .placed .endInValue place
  | .closedAfterComma, place => .placed .trailingComma (place + 1)
  | .noComma, place => .placed .expectedCommaOrBrace (place + 1)

/-- The complaint of a reader that skips the map. -/
def skippedMemberFault : Break → Nat → Fault
  | .ended, place => .placed .endInMap place
  | .endedAfterComma, place => .placed .endInMap place
  | .closedAfterComma, place => .placed .keyNotString (place + 1)
  | .noComma, place => .placed .expectedCommaOrBrace (place + 1)

end Break

/-! ## From texts to trees -/

/-- A place in a text and the text from there on. -/
structure Cursor where
  offset : Nat
  text : Text

namespace Cursor

/-- Whether a glyph is a blank between values. -/
def isBlank (glyph : Glyph) : Bool :=
  glyph = .char ' ' || glyph = .char '\n' || glyph = .char '\t' || glyph = .char '\r'

/-- The cursor behind the blanks at the start of a text. -/
def skipBlanksFrom : Nat → Text → Cursor
  | offset, [] => ⟨offset, []⟩
  | offset, glyph :: rest =>
      if isBlank glyph then skipBlanksFrom (offset + 1) rest else ⟨offset, glyph :: rest⟩

/-- The cursor behind the blanks. -/
def skipBlanks (cursor : Cursor) : Cursor :=
  skipBlanksFrom cursor.offset cursor.text

/-- Where a reader rests that gives up behind an item: it goes on to the next
glyph, takes a closing bracket, and takes a comma with the blanks behind it. -/
def restBehindItem (cursor : Cursor) : Nat :=
  let here := cursor.skipBlanks
  match here.text with
  | .char ']' :: _ => here.offset + 1
  | .char ',' :: rest => (skipBlanksFrom (here.offset + 1) rest).offset
  | _ => here.offset

/-- Where a reader rests that gives up inside a member: it goes on to the next
glyph and takes a closing brace. -/
def restInMember (cursor : Cursor) : Nat :=
  let here := cursor.skipBlanks
  match here.text with
  | .char '\x7d' :: _ => here.offset + 1
  | _ => here.offset

end Cursor

mutual

/-- Reads one value.  Each step takes a unit of the fuel; there are at most four
steps for each glyph. -/
def readNode : Nat → Nat → Cursor → Node × Option Cursor
  | 0, _, cursor => (.absent (.placed .endInValue cursor.offset), none)
  | fuel + 1, depth, cursor =>
      let here := cursor.skipBlanks
      match here.text with
      | [] => (.absent (.placed .endInValue here.offset), none)
      | .char '[' :: rest =>
          let (items, behind) := readFirstItem fuel (depth + 1) ⟨here.offset + 1, rest⟩
          (.list here.offset (depth + 1) items, behind)
      | .char '\x7b' :: rest =>
          let (members, behind) := readFirstMember fuel (depth + 1) ⟨here.offset + 1, rest⟩
          (.map here.offset (depth + 1) members, behind)
      | text =>
          match scanScalar? here.offset text with
          | none => (.absent (.placed .expectedValue (here.offset + 1)), none)
          | some scan =>
              let quoted := text.head? = some (.char '"')
              (.scalar here.offset scan.stop quoted scan.value scan.obstacle,
                if scan.obstacle.isSome then none else some ⟨scan.stop, scan.rest⟩)

/-- Reads the items of a list behind its opening bracket. -/
def readFirstItem : Nat → Nat → Cursor → Items × Option Cursor
  | 0, _, cursor => (.broken .ended cursor.offset, none)
  | fuel + 1, depth, cursor =>
      let here := cursor.skipBlanks
      match here.text with
      | [] => (.broken .ended here.offset, none)
      | .char ']' :: rest => (.close (here.offset + 1), some ⟨here.offset + 1, rest⟩)
      | _ => readItem fuel depth here

/-- Reads an item and those behind it. -/
def readItem : Nat → Nat → Cursor → Items × Option Cursor
  | 0, _, cursor => (.broken .ended cursor.offset, none)
  | fuel + 1, depth, cursor =>
      match readNode fuel depth cursor with
      | (value, none) => (.item value cursor.offset (.broken .ended cursor.offset), none)
      | (value, some behind) =>
          let (rest, behindAll) := readMoreItems fuel depth behind
          (.item value behind.restBehindItem rest, behindAll)

/-- Reads the items of a list behind one of them. -/
def readMoreItems : Nat → Nat → Cursor → Items × Option Cursor
  | 0, _, cursor => (.broken .ended cursor.offset, none)
  | fuel + 1, depth, cursor =>
      let here := cursor.skipBlanks
      match here.text with
      | [] => (.broken .ended here.offset, none)
      | .char ']' :: rest => (.close (here.offset + 1), some ⟨here.offset + 1, rest⟩)
      | .char ',' :: rest =>
          let next := Cursor.skipBlanksFrom (here.offset + 1) rest
          match next.text with
          | [] => (.broken .endedAfterComma next.offset, none)
          | .char ']' :: _ => (.broken .closedAfterComma next.offset, none)
          | _ => readItem fuel depth next
      | _ => (.broken .noComma here.offset, none)

/-- Reads the members of a map behind its opening brace. -/
def readFirstMember : Nat → Nat → Cursor → Members × Option Cursor
  | 0, _, cursor => (.broken .ended cursor.offset, none)
  | fuel + 1, depth, cursor =>
      let here := cursor.skipBlanks
      match here.text with
      | [] => (.broken .ended here.offset, none)
      | .char '\x7d' :: rest => (.close (here.offset + 1), some ⟨here.offset + 1, rest⟩)
      | _ => readMember fuel depth here

/-- Reads a member and those behind it. -/
def readMember : Nat → Nat → Cursor → Members × Option Cursor
  | 0, _, cursor => (.broken .ended cursor.offset, none)
  | fuel + 1, depth, cursor =>
      match cursor.text with
      | .char '"' :: rest =>
          let scan := scanString .start (cursor.offset + 1) rest
          let key := scan.value.bind fun
            | .string key => .ok key
            | _ => .error (.placed .keyNotString (cursor.offset + 1))
          if scan.obstacle.isSome then
            (.member key scan.obstacle cursor.offset cursor.offset
              (.absent (.placed .endInValue cursor.offset)) cursor.offset
              (.broken .ended cursor.offset), none)
          else
            let behindKey := Cursor.mk scan.stop scan.rest
            let here := behindKey.skipBlanks
            match here.text with
            | .char ':' :: beyond =>
                match readNode fuel depth ⟨here.offset + 1, beyond⟩ with
                | (value, none) =>
                    (.member key none scan.stop behindKey.restInMember value here.offset
                      (.broken .ended here.offset), none)
                | (value, some behind) =>
                    let (more, behindAll) := readMoreMembers fuel depth behind
                    (.member key none scan.stop behindKey.restInMember value
                      behind.restInMember more, behindAll)
            | [] =>
                (.member key none scan.stop behindKey.restInMember
                  (.absent (.placed .endInMap here.offset)) here.offset
                  (.broken .ended here.offset), none)
            | _ :: _ =>
                (.member key none scan.stop behindKey.restInMember
                  (.absent (.placed .expectedColon (here.offset + 1))) here.offset
                  (.broken .ended here.offset), none)
      | _ => (.unquoted cursor.offset, none)

/-- Reads the members of a map behind one of them. -/
def readMoreMembers : Nat → Nat → Cursor → Members × Option Cursor
  | 0, _, cursor => (.broken .ended cursor.offset, none)
  | fuel + 1, depth, cursor =>
      let here := cursor.skipBlanks
      match here.text with
      | [] => (.broken .ended here.offset, none)
      | .char '\x7d' :: rest => (.close (here.offset + 1), some ⟨here.offset + 1, rest⟩)
      | .char ',' :: rest =>
          let next := Cursor.skipBlanksFrom (here.offset + 1) rest
          match next.text with
          | [] => (.broken .endedAfterComma next.offset, none)
          | .char '\x7d' :: _ => (.broken .closedAfterComma next.offset, none)
          | _ => readMember fuel depth next
      | _ => (.broken .noComma here.offset, none)

end

/-- A whole text: its value, and what is wrong behind it. -/
structure Document where
  root : Node
  trailing : Option Fault

namespace Document

/-- Reads a text. -/
def ofText (text : Text) : Document :=
  match readNode (4 * text.length + 4) 0 ⟨0, text⟩ with
  | (root, none) => { root, trailing := none }
  | (root, some behind) =>
      let here := behind.skipBlanks
      let trailing := match here.text with
        | [] => none
        | _ :: _ => some (.placed .trailingCharacters (here.offset + 1))
      { root, trailing }

end Document

/-! ## Readers that want all of a value, and readers that skip it -/

/-- The greatest number of brackets that a reader of values opens. -/
def depthLimit : Nat := 127

/-- The complaint of a reader that goes into a container, if it is too deep. -/
def depthFault (start depth : Nat) : Option Fault :=
  if depthLimit < depth then some (.placed .tooDeep (start + 1)) else none

mutual

/-- The first complaint of a reader that wants all of a value as it is. -/
def Node.fault? : Node → Option Fault
  | .absent fault => some fault
  | .scalar _ _ _ (.error fault) _ => some fault
  | .scalar _ _ _ (.ok _) _ => none
  | .list start depth items => (depthFault start depth).or items.fault?
  | .map start depth members => (depthFault start depth).or members.fault?

def Items.fault? : Items → Option Fault
  | .close _ => none
  | .broken why place => some (why.itemFault place)
  | .item value _ rest => value.fault?.or rest.fault?

def Members.fault? : Members → Option Fault
  | .close _ => none
  | .broken why place => some (why.memberFault place)
  | .unquoted place => some (.placed .keyNotString (place + 1))
  | .member (.error fault) _ _ _ _ _ _ => some fault
  | .member (.ok _) _ _ _ value _ rest => value.fault?.or rest.fault?

end

mutual

/-- What stops a reader that skips a value. -/
def Node.obstacle? : Node → Option Fault
  | .absent fault => some fault
  | .scalar _ _ _ _ obstacle => obstacle
  | .list _ _ items => items.obstacle?
  | .map _ _ members => members.obstacle?

def Items.obstacle? : Items → Option Fault
  | .close _ => none
  | .broken why place => some (why.skippedItemFault place)
  | .item value _ rest => value.obstacle?.or rest.obstacle?

def Members.obstacle? : Members → Option Fault
  | .close _ => none
  | .broken why place => some (why.skippedMemberFault place)
  | .unquoted place => some (.placed .keyNotString (place + 1))
  | .member _ obstacle _ _ value _ rest => obstacle.or (value.obstacle?.or rest.obstacle?)

end

end CloudSteward.Json
