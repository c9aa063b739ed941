import LevelGraph.Json.Reader
import LevelGraph.Json.Writer
import LevelGraph.Record

/-!
# The stored text of a tree

A record is stored as a JSON object with the members `id`, `type`, `attributes`
and `children`, the last two only where they are not empty. Attributes and slots
are objects in ascending order of name. When a record is read, a name that occurs
twice keeps its last value.

`nesting` is the depth of brackets in the written text. The writer knows no limit,
the reader refuses more than `Json.maxDepth` open brackets.
-/

namespace LevelGraph

namespace NodeRecord

mutual

/-- The depth of brackets in the record's text. -/
def nesting : NodeRecord → Nat
  | ⟨_, _, attributes, slots⟩ =>
    1 + max (if attributes.isEmpty then 0 else 1) (if slots.isEmpty then 0 else 2 + slotsNesting slots)

/-- The greatest depth of a record in these slots. -/
def slotsNesting : List (String × List NodeRecord) → Nat
  | [] => 0
  | (_, items) :: rest => max (itemsNesting items) (slotsNesting rest)

/-- The greatest depth of a record in this slot. -/
def itemsNesting : List NodeRecord → Nat
  | [] => 0
  | record :: rest => max (nesting record) (itemsNesting rest)

end

/-- An identifier's text between quotes. -/
def writeId (id : Uuid) : List Char := Json.quoteThen id.chars []

/-- The members of a record, given the written members of its slots. -/
def writeFields (id : NodeId) (typeName : String) (attributes : Table String String)
    (slots : List (String × List Char)) : List Char :=
  Json.writeObject <|
    ("id", writeId id) :: ("type", Json.quote typeName) ::
      ((if attributes.isEmpty then []
        else [("attributes",
          Json.writeObject (attributes.entries.map fun entry => (entry.1, Json.quote entry.2)))]) ++
      (if slots.isEmpty then [] else [("children", Json.writeObject slots)]))

mutual

/-- The record's text. -/
def write : NodeRecord → List Char
  | ⟨id, typeName, attributes, slots⟩ => writeFields id typeName attributes (writeSlots slots)

/-- The text of every slot, with its name. -/
def writeSlots : List (String × List NodeRecord) → List (String × List Char)
  | [] => []
  | (name, items) :: rest => (name, Json.writeList (writeItems items)) :: writeSlots rest

/-- The text of every node of a slot. -/
def writeItems : List NodeRecord → List (List Char)
  | [] => []
  | record :: rest => write record :: writeItems rest

end

/-- The stored text of a record. -/
def stored (record : NodeRecord) : String := String.ofList record.write

/-- What has been read of a record so far. -/
structure Draft where
  /-- The identifier, once read. -/
  id : Option NodeId
  /-- The type name, once read. -/
  typeName : Option String
  /-- The attributes, once read. -/
  attributes : Option (Table String String)
  /-- The slots, once read. -/
  children : Option (List (String × List NodeRecord))

/-- A draft is complete once it has an identifier and a type. -/
def Draft.complete? (draft : Draft) : Option NodeRecord :=
  match draft.id, draft.typeName with
  | some id, some typeName =>
    some ⟨id, typeName, draft.attributes.getD Table.empty, draft.children.getD []⟩
  | _, _ => none

/-- The fields of a record that has opened its bracket, with the room left inside
and the reader for its child nodes. -/
def fields (room : Nat) (child : Json.Reader NodeRecord) : List (Json.Field Draft) :=
  [ { name := "id", required := true, taken := fun draft => draft.id.isSome,
      read := fun draft => Json.readInto (Json.readSpelled Uuid.ofString?) fun id =>
        { draft with id := some id } },
    { name := "type", required := true, taken := fun draft => draft.typeName.isSome,
      read := fun draft => Json.readInto Json.readString fun typeName =>
        { draft with typeName := some typeName } },
    { name := "attributes", required := false, taken := fun draft => draft.attributes.isSome,
      read := fun draft => Json.readInto (Json.readMap room Json.readString) fun members =>
        { draft with attributes := some (Table.ofList members) } },
    { name := "children", required := false, taken := fun draft => draft.children.isSome,
      read := fun draft => Json.readInto (Json.readMap room (Json.readList (room - 1) child)) fun members =>
        { draft with children := some (Entries.ofList members) } } ]

/-- A record, given the room for brackets and the reader for its child nodes. -/
def readWith (room : Nat) (child : Json.Reader NodeRecord) : Json.Reader NodeRecord :=
  Json.readStruct room false (fields (room - 1) child) ⟨none, none, none, none⟩ Draft.complete?

/-- A record, given the room for brackets. A child node stands three brackets
deeper than its parent; where those do not fit, none can be met. -/
def readRoom : Nat → Json.Reader NodeRecord
  | room + 3 => readWith (room + 3) (readRoom room)
  | room => readWith room fun _ => .error .malformed

/-- Read a stored text. -/
def ofStored (text : String) : Except Json.Fault NodeRecord := Json.read (readRoom Json.maxDepth) text

end NodeRecord

end LevelGraph
