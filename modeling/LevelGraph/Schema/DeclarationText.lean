import LevelGraph.Json.Reader
import LevelGraph.Json.Writer
import LevelGraph.Schema.Declaration

/-!
# The text of type declarations

A type collection is written as a JSON object with every member present, an absent
base as `null`. When it is read, the base, the attributes, the slots and the list
mark may be left out, unknown members are passed over, and every structure may also
be given as a list of its fields.
-/

namespace LevelGraph

namespace ChildDecl

/-- A slot's text. -/
def write (decl : ChildDecl) : List Char :=
  Json.writeObject [("name", Json.quote decl.name), ("type_name", Json.quote decl.typeName),
    ("is_list", Json.writeBool decl.isList)]

/-- What has been read of a slot so far. -/
structure Draft where
  /-- The name, once read. -/
  name : Option String
  /-- The type name, once read. -/
  typeName : Option String
  /-- The list mark, once read. -/
  isList : Option Bool

/-- A draft is complete once it has a name and a type; a slot holds one node unless marked. -/
def Draft.complete? (draft : Draft) : Option ChildDecl :=
  match draft.name, draft.typeName with
  | some name, some typeName => some ⟨name, typeName, draft.isList.getD false⟩
  | _, _ => none

/-- The fields of a slot. -/
def fields : List (Json.Field Draft) :=
  [ { name := "name", required := true, taken := fun draft => draft.name.isSome,
      read := fun draft => Json.readInto Json.readString fun name =>
        { draft with name := some name } },
    { name := "type_name", required := true, taken := fun draft => draft.typeName.isSome,
      read := fun draft => Json.readInto Json.readString fun typeName =>
        { draft with typeName := some typeName } },
    { name := "is_list", required := false, taken := fun draft => draft.isList.isSome,
      read := fun draft => Json.readInto Json.readBool fun isList =>
        { draft with isList := some isList } } ]

/-- Read a slot. -/
def reader (room : Nat) : Json.Reader ChildDecl :=
  Json.readStruct room false fields ⟨none, none, none⟩ Draft.complete?

end ChildDecl

namespace TypeDecl

/-- A type's text. -/
def write (decl : TypeDecl) : List Char :=
  Json.writeObject [("name", Json.quote decl.name), ("base", Json.writeOption Json.quote decl.base),
    ("attributes", Json.writeList (decl.attributes.map Json.quote)),
    ("children", Json.writeList (decl.children.map ChildDecl.write))]

/-- What has been read of a type so far. -/
structure Draft where
  /-- The name, once read. -/
  name : Option String
  /-- The base, once read. -/
  base : Option (Option String)
  /-- The attributes, once read. -/
  attributes : Option (List String)
  /-- The slots, once read. -/
  children : Option (List ChildDecl)

/-- A draft is complete once it has a name. -/
def Draft.complete? (draft : Draft) : Option TypeDecl :=
  match draft.name with
  | some name =>
    some ⟨name, draft.base.getD none, draft.attributes.getD [], draft.children.getD []⟩
  | none => none

/-- The fields of a type that has opened its bracket, with the room left inside. -/
def fields (room : Nat) : List (Json.Field Draft) :=
  [ { name := "name", required := true, taken := fun draft => draft.name.isSome,
      read := fun draft => Json.readInto Json.readString fun name =>
        { draft with name := some name } },
    { name := "base", required := false, taken := fun draft => draft.base.isSome,
      read := fun draft => Json.readInto (Json.readOption Json.readString) fun base =>
        { draft with base := some base } },
    { name := "attributes", required := false, taken := fun draft => draft.attributes.isSome,
      read := fun draft => Json.readInto (Json.readList room Json.readString) fun attributes =>
        { draft with attributes := some attributes } },
    { name := "children", required := false, taken := fun draft => draft.children.isSome,
      read := fun draft =>
        Json.readInto (Json.readList room (ChildDecl.reader (room - 1))) fun children =>
          { draft with children := some children } } ]

/-- Read a type. -/
def reader (room : Nat) : Json.Reader TypeDecl :=
  Json.readStruct room false (fields (room - 1)) ⟨none, none, none, none⟩ Draft.complete?

end TypeDecl

namespace TypeCollection

/-- A collection's text. -/
def write (collection : TypeCollection) : List Char :=
  Json.writeObject [("target_namespace", Json.quote collection.targetNamespace),
    ("types", Json.writeList (collection.types.map TypeDecl.write))]

/-- What has been read of a collection so far. -/
structure Draft where
  /-- The namespace, once read. -/
  targetNamespace : Option String
  /-- The types, once read. -/
  types : Option (List TypeDecl)

/-- A draft is complete once it has both its fields. -/
def Draft.complete? (draft : Draft) : Option TypeCollection :=
  match draft.targetNamespace, draft.types with
  | some targetNamespace, some types => some ⟨targetNamespace, types⟩
  | _, _ => none

/-- The fields of a collection that has opened its bracket, with the room left inside. -/
def fields (room : Nat) : List (Json.Field Draft) :=
  [ { name := "target_namespace", required := true,
      taken := fun draft => draft.targetNamespace.isSome,
      read := fun draft => Json.readInto Json.readString fun targetNamespace =>
        { draft with targetNamespace := some targetNamespace } },
    { name := "types", required := true, taken := fun draft => draft.types.isSome,
      read := fun draft =>
        Json.readInto (Json.readList room (TypeDecl.reader (room - 1))) fun types =>
          { draft with types := some types } } ]

/-- Read a collection. -/
def reader (room : Nat) : Json.Reader TypeCollection :=
  Json.readStruct room false (fields (room - 1)) ⟨none, none⟩ Draft.complete?

/-- The text of a collection. -/
def text (collection : TypeCollection) : String := String.ofList collection.write

/-- Read the text of a collection. -/
def ofText (text : String) : Except Json.Fault TypeCollection :=
  Json.read (reader Json.maxDepth) text

end TypeCollection

end LevelGraph
