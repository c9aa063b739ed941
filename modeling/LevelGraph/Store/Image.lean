import LevelGraph.Json.Reader
import LevelGraph.Json.Writer
import LevelGraph.Store.Layout

/-!
# The image of a store

A store with the current layout whose bodies are all texts can be kept as one text, its
image: a JSON list of the rows in ascending order of location. Any other text is no
image.
-/

namespace LevelGraph

/-- A row with its location, all in texts. -/
structure ImageRow where
  /-- The location. -/
  location : String
  /-- The type of the document's root. -/
  rootType : String
  /-- The document's tree. -/
  body : String
  deriving DecidableEq

namespace ImageRow

/-- The row of a location, if its body is a text. -/
def ofRow? (location : String) (row : Row) : Option ImageRow :=
  match row.body with
  | .text content => some ⟨location, row.rootType, content⟩
  | .blob | .illFormed _ => none

/-- The row as it is stored. -/
def row (image : ImageRow) : Row := ⟨image.rootType, .text image.body⟩

/-- The row's text. -/
def write (image : ImageRow) : List Char :=
  Json.writeObject [("uri", Json.quote image.location), ("root_type", Json.quote image.rootType),
    ("body", Json.quote image.body)]

/-- What has been read of a row so far. -/
structure Draft where
  /-- The location, once read. -/
  location : Option String
  /-- The type, once read. -/
  rootType : Option String
  /-- The body, once read. -/
  body : Option String

/-- A draft is complete once it has everything. -/
def Draft.complete? (draft : Draft) : Option ImageRow :=
  match draft.location, draft.rootType, draft.body with
  | some location, some rootType, some body => some ⟨location, rootType, body⟩
  | _, _, _ => none

/-- The fields of a row. -/
def fields : List (Json.Field Draft) :=
  [ { name := "uri", required := true, taken := fun draft => draft.location.isSome,
      read := fun draft => Json.readInto Json.readString fun location =>
        { draft with location := some location } },
    { name := "root_type", required := true, taken := fun draft => draft.rootType.isSome,
      read := fun draft => Json.readInto Json.readString fun rootType =>
        { draft with rootType := some rootType } },
    { name := "body", required := true, taken := fun draft => draft.body.isSome,
      read := fun draft => Json.readInto Json.readString fun body =>
        { draft with body := some body } } ]

/-- Read a row. -/
def reader (room : Nat) : Json.Reader ImageRow :=
  Json.readStruct room true fields ⟨none, none, none⟩ Draft.complete?

end ImageRow

namespace Database

/-- The image of a store that has one. -/
def image? (db : Database) : Option String :=
  if db.version = latestVersion ∧ db.documents = some .table ∧ db.index = some .index then
    (db.rows.entries.mapM fun entry => ImageRow.ofRow? entry.1 entry.2).map fun rows =>
      String.ofList (Json.writeList (rows.map ImageRow.write))
  else none

/-- The store of an image. -/
def ofImage (text : String) : Except Json.Fault Database :=
  match Json.read (Json.readList Json.maxDepth (ImageRow.reader (Json.maxDepth - 1))) text with
  | .error fault => .error fault
  | .ok rows =>
    .ok ⟨latestVersion, some .table, some .index,
      Table.ofList (rows.map fun image => (image.location, image.row))⟩

end Database

end LevelGraph
