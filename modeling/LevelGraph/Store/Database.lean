import LevelGraph.Table
import LevelGraph.Text.Utf8

/-!
# The database behind a store

Of a database only those objects matter that a document store makes or stumbles over:
what stands under the name `documents`, what stands under the name of its index, the
layout version, and the rows by location. The version is a signed number that anyone
may set, so it can be negative or newer than this program.

A row is accepted when its location has a character left after spaces are stripped from
its ends, counted up to the first NUL. Only U+0020 is stripped, so a tab is a character.
-/

namespace LevelGraph

/-- What a column of a row holds in the place of a text. -/
inductive StoredBody where
  /-- A text. -/
  | text (content : String)
  /-- Bytes marked as no text. -/
  | blob
  /-- Bytes marked as a text that they do not spell. -/
  | illFormed (fault : Text.Utf8Fault)
  deriving DecidableEq

/-- Bytes marked as a text. -/
def StoredBody.ofBytes (bytes : List UInt8) : StoredBody :=
  match Text.decodeUtf8 bytes with
  | .ok content => .text content
  | .error fault => .illFormed fault

/-- A row of the documents table. -/
structure Row where
  /-- The type of the document's root. -/
  rootType : String
  /-- The document's tree. -/
  body : StoredBody
  deriving DecidableEq

/-- What stands under the name of the documents table. -/
inductive DocumentsObject where
  /-- The table that a layout step makes, with all its columns and its check on locations. -/
  | table
  /-- A table with the location as its only column. -/
  | bareTable
  /-- A view. -/
  | view
  deriving DecidableEq

/-- The kind of an object, in a word. -/
def DocumentsObject.kind : DocumentsObject → String
  | .table | .bareTable => "table"
  | .view => "view"

/-- What a statement of somebody else puts under the name of the documents table. -/
inductive DocumentsStub where
  /-- A table with the location as its only column. -/
  | bareTable
  /-- A view. -/
  | view
  deriving DecidableEq

namespace DocumentsStub

/-- The object that then stands under the name. -/
def object : DocumentsStub → DocumentsObject
  | bareTable => .bareTable
  | view => .view

/-- The statement that makes a stub. -/
def statement : DocumentsStub → String
  | bareTable => "CREATE TABLE documents (uri TEXT PRIMARY KEY);"
  | view => "CREATE VIEW documents AS SELECT 1 AS uri;"

/-- Where the name stands in the statement that makes a stub. -/
def nameOffset : DocumentsStub → Nat
  | bareTable => 13
  | view => 12

end DocumentsStub

/-- What stands under the name of the index on root types. -/
inductive IndexObject where
  /-- The index. -/
  | index
  /-- A table. -/
  | table
  deriving DecidableEq

/-- A database. -/
structure Database where
  /-- The layout version. -/
  version : Int
  /-- What stands under the name of the documents table. -/
  documents : Option DocumentsObject
  /-- What stands under the name of the index. -/
  index : Option IndexObject
  /-- The rows of the documents table by location. -/
  rows : Table String Row
  deriving DecidableEq

/-- Why the database engine refuses a statement. -/
inductive EngineFault where
  /-- The file cannot be opened or created. -/
  | cannotOpen (path : String)
  /-- The path holds a NUL at this byte. -/
  | nulInPath (position : Nat)
  /-- An address names a machine other than the local one. -/
  | invalidAuthority (machine : String)
  /-- An option of an address asks for an unknown mode. -/
  | noSuchMode (kind mode : String)
  /-- An option of an address asks for more than an earlier one left. -/
  | modeNotAllowed (kind mode : String)
  /-- An address names an unknown layer for files. -/
  | noSuchLayer (layer : String)
  /-- What lies at the path cannot be read from. -/
  | unreadable
  /-- The database is open for reading only. -/
  | readOnly
  /-- A file beside the store cannot be made or opened. -/
  | noSideFile
  /-- Somebody else has the store. -/
  | locked
  /-- The store contradicts itself. -/
  | malformed
  /-- The store is of a later format. -/
  | unsupportedFormat
  /-- The store has another encoding of texts than its connection. -/
  | otherEncoding
  /-- The file is something else. -/
  | notADatabase
  /-- A number is no unsigned 32-bit number. -/
  | outOfRange (number : Int)
  /-- A statement, shown with what follows it, names a missing column. -/
  | noSuchColumn (column statement : String)
  /-- There is no table of the name. -/
  | noSuchTable (table : String)
  /-- A statement, shown with the place of the name in it, makes what is there already. -/
  | alreadyExists (kind name statement : String) (offset : Nat)
  /-- The name of a table is taken by an index. -/
  | indexNamed (name : String)
  /-- A view is dropped as if it were a table. -/
  | dropsView (view : String)
  /-- A table lacks a column that is written. -/
  | noColumnNamed (table column : String)
  /-- A view is written to. -/
  | viewNotWritable (view : String)
  /-- An index on a view. -/
  | viewNotIndexed
  /-- The name of an index is taken by a table. -/
  | tableNamed (name : String)
  /-- A row breaks the check on locations. -/
  | checkFailed
  /-- A body is marked as no text. -/
  | blobBody
  /-- A body does not spell a text. -/
  | illFormedBody (fault : Text.Utf8Fault)
  deriving DecidableEq

/-- What is wrong, in words. -/
def EngineFault.message : EngineFault → String
  | .cannotOpen path => "unable to open database file: " ++ path
  | .nulInPath position => "nul byte found in provided data at position: " ++ toString position
  | .invalidAuthority machine => "invalid uri authority: " ++ machine
  | .noSuchMode kind mode => "no such " ++ kind ++ " mode: " ++ mode
  | .modeNotAllowed kind mode => kind ++ " mode not allowed: " ++ mode
  | .noSuchLayer layer => "no such vfs: " ++ layer
  | .unreadable => "disk I/O error"
  | .readOnly => "attempt to write a readonly database"
  | .noSideFile => "unable to open database file"
  | .locked => "database is locked"
  | .malformed => "database disk image is malformed"
  | .unsupportedFormat => "unsupported file format"
  | .otherEncoding => "attached databases must use the same text encoding as main database"
  | .notADatabase => "file is not a database"
  | .outOfRange number => "Integer " ++ toString number ++ " out of range at index 0"
  | .noSuchColumn column statement => "no such column: " ++ column ++ " in " ++ statement
  | .noSuchTable table => "no such table: " ++ table
  | .alreadyExists kind name statement offset =>
    kind ++ " " ++ name ++ " already exists in " ++ statement ++ " at offset " ++ toString offset
  | .indexNamed name => "there is already an index named " ++ name
  | .dropsView view => "use DROP VIEW to delete view " ++ view
  | .noColumnNamed table column => "table " ++ table ++ " has no column named " ++ column
  | .viewNotWritable view => "cannot modify " ++ view ++ " because it is a view"
  | .viewNotIndexed => "views may not be indexed"
  | .tableNamed name => "there is already a table named " ++ name
  | .checkFailed => "CHECK constraint failed: length(trim(uri)) > 0"
  | .blobBody => "Invalid column type Blob at index: 0, name: body"
  | .illFormedBody fault => "Conversion error from type Text at index: 0, " ++ fault.message

namespace Database

/-- A database that nobody has used. -/
def fresh : Database := ⟨0, none, none, Table.empty⟩

instance : Inhabited Database := ⟨fresh⟩

/-- Whether the check on locations lets a location through. -/
def accepts (location : String) : Bool :=
  match location.toList.dropWhile (· == ' ') with
  | [] => false
  | char :: _ => char != '\x00'

/-- The layout version as an unsigned number. -/
def readVersion (db : Database) : Except EngineFault Nat :=
  if 0 ≤ db.version then .ok db.version.toNat else .error (.outOfRange db.version)

/-- The kinds and names of all objects in ascending order. -/
def objects (db : Database) : List String :=
  (match db.index with
    | some .index => ["index idx_documents_root_type"]
    | _ => []) ++
  (match db.documents with
    | some .table | some .bareTable => ["index sqlite_autoindex_documents_1", "table documents"]
    | _ => []) ++
  (match db.index with
    | some .table => ["table idx_documents_root_type"]
    | _ => []) ++
  (match db.documents with
    | some .view => ["view documents"]
    | _ => [])

/-- Set the layout version. A number that does not fit thirty-two bits with a sign counts
as zero. -/
def setVersion (db : Database) (version : Int) : Database :=
  { db with version := if -0x80000000 ≤ version ∧ version < 0x80000000 then version else 0 }

/-- Put a stub under the name of the documents table, where nothing may stand yet. -/
def createDocuments (db : Database) (stub : DocumentsStub) : Except EngineFault Database :=
  match db.documents with
  | none => .ok { db with documents := some stub.object }
  | some present =>
    .error (.alreadyExists present.kind "documents" stub.statement stub.nameOffset)

/-- The statement that makes a table under the name of the index. -/
def createIndexTableText : String := "CREATE TABLE idx_documents_root_type (x);"

/-- Put a table under the name of the index, where nothing may stand yet. -/
def createIndexTable (db : Database) : Except EngineFault Database :=
  match db.index with
  | none => .ok { db with index := some .table }
  | some .index => .error (.indexNamed "idx_documents_root_type")
  | some .table =>
    .error (.alreadyExists "table" "idx_documents_root_type" createIndexTableText 13)

/-- Drop the documents table with its rows and its index. -/
def dropDocuments (db : Database) : Except EngineFault Database :=
  match db.documents with
  | some .table | some .bareTable =>
    .ok { db with
      documents := none
      index := if db.index = some .index then none else db.index
      rows := Table.empty }
  | some .view => .error (.dropsView "documents")
  | none => .error (.noSuchTable "documents")

/-- Write a row, in the place of any row at its location. -/
def writeRow (db : Database) (location : String) (row : Row) : Except EngineFault Database :=
  match db.documents with
  | some .table =>
    if accepts location then .ok { db with rows := db.rows.insert location row }
    else .error .checkFailed
  | some .bareTable => .error (.noColumnNamed "documents" "root_type")
  | some .view => .error (.viewNotWritable "documents")
  | none => .error (.noSuchTable "documents")

/-- The body of the row at a location. -/
def readBody (db : Database) (location : String) : Except EngineFault (Option String) :=
  match db.documents with
  | some .table =>
    match db.rows.find? location with
    | none => .ok none
    | some row =>
      match row.body with
      | .text content => .ok (some content)
      | .blob => .error .blobBody
      | .illFormed fault => .error (.illFormedBody fault)
  | some .bareTable | some .view => .error (.noSuchColumn "body" "SELECT body")
  | none => .error (.noSuchTable "documents")

/-- Remove the row at a location; whether there was one. -/
def deleteRow (db : Database) (location : String) : Except EngineFault (Bool × Database) :=
  match db.documents with
  | some .view => .error (.viewNotWritable "documents")
  | some _ => .ok (db.rows.contains location, { db with rows := db.rows.erase location })
  | none => .error (.noSuchTable "documents")

/-- The locations of all rows in ascending order. -/
def listLocations (db : Database) : Except EngineFault (List String) :=
  match db.documents with
  | some _ => .ok db.rows.keys
  | none => .error (.noSuchTable "documents")

end Database

end LevelGraph
