import LevelGraph.Record.Stored
import LevelGraph.Store.Layout
import LevelGraph.Text.Blank

/-!
# The repository of documents

A repository keeps one record per location in a database whose layout is current. A
location is used exactly as given; only a blank one is refused. Saving replaces what was
stored, loading reports a body that cannot be read instead of passing over it, and
listing is in ascending order. Some locations may be closed for saving.
-/

namespace LevelGraph

/-- Why a repository refuses. -/
inductive RepositoryError where
  /-- The store refuses. -/
  | store (error : StoreError)
  /-- The location is blank or closed. -/
  | invalidLocation (location : String)
  /-- A stored body is no record. -/
  | encoding (fault : Json.Fault)
  /-- The layout of the database is not the current one. -/
  | uninitialized (expected actual : Nat)
  /-- A table is missing. -/
  | missingTable (table : String)
  deriving DecidableEq

/-- What is wrong, in words. -/
def RepositoryError.message : RepositoryError → String
  | .store error => error.message
  | .invalidLocation location => "invalid document location `" ++ location ++ "`"
  | .encoding fault => "document body encoding failed: " ++ fault.message
  | .uninitialized expected actual =>
    "document repository requires store version " ++ toString expected ++ ", got " ++
      toString actual
  | .missingTable table => "document repository requires table `" ++ table ++ "`"

/-- A repository of documents. -/
structure Repository where
  /-- The database with the stored documents. -/
  database : Database
  /-- The locations that are closed for saving. -/
  closed : String → Bool

namespace Repository

/-- The repository of a database with the current layout, all locations open. -/
def ofDatabase (db : Database) : Except RepositoryError Repository :=
  match db.readVersion with
  | .error fault => .error (.store (.engine fault))
  | .ok version =>
    if version ≠ latestVersion then .error (.uninitialized latestVersion version)
    else
      match db.documents with
      | some .table | some .bareTable => .ok ⟨db, fun _ => false⟩
      | _ => .error (.missingTable "documents")

/-- The repository of a store that has been opened. -/
def ofOpening (opening : Opening) : Except RepositoryError Repository :=
  match opening.result with
  | .error error => .error (.store error)
  | .ok db => ofDatabase db

/-- The record stored at a location. -/
def load (repository : Repository) (location : String) :
    Except RepositoryError (Option NodeRecord) :=
  if Text.isBlankText location then .error (.invalidLocation location)
  else
    match repository.database.readBody location with
    | .error fault => .error (.store (.engine fault))
    | .ok none => .ok none
    | .ok (some body) =>
      match NodeRecord.ofStored body with
      | .error fault => .error (.encoding fault)
      | .ok record => .ok (some record)

/-- Store a record at a location. -/
def save (repository : Repository) (location : String) (record : NodeRecord) :
    Except RepositoryError Repository :=
  if repository.closed location ∨ Text.isBlankText location then .error (.invalidLocation location)
  else
    match repository.database.writeRow location ⟨record.typeName, .text record.stored⟩ with
    | .error fault => .error (.store (.engine fault))
    | .ok database => .ok { repository with database := database }

/-- Remove what is stored at a location; whether there was anything. -/
def delete (repository : Repository) (location : String) :
    Except RepositoryError (Bool × Repository) :=
  if Text.isBlankText location then .error (.invalidLocation location)
  else
    match repository.database.deleteRow location with
    | .error fault => .error (.store (.engine fault))
    | .ok (present, database) => .ok (present, { repository with database := database })

/-- The locations that have a stored document, in ascending order. -/
def locations (repository : Repository) : Except RepositoryError (List String) :=
  match repository.database.listLocations with
  | .error fault => .error (.store (.engine fault))
  | .ok locations => .ok locations

end Repository

end LevelGraph
