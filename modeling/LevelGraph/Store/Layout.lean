import LevelGraph.Journal
import LevelGraph.Store.Database

/-!
# The layout of a store

A store's layout is brought up to date in numbered steps, each a script of statements.
All pending steps run in one transaction: if a statement fails, the database is what it
was before, also where earlier statements had succeeded. A store at the latest version
is left alone and not looked at; a newer one is refused.

There is one step so far. It makes the documents table unless something stands under
that name, then its index unless there is one, and sets the version. The index cannot
be made on a view, under the name of a table, or on a table without root types.

A database may be closed to writing: a lock says why. Then a statement that finds nothing to
do succeeds, one that would change something is refused as the lock says, and one that is
wrong in itself is refused for that reason.
-/

namespace LevelGraph

/-- Why a store cannot be used. -/
inductive StoreError where
  /-- The engine refuses. -/
  | engine (fault : EngineFault)
  /-- A newer program wrote the store. -/
  | unsupportedVersion (version latest : Nat)
  /-- A layout step failed. -/
  | migration (version : Nat) (name : String) (fault : EngineFault)
  deriving DecidableEq

/-- What is wrong, in words. -/
def StoreError.message : StoreError → String
  | .engine fault => fault.message
  | .unsupportedVersion version latest =>
    "document store version " ++ toString version ++ " is newer than supported " ++ toString latest
  | .migration version name fault =>
    "store migration " ++ toString version ++ " (" ++ name ++ ") failed: " ++ fault.message

/-- A change of a database that the engine may refuse. -/
abbrev Statement := Database → Except EngineFault Database

/-- A layout step. -/
structure Migration where
  /-- The version that the step leads to. -/
  version : Nat
  /-- The step's name. -/
  name : String
  /-- Its statements in order. -/
  script : List Statement

/-- Make the documents table where nothing has its name. -/
def createDocumentsTable : Statement := fun db =>
  match db.documents with
  | none => .ok { db with documents := some .table }
  | some _ => .ok db

/-- The statement that makes the index, as the engine echoes it. -/
def createIndexText : String :=
  "\n\nCREATE INDEX IF NOT EXISTS idx_documents_root_type ON documents(root_type);"

/-- Make the index on root types where there is none. -/
def createRootTypeIndex : Statement := fun db =>
  match db.documents with
  | none => .error (.noSuchTable "documents")
  | some .view => .error .viewNotIndexed
  | some object =>
    match db.index with
    | some .table => .error (.tableNamed "idx_documents_root_type")
    | some .index => .ok db
    | none =>
      if object = .table then .ok { db with index := some .index }
      else .error (.noSuchColumn "root_type" createIndexText)

/-- Record the version that a step led to. -/
def recordVersion (version : Nat) : Statement := fun db => .ok (db.setVersion version)

/-- All layout steps, in ascending order of version. -/
def migrations : List Migration :=
  [⟨1, "documents", [createDocumentsTable, createRootTypeIndex, recordVersion 1]⟩]

/-- The version that this program writes. -/
def latestVersion : Nat :=
  match migrations.getLast? with
  | some migration => migration.version
  | none => 0

/-- Run a statement on a database that may be closed to writing. -/
def runStatement (lock : Option EngineFault) (statement : Statement) : Statement := fun db =>
  match statement db with
  | .error fault => .error fault
  | .ok changed =>
    match lock with
    | none => .ok changed
    | some fault => if changed = db then .ok db else .error fault

/-- Run statements in order up to the first that is refused. -/
def runScript (lock : Option EngineFault) : List Statement → Statement
  | [], db => .ok db
  | statement :: rest, db =>
    match runStatement lock statement db with
    | .error fault => .error fault
    | .ok changed => runScript lock rest changed

/-- Run layout steps in order up to the first that fails. -/
def runMigrations (lock : Option EngineFault) :
    List Migration → Database → Except (Migration × EngineFault) Database
  | [], db => .ok db
  | migration :: rest, db =>
    match runScript lock migration.script db with
    | .error fault => .error (migration, fault)
    | .ok changed => runMigrations lock rest changed

/-- What came of an attempt on a database. -/
structure Attempt where
  /-- Whether it succeeded. -/
  result : Except StoreError Unit
  /-- The database afterwards. -/
  after : Database
  /-- What is to be logged. -/
  events : List Event

/-- Bring the layout of a database that may be closed to writing up to date, all pending
steps or none. -/
def Database.migrateUnder (lock : Option EngineFault) (db : Database) : Attempt :=
  match db.readVersion with
  | .error fault => ⟨.error (.engine fault), db, []⟩
  | .ok version =>
    if version > latestVersion then
      ⟨.error (.unsupportedVersion version latestVersion), db, []⟩
    else if version = latestVersion then ⟨.ok (), db, []⟩
    else
      match runMigrations lock (migrations.filter fun migration => migration.version > version)
          db with
      | .error (migration, fault) =>
        ⟨.error (.migration migration.version migration.name fault), db,
          [.migrationFailed migration.version migration.name fault.message]⟩
      | .ok changed => ⟨.ok (), changed, [.migrated version latestVersion]⟩

/-- Bring the layout up to date, all pending steps or none. -/
def Database.migrate (db : Database) : Attempt := db.migrateUnder none

/-- What a connection finds behind an address. -/
inductive Connected where
  /-- A database, perhaps a new one, and why it is closed to writing, if it is. -/
  | database (db : Database) (lock : Option EngineFault)
  /-- Something that cannot be read. -/
  | failing (fault : EngineFault)
  deriving DecidableEq

/-- Bring the layout of what was found up to date. -/
def Connected.migrate : Connected → Attempt
  | .database db lock => db.migrateUnder lock
  | .failing fault => ⟨.error (.engine fault), Database.fresh, []⟩

/-- What is to be logged of the opening of a store, given what came of bringing its layout up
to date. -/
def openingEvents (mode : String) (result : Except StoreError Unit) (events : List Event) :
    List Event :=
  .storeOpening mode :: (events ++
    [match result with
    | .ok () => .storeOpened mode
    | .error error => .storeOpenFailed mode "db_bootstrap_failed" error.message])

/-- What is to be logged of a store that cannot be connected to. -/
def unreachableEvents (mode : String) (fault : EngineFault) : List Event :=
  [.storeOpening mode, .storeOpenFailed mode "db_open_failed" fault.message]

/-- What came of opening a store. -/
structure Opening where
  /-- The open database, its layout up to date. -/
  result : Except StoreError Database
  /-- What is to be logged. -/
  events : List Event

/-- Open a store: connect, then bring the layout up to date. An opening that fails
changes nothing. -/
def openStore (mode : String) (connection : Except EngineFault Connected) : Opening :=
  match connection with
  | .error fault => ⟨.error (.engine fault), unreachableEvents mode fault⟩
  | .ok connected =>
    let attempt := connected.migrate
    let events := openingEvents mode attempt.result attempt.events
    match attempt.result with
    | .ok () => ⟨.ok attempt.after, events⟩
    | .error error => ⟨.error error, events⟩

/-- Open a store that lives in memory only. -/
def openMemoryStore : Opening := openStore "memory" (.ok (.database Database.fresh none))

end LevelGraph
