import LevelGraph.Store.Handle
import LevelGraph.Store.Repository

/-!
# Connections

A connection leads to a store file or to a store that lives in memory only. What is changed
over a connection to a file is in the file at once, so whoever connects to it later finds it.

A connection remembers the objects that it has read, with the edition of the list that it has
read them from. A statement that names an object is first held against what is remembered. One
that is refused for what is missing is refused only after a look at the edition, one that
is refused for what is there is mostly refused at once. A statement that is let through reads
the store, and starts anew where the edition has changed. So a statement may be let through for
an object that the store has lost; then the store is found to contradict itself.
-/

namespace LevelGraph

/-- Where a connection leads. -/
inductive ConnectionTarget where
  /-- To a file. -/
  | file (handle : StoreHandle)
  /-- To a store in memory, perhaps for reading only. -/
  | memory (content : StoreContent) (readOnly : Bool)

/-- The objects of a store, as a connection remembers them. -/
structure KnownObjects where
  /-- The edition of the list of objects. -/
  edition : Nat
  /-- What stands under the name of the documents table. -/
  documents : Option DocumentsObject
  /-- What stands under the name of the index. -/
  index : Option IndexObject

/-- The objects that a content lists. -/
def StoreContent.objects (content : StoreContent) : KnownObjects :=
  ⟨content.edition, content.database.documents, content.database.index⟩

/-- A database as a statement sees it that goes by remembered objects. -/
def KnownObjects.view (known : KnownObjects) (db : Database) : Database :=
  { db with documents := known.documents, index := known.index }

/-- A content after a statement that was run on a view of it: only the objects that the
statement touched are other ones. -/
def StoreContent.changed (content : StoreContent) (known : KnownObjects) (db : Database) :
    StoreContent :=
  let documents :=
    if db.documents = known.documents then content.database.documents else db.documents
  let index := if db.index = known.index then content.database.index else db.index
  let steps := (if db.documents = known.documents then 0 else 1) +
    if db.index = known.index ∨ known.documents.isSome ∧ db.documents.isNone then 0 else 1
  { content with
    database := { db with documents := documents, index := index }
    edition := content.edition + steps
    room := if steps = 0 then content.room else some ampleRoom }

/-- A connection. -/
structure Connection where
  /-- Where it leads. -/
  target : ConnectionTarget
  /-- The objects that it remembers. -/
  known : Option KnownObjects
  /-- The number of the encoding of texts that it uses. -/
  encoding : Nat
  /-- Whether it has met an object, so that it stays with its encoding. -/
  settled : Bool
  /-- The name by which a new connection shares everything with this one. -/
  sharedAs : Option (String × String)
  /-- The name by which a new connection finds the store in memory. -/
  memoryName : Option String

/-- A connection that has read nothing yet and is shared with nobody. -/
def Connection.to (target : ConnectionTarget) : Connection := ⟨target, none, 1, false, none, none⟩

/-- Files with a connection. -/
structure Connections where
  /-- The files. -/
  tree : FileTree
  /-- The connection. -/
  current : Connection

/-- Something done over a connection. What a failure has changed stays changed. -/
abbrev ConnectionAction := ExceptT EngineFault (StateM Connections)

/-- A statement that changes objects or rows. -/
inductive StoreCommand where
  /-- Put a stub under the name of the documents table. -/
  | createDocuments (stub : DocumentsStub)
  /-- Put a table under the name of the index. -/
  | createIndexTable
  /-- Drop the documents table. -/
  | dropDocuments
  /-- Write a row. -/
  | writeRow (location : String) (row : Row)

namespace StoreCommand

/-- What a statement does to a database. -/
def statement : StoreCommand → Statement
  | createDocuments stub => fun db => db.createDocuments stub
  | createIndexTable => fun db => db.createIndexTable
  | dropDocuments => fun db => db.dropDocuments
  | writeRow location row => fun db => db.writeRow location row

/-- How many bytes a statement needs for what it lists, if it lists a new object. -/
def listing? : StoreCommand → Option Nat
  | createDocuments .view | createIndexTable => some 0
  | createDocuments .bareTable => some 131
  | dropDocuments | writeRow .. => none

/-- Whether a statement needs a new page. -/
def needsPage : StoreCommand → Bool
  | createDocuments .view | dropDocuments | writeRow .. => false
  | createDocuments .bareTable | createIndexTable => true

end StoreCommand

/-- Whether a statement that is refused for this reason might not be refused if the objects
were read again. -/
def EngineFault.isDoubtful : EngineFault → Bool
  | .noSuchTable _ | .noSuchColumn .. | .noColumnNamed .. => true
  | .alreadyExists .. | .indexNamed _ => true
  | _ => false

/-- Whether a content takes up new objects that need so many bytes, and perhaps pages. The bytes
are those of the shortest encoding, and the others need twice as many. -/
def StoreContent.takesUp (content : StoreContent) (bytes : Nat) (paged : Bool) : Bool :=
  let needed := if content.encoding % 4 ≤ 1 then bytes else 2 * bytes
  content.unlisted ≠ some .malformed && content.room.any (needed ≤ ·) &&
    !(paged && content.starved)

/-- What came of opening a store over a connection. -/
structure ConnectionOpening where
  /-- Whether it is open. -/
  result : Except StoreError Unit
  /-- The files and the connection afterwards. -/
  after : Connections
  /-- What is to be logged. -/
  events : List Event

namespace Connections

/-- A connection to a new store in memory. -/
def start (tree : FileTree) : Connections :=
  ⟨tree, Connection.to (.memory StoreContent.blank false)⟩

/-- Do something with the file of a connection. -/
def onFile {α : Type} (handle : StoreHandle) (action : StoreAction α) : ConnectionAction α := do
  let links ← get
  let (result, file) := action.run.run ⟨links.tree, handle⟩
  set { tree := file.tree, current := { links.current with target := .file file.handle } :
    Connections }
  result

/-- Read the store. -/
def read : ConnectionAction StoreContent := do
  match (← get).current.target with
  | .file handle => onFile handle StoreFile.read
  | .memory content _ => return content

/-- Read the store for a change. -/
def readForChange : ConnectionAction StoreContent := do
  match (← get).current.target with
  | .file handle => onFile handle StoreFile.readForChange
  | .memory content readOnly => if readOnly then throw .readOnly else return content

/-- Write the store. -/
def write (content : StoreContent) : ConnectionAction Unit := do
  match (← get).current.target with
  | .file handle => onFile handle (StoreFile.write content)
  | .memory _ readOnly =>
    modify fun links =>
      { links with current := { links.current with target := .memory content readOnly } }

/-- Give up a change that had begun to write. -/
def giveUp : ConnectionAction Unit := do
  if let .file handle := (← get).current.target then
    onFile handle (modify StoreFile.giveUp)

/-- Why the store cannot be written, if it cannot. -/
def lock (links : Connections) : Option EngineFault :=
  match links.current.target with
  | .file handle =>
    let file : StoreFile := ⟨links.tree, handle⟩
    if file.isReadOnly then some .readOnly else file.writeFault
  | .memory _ readOnly => if readOnly then some .readOnly else none

/-- Remember objects. -/
def remember (known : KnownObjects) : ConnectionAction Unit :=
  modify fun links => { links with current := { links.current with
    known := some known
    settled := links.current.settled || known.documents.isSome || known.index.isSome } }

/-- Use the encoding of a content, if it has one. -/
def adopt (content : StoreContent) : ConnectionAction Unit := do
  let connection := (← get).current
  let encoding := content.encoding % 4
  unless content.encoding = 0 do
    if connection.settled then
      if encoding ≠ connection.encoding then throw .otherEncoding
    else
      modify fun links =>
        { links with current := { connection with encoding := max encoding 1 } }

/-- Read the objects. -/
def learn : ConnectionAction KnownObjects := do
  modify fun links => { links with current := { links.current with known := none } }
  let content ← read
  adopt content
  if let some fault := content.unlisted then throw fault
  remember content.objects
  return content.objects

/-- The objects, read if they are not remembered. -/
def objects : ConnectionAction KnownObjects := do
  match (← get).current.known with
  | some known => return known
  | none => learn

/-- Read the store by a statement that asks for the list of objects. -/
def readListed : ConnectionAction StoreContent := do
  let known ← objects
  let content ← read
  unless content.edition = known.edition do discard learn
  let content ← read
  if content.unlisted = some .malformed then throw .malformed
  return content

/-- Whether the objects that are remembered are out of date, as far as can be seen. -/
def isOutdated (known : KnownObjects) : ConnectionAction Bool := do
  try
    return (← read).edition ≠ known.edition
  catch _ => return false

/-- Carry out a statement that has been let through, on the content that it changes. -/
def carryOut (command : StoreCommand) (known : KnownObjects) (content : StoreContent) :
    ConnectionAction Unit := do
  match command.listing? with
  | some bytes =>
    if let some fault := (← get).lock then throw fault
    unless content.takesUp bytes command.needsPage do
      giveUp
      throw .malformed
  | none => if content.database.documents ≠ known.documents then throw .malformed
  let db ← command.statement (known.view content.database)
  let after := content.changed known db
  write after
  remember ⟨after.edition, db.documents, db.index⟩

/-- Run a statement by the objects that are remembered; whether they were not out of date. -/
def attempt (command : StoreCommand) (known : KnownObjects) : ConnectionAction Bool := do
  match command.statement (known.view Database.fresh) with
  | .ok _ | .error .checkFailed =>
    let content ← readForChange
    if content.edition ≠ known.edition then return false
    carryOut command known content
    return true
  | .error fault =>
    if fault.isDoubtful then
      if ← isOutdated known then return false
    throw fault

/-- Run a statement. -/
def run (command : StoreCommand) : ConnectionAction Unit := do
  unless ← attempt command (← objects) do
    discard <| attempt command (← learn)

/-- The layout version. -/
def version : ConnectionAction Int := do return (← read).database.version

/-- Set the layout version. -/
def setVersion (version : Int) : ConnectionAction Unit := do
  let content ← readForChange
  write { content with database := content.database.setVersion version }

/-- The kinds and names of all objects in ascending order. -/
def listObjects : ConnectionAction (List String) := do return (← readListed).database.objects

/-- The repository of the connected database. -/
def repository (links : Connections) : Except RepositoryError Repository × Connections :=
  match read.run.run links with
  | (.error fault, after) => (.error (.store (.engine fault)), after)
  | (.ok content, after) =>
    if content.database.version ≠ latestVersion then
      (Repository.ofDatabase content.database, after)
    else
      match readListed.run.run after with
      | (.error fault, after) => (.error (.store (.engine fault)), after)
      | (.ok listed, after) => (Repository.ofDatabase listed.database, after)

/-- A content as a change finds it. -/
def forChange (links : Connections) (content : StoreContent) : StoreContent :=
  match links.current.target with
  | .file handle => StoreFile.forChange ⟨links.tree, handle⟩ content
  | .memory .. => content

/-- The objects that steps of the layout go by, given the content. -/
def objectsFor (content : StoreContent) : ConnectionAction KnownObjects := do
  let known ← objects
  if known.edition = content.edition then return known else learn

/-- The number of bytes that the objects of the layout need to be listed. -/
def layoutBytes : Nat := 223

/-- Bring the layout of the connected store up to date by the objects that are remembered, or
with no success where the objects cannot be read. -/
def migrateBy (links : Connections) (content : StoreContent)
    (objects : Except EngineFault KnownObjects) : Attempt × Connections :=
  match objects with
  | .error fault =>
    let bare := KnownObjects.view ⟨0, none, none⟩ content.database
    (bare.migrateUnder (some fault), links)
  | .ok known =>
    let fits := known.documents.isSome || content.takesUp layoutBytes true
    let fault := links.lock <|> if fits then none else some .malformed
    let attempt := (known.view content.database).migrateUnder fault
    match attempt.result with
    | .error _ =>
      if links.lock.isSome || known.documents.isSome then (attempt, links)
      else
        let links := (giveUp.run.run links).2
        let known := if fits then none else links.current.known
        (attempt, { links with current := { links.current with known := known } })
    | .ok () =>
      let change : ConnectionAction Unit := do
        let after := content.changed known attempt.after
        write after
        remember ⟨after.edition, attempt.after.documents, attempt.after.index⟩
      match change.run.run links with
      | (.ok (), after) => (attempt, after)
      | (.error fault, after) => (⟨.error (.engine fault), content.database, []⟩, after)

/-- Bring the layout of the connected store up to date. -/
def migrate (links : Connections) : ConnectionOpening :=
  match read.run.run links with
  | (.error fault, after) => ⟨.error (.engine fault), after, []⟩
  | (.ok content, after) =>
    if 0 ≤ content.database.version ∧ content.database.version < latestVersion then
      let content := after.forChange content
      let (objects, after) := (objectsFor content).run.run after
      let (attempt, after) := after.migrateBy content objects
      ⟨attempt.result, after, attempt.events⟩
    else
      let attempt := content.database.migrateUnder none
      ⟨attempt.result, after, attempt.events⟩

/-- What a program finds that connects and only reads. -/
def found (links : Connections) : Connected × Connections :=
  match read.run.run links with
  | (.error fault, after) => (.failing fault, after)
  | (.ok content, after) => (.database content.database after.lock, after)

end Connections

end LevelGraph
