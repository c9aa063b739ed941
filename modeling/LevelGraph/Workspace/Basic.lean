import LevelGraph.Document.Edit
import LevelGraph.Document.Persisted
import LevelGraph.Journal
import LevelGraph.Store.Repository

/-!
# The workspace of open documents

A workspace owns every open document of a session and the repository behind them. Open
documents lie in a table by identifier, and an index leads from a location to the one
document that is open there. A document that is opened or created gets a fresh
identifier from the workspace's supply, so an identifier is never used again after
its document was closed.

Saving is keyed by location: a document may be saved to its own location, which makes
it clean, or to another, which leaves it as it is. Closing a document leaves the targets
that name it where they are; they read as unresolved from then on.

Each operation yields its result, the workspace afterwards and the events to log.
-/

namespace LevelGraph

/-- A supply of identifiers, issued one after the other. -/
structure IdSupply where
  /-- The identifier issued at each turn. -/
  issue : Nat → Uuid
  /-- The number of identifiers issued so far. -/
  issued : Nat

namespace IdSupply

/-- The next identifier. -/
def next (supply : IdSupply) : Uuid := supply.issue supply.issued

/-- The supply after the next identifier was issued. -/
def advance (supply : IdSupply) : IdSupply := { supply with issued := supply.issued + 1 }

end IdSupply

/-- Why an operation on a workspace fails. -/
inductive WorkspaceError where
  /-- Nothing is stored at the location. -/
  | documentNotFound (location : String)
  /-- No document is open under the identifier. -/
  | documentNotOpen (document : DocumentId)
  /-- A document is open at the location already. -/
  | alreadyOpen (location : String)
  /-- The node is no cell reference. -/
  | notACellReference (reference : NodeRef)
  /-- The cell reference declares no location. -/
  | missingLocation (reference : NodeRef)
  /-- The referenced document is no cell document. -/
  | targetTypeMismatch (location found : String)
  /-- The tree refuses. -/
  | document (error : DocumentError)
  /-- The repository refuses. -/
  | repository (error : RepositoryError)
  deriving DecidableEq

/-- What is wrong, in words. -/
def WorkspaceError.message : WorkspaceError → String
  | .documentNotFound location => "document not found: " ++ location
  | .documentNotOpen id => "document is not open: " ++ id.text
  | .alreadyOpen location => "document already open: " ++ location
  | .notACellReference reference =>
    "node " ++ reference.node.text ++ " in document " ++ reference.document.text ++
      " is not a cell reference"
  | .missingLocation reference => "cell reference " ++ reference.node.text ++ " has no location"
  | .targetTypeMismatch location found =>
    "document `" ++ location ++ "` has root type `" ++ found ++
      "`, expected a placements document"
  | .document error => error.message
  | .repository error => error.message

/-- The open documents of a session. -/
structure Workspace where
  /-- The schema of all documents. -/
  schema : Schema
  /-- Where documents are stored. -/
  repository : Repository
  /-- The open documents. -/
  documents : Table DocumentId Document
  /-- The open document at each location. -/
  locations : Table String DocumentId
  /-- Where fresh identifiers come from. -/
  supply : IdSupply

/-- What came of an operation. -/
structure Outcome (α : Type) where
  /-- The operation's result. -/
  result : α
  /-- The workspace afterwards. -/
  after : Workspace
  /-- What is to be logged. -/
  events : List Event

namespace Workspace

/-- A workspace without open documents. -/
def start (schema : Schema) (repository : Repository) (supply : IdSupply) : Workspace :=
  ⟨schema, repository, Table.empty, Table.empty, supply⟩

/-- The number of open documents. -/
def size (ws : Workspace) : Nat := ws.documents.size

/-- The open document of an identifier. -/
def document? (ws : Workspace) (id : DocumentId) : Option Document := ws.documents.find? id

/-- The identifier of the document that is open at a location. -/
def documentAt? (ws : Workspace) (location : String) : Option DocumentId :=
  ws.locations.find? location

/-- The operation failed and changed nothing. -/
def fail {α : Type} (ws : Workspace) (error : WorkspaceError) : Outcome (Except WorkspaceError α) :=
  ⟨.error error, ws, []⟩

/-- The workspace with a document among the open ones. -/
def register (ws : Workspace) (doc : Document) : Workspace :=
  { ws with
    documents := ws.documents.insert doc.id doc
    locations := ws.locations.insert doc.location doc.id }

/-- Put an edited document in the place of the open one. -/
def replace (ws : Workspace) (id : DocumentId) (doc : Document) : Workspace :=
  { ws with documents := ws.documents.modify id fun _ => doc }

/-- Create a document with a fresh root at a location where none is open. -/
def create (ws : Workspace) (location : String) (rootType : TypeId) :
    Outcome (Except WorkspaceError DocumentId) :=
  if ws.locations.contains location then ws.fail (.alreadyOpen location)
  else
    let root := ws.supply.next
    let supply := ws.supply.advance
    let doc := Document.create supply.next root location rootType
    ⟨.ok doc.id, { ws with supply := supply.advance }.register doc, []⟩

/-- The document at a location: the open one, or the stored one opened. -/
def openAt (ws : Workspace) (location : String) : Outcome (Except WorkspaceError DocumentId) :=
  match ws.documentAt? location with
  | some id => ⟨.ok id, ws, []⟩
  | none =>
    match ws.repository.load location with
    | .error error => ws.fail (.repository error)
    | .ok none => ws.fail (.documentNotFound location)
    | .ok (some record) =>
      match Document.ofRecord ws.supply.next location record ws.schema with
      | .error error => ws.fail (.document error)
      | .ok doc =>
        ⟨.ok doc.id, { ws with supply := ws.supply.advance }.register doc,
          [.documentOpened location record.nodeCount]⟩

/-- Save an open document at a location, which becomes its key in the store as it is. -/
def saveTo (ws : Workspace) (id : DocumentId) (location : String) :
    Outcome (Except WorkspaceError Unit) :=
  match ws.document? id with
  | none => ws.fail (.documentNotOpen id)
  | some doc =>
    let record := doc.toRecord ws.schema
    match ws.repository.save location record with
    | .error error =>
      ⟨.error (.repository error), ws, [.documentSaveFailed location error.message]⟩
    | .ok repository =>
      let stored := { ws with repository := repository }
      let marked := if doc.location = location then stored.replace id doc.markClean else stored
      ⟨.ok (), marked, [.documentSaved location record.nodeCount]⟩

/-- Save an open document at its own location. -/
def save (ws : Workspace) (id : DocumentId) : Outcome (Except WorkspaceError Unit) :=
  match ws.document? id with
  | none => ws.fail (.documentNotOpen id)
  | some doc => ws.saveTo id doc.location

/-- Close a document and hand it out. -/
def close (ws : Workspace) (id : DocumentId) : Outcome (Option Document) :=
  match ws.document? id with
  | none => ⟨none, ws, []⟩
  | some doc =>
    ⟨some doc,
      { ws with
        documents := ws.documents.erase id
        locations := ws.locations.erase doc.location },
      [.documentClosed doc.location]⟩

end Workspace

end LevelGraph
