import LevelGraph.Document.View
import LevelGraph.Workspace.Basic

/-!
# Resolving cell references

A cell reference is resolved when it holds a target whose document is open. Resolving
one that is resolved changes nothing. Resolving another one opens the document at its
declared location where that is needed, and refuses a document whose root is no cell
document; a document that was opened only for this is then closed again.

For an arbitrary node, `targetNode` is the root of the document that the node stands for,
or the node itself where it stands for none.
-/

namespace LevelGraph

namespace Workspace

/-- The open document that a reference stands for. -/
def liveTarget? (ws : Workspace) (reference : NodeRef) : Option DocumentId :=
  ((ws.document? reference.document).bind fun doc => doc.target? reference.node).filter
    fun target => ws.documents.contains target

/-- The location that a cell reference declares. -/
def declaredLocation (ws : Workspace) (reference : NodeRef) : Except WorkspaceError String :=
  match ws.document? reference.document with
  | none => .error (.documentNotOpen reference.document)
  | some doc =>
    match doc.cellReference? ws.schema reference.node with
    | none => .error (.notACellReference reference)
    | some cell =>
      match cell.location with
      | none => .error (.missingLocation reference)
      | some location =>
        if Text.isBlankText location then .error (.missingLocation reference) else .ok location

/-- The type of an open document's root. -/
def rootType? (ws : Workspace) (id : DocumentId) : Option TypeId :=
  (ws.document? id).bind (·.rootType?)

/-- Whether an open document's root is a cell document. -/
def isCellDocument (ws : Workspace) (id : DocumentId) : Bool :=
  match ws.rootType? id with
  | some type => ws.schema.isAssignableFrom ws.schema.tags.placementsDocument type
  | none => false

/-- The name of the type of an open document's root. -/
def rootTypeName (ws : Workspace) (id : DocumentId) : String :=
  match ws.rootType? id with
  | some type => ws.schema.typeName type
  | none => "<unknown>"

/-- Give a reference its target. -/
def link (ws : Workspace) (reference : NodeRef) (target : DocumentId) :
    Except WorkspaceError Workspace :=
  match ws.document? reference.document with
  | none => .error (.documentNotOpen reference.document)
  | some doc =>
    match doc.setTarget reference.node target with
    | .error error => .error (.document error)
    | .ok linked => .ok (ws.replace reference.document linked)

/-- Resolve a cell reference whose document is at a location, opening it if needed. -/
def resolveAt (ws : Workspace) (reference : NodeRef) (location : String) :
    Outcome (Except WorkspaceError DocumentId) :=
  let opening := ws.openAt location
  match opening.result with
  | .error error => ⟨.error error, opening.after, opening.events⟩
  | .ok target =>
    if opening.after.isCellDocument target then
      match opening.after.link reference target with
      | .error error => ⟨.error error, opening.after, opening.events⟩
      | .ok linked => ⟨.ok target, linked, opening.events ++ [.cellResolved location]⟩
    else
      let mismatch := WorkspaceError.targetTypeMismatch location (opening.after.rootTypeName target)
      if (ws.documentAt? location).isSome then ⟨.error mismatch, opening.after, opening.events⟩
      else
        let closing := opening.after.close target
        ⟨.error mismatch, closing.after, opening.events ++ closing.events⟩

/-- Resolve a cell reference. -/
def resolve (ws : Workspace) (reference : NodeRef) : Outcome (Except WorkspaceError DocumentId) :=
  match ws.liveTarget? reference with
  | some target => ⟨.ok target, ws, []⟩
  | none =>
    match ws.declaredLocation reference with
    | .error error => ws.fail error
    | .ok location => ws.resolveAt reference location

/-- Whether a node is a cell reference of an open document. -/
def isCellReference (ws : Workspace) (reference : NodeRef) : Bool :=
  match ws.document? reference.document with
  | some doc => (doc.cellReference? ws.schema reference.node).isSome
  | none => false

/-- The root of the document that a node stands for, else the node. -/
def targetNode (ws : Workspace) (reference : NodeRef) : NodeRef :=
  if ws.isCellReference reference then
    match (ws.liveTarget? reference).bind ws.document? with
    | some doc => ⟨doc.id, doc.root⟩
    | none => reference
  else reference

end Workspace

end LevelGraph
