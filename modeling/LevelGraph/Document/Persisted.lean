import LevelGraph.Document.Basic

/-!
# Documents and their persisted form

`toRecord` gathers a document's tree into a record, leaving out slots without nodes.
`ofRecord` lays a record out as the nodes of a clean document without targets. It visits
a node before its children, the slots of a node from the last name to the first and the
nodes of a slot from last to first, and reports the first fault it meets: a node whose
identifier was seen before, else a node whose type is not declared.

Gathering goes down at most as many levels as there are nodes. A tree is never deeper,
so nothing is cut off.
-/

namespace LevelGraph

namespace Document

/-- The slots that hold nodes, given how a node is gathered. -/
def gatherSlots? (gather? : NodeId → Option NodeRecord) :
    List (String × List NodeId) → Option (List (String × List NodeRecord))
  | [] => some []
  | (_, []) :: rest => gatherSlots? gather? rest
  | (name, id :: ids) :: rest =>
    match (id :: ids).mapM gather?, gatherSlots? gather? rest with
    | some items, some slots => some ((name, items) :: slots)
    | _, _ => none

/-- A node with all that is below it, down to so many levels. -/
def gather? (schema : Schema) (nodes : Table NodeId Node) : Nat → NodeId → Option NodeRecord
  | 0, _ => none
  | levels + 1, id =>
    match nodes.find? id with
    | none => none
    | some node =>
      match gatherSlots? (gather? schema nodes levels) node.children.entries with
      | none => none
      | some slots => some ⟨id, schema.typeName node.type, node.attributes, slots⟩

/-- The persisted form of the whole tree, if it hangs together. -/
def record? (doc : Document) (schema : Schema) : Option NodeRecord :=
  gather? schema doc.nodes doc.size doc.root

/-- The persisted form of the whole tree. -/
def toRecord (doc : Document) (schema : Schema) : NodeRecord := (doc.record? schema).getD default

/-- The identifiers of a record's slots. -/
def slotIds (slots : List (String × List NodeRecord)) : Table String (List NodeId) :=
  Table.ofList (slots.map fun entry => (entry.1, entry.2.map (·.id)))

mutual

/-- Lay out a record and all below it among the nodes already laid out. -/
def layOut (schema : Schema) (parent : Option NodeId) :
    NodeRecord → Table NodeId Node → Except DocumentError (Table NodeId Node)
  | ⟨id, typeName, attributes, slots⟩, nodes =>
    if nodes.contains id then .error (.duplicateNodeId id)
    else
      match schema.typeId? typeName with
      | none => .error (.unknownType typeName)
      | some type =>
        layOutSlots schema id slots (nodes.insert id ⟨type, parent, attributes, slotIds slots⟩)

/-- Lay out slots, the last one first. -/
def layOutSlots (schema : Schema) (parent : NodeId) :
    List (String × List NodeRecord) → Table NodeId Node →
      Except DocumentError (Table NodeId Node)
  | [], nodes => .ok nodes
  | (_, items) :: rest, nodes =>
    match layOutSlots schema parent rest nodes with
    | .error error => .error error
    | .ok nodes => layOutItems schema parent items nodes

/-- Lay out the nodes of a slot, the last one first. -/
def layOutItems (schema : Schema) (parent : NodeId) :
    List NodeRecord → Table NodeId Node → Except DocumentError (Table NodeId Node)
  | [], nodes => .ok nodes
  | record :: rest, nodes =>
    match layOutItems schema parent rest nodes with
    | .error error => .error error
    | .ok nodes => layOut schema (some parent) record nodes

end

/-- The document that a record describes. -/
def ofRecord (id : DocumentId) (location : String) (record : NodeRecord) (schema : Schema) :
    Except DocumentError Document :=
  match layOut schema none record Table.empty with
  | .error error => .error error
  | .ok nodes => .ok ⟨id, location, record.id, nodes, Table.empty, false⟩

end Document

end LevelGraph
