import LevelGraph.Record
import LevelGraph.Schema.Basic

/-!
# Open documents

A document is a tree of typed nodes at a location. The nodes lie in a table by
identifier; a node knows its parent, its attributes and its child slots, and a slot
lists its nodes in order of insertion, also when it has become empty. A reference
node may hold the identifier of the document it stands for, its target. A target is
a mere identifier and says nothing about whether that document is still open.

A document is dirty when its tree may differ from what is stored.
-/

namespace LevelGraph

/-- One node of an open document. -/
structure Node where
  /-- The node's type. -/
  type : TypeId
  /-- The node that has this one in a slot; none for the root. -/
  parent : Option NodeId
  /-- The node's attributes. -/
  attributes : Table String String
  /-- The node's child slots, each with its nodes in order. -/
  children : Table String (List NodeId)
  deriving DecidableEq

namespace Node

/-- A node without attributes and children. -/
def bare (type : TypeId) (parent : Option NodeId) : Node := ⟨type, parent, Table.empty, Table.empty⟩

/-- The nodes of one slot; none when the slot was never used. -/
def slot (node : Node) (name : String) : List NodeId := (node.children.find? name).getD []

/-- The nodes of all slots. -/
def childIds (node : Node) : List NodeId := node.children.entries.flatMap (·.2)

end Node

/-- An open document. -/
structure Document where
  /-- The document's identifier while it is open. -/
  id : DocumentId
  /-- Where the document is stored. -/
  location : String
  /-- The root node. -/
  root : NodeId
  /-- Every node of the tree. -/
  nodes : Table NodeId Node
  /-- The documents that reference nodes stand for. -/
  targets : Table NodeId DocumentId
  /-- Whether the tree may differ from what is stored. -/
  dirty : Bool
  deriving DecidableEq

/-- A node, addressed across documents. -/
structure NodeRef where
  /-- The document. -/
  document : DocumentId
  /-- The node in it. -/
  node : NodeId
  deriving DecidableEq

/-- Why a tree operation is refused. -/
inductive DocumentError where
  /-- The document has no such node. -/
  | nodeNotFound (node : NodeId)
  /-- A persisted node has a type that the schema does not declare. -/
  | unknownType (name : String)
  /-- Two persisted nodes have one identifier. -/
  | duplicateNodeId (node : NodeId)
  /-- The root stays where it is. -/
  | cannotRemoveRoot (node : NodeId)
  deriving DecidableEq

/-- What is wrong, in words. -/
def DocumentError.message : DocumentError → String
  | .nodeNotFound node => "node not found in document: " ++ node.text
  | .unknownType name => "unknown node type `" ++ name ++ "`"
  | .duplicateNodeId node => "node id appears more than once: " ++ node.text
  | .cannotRemoveRoot node => "document root cannot be removed: " ++ node.text

namespace Document

/-- A new document with a root and nothing else, not yet stored. -/
def create (id : DocumentId) (root : NodeId) (location : String) (rootType : TypeId) : Document :=
  ⟨id, location, root, Table.empty.insert root (Node.bare rootType none), Table.empty, true⟩

/-- The number of nodes. -/
def size (doc : Document) : Nat := doc.nodes.size

/-- A node of the document. -/
def node? (doc : Document) (id : NodeId) : Option Node := doc.nodes.find? id

/-- Whether a node belongs to the document. -/
def contains (doc : Document) (id : NodeId) : Bool := (doc.node? id).isSome

/-- The type of the root. -/
def rootType? (doc : Document) : Option TypeId := (doc.node? doc.root).map (·.type)

/-- The nodes of a slot in order; none for a node that is not there. -/
def children (doc : Document) (parent : NodeId) (slot : String) : List NodeId :=
  match doc.node? parent with
  | some node => node.slot slot
  | none => []

/-- An attribute of a node. -/
def attribute? (doc : Document) (id : NodeId) (name : String) : Option String :=
  (doc.node? id).bind fun node => node.attributes.find? name

/-- The document that a node stands for, open or not. -/
def target? (doc : Document) (id : NodeId) : Option DocumentId := doc.targets.find? id

end Document

end LevelGraph
