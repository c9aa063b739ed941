import LevelGraph.Document.Basic
import LevelGraph.Reorder

/-!
# Edits of a document

An edit yields the changed document, or nothing where it does not apply, so an edit
that fails leaves no trace. Every edit of the tree marks the document dirty; setting a
target does not, because targets are not stored.

A removal takes a node out of its slot and drops it with all that is below it,
together with the targets that the dropped nodes held. Dropping works through a list
of pending nodes, the children of a dropped node being put in front of those still
waiting. The waiting nodes and the child entries still in the tree get fewer with
every step.
-/

namespace LevelGraph

namespace Document

/-- The document as it is once stored. -/
def markClean (doc : Document) : Document := { doc with dirty := false }

/-- Set an attribute of a node. -/
def setAttribute (doc : Document) (id : NodeId) (name value : String) :
    Except DocumentError Document :=
  match doc.node? id with
  | none => .error (.nodeNotFound id)
  | some node =>
    .ok { doc with
      nodes := doc.nodes.insert id { node with attributes := node.attributes.insert name value }
      dirty := true }

/-- Append a new node to a slot of a parent. -/
def append (doc : Document) (parent : NodeId) (slot : String) (type : TypeId) (fresh : NodeId) :
    Except DocumentError Document :=
  match doc.node? parent with
  | none => .error (.nodeNotFound parent)
  | some node =>
    let extended :=
      { node with children := node.children.insert slot (node.slot slot ++ [fresh]) }
    .ok { doc with
      nodes := (doc.nodes.insert parent extended).insert fresh (Node.bare type (some parent))
      dirty := true }

/-- The number of entries in the slots of all nodes. -/
def childEntries : List (NodeId × Node) → Nat
  | [] => 0
  | (_, node) :: rest => node.childIds.length + childEntries rest

/-- A removal adds no entries. -/
theorem childEntries_erase_le (entries : List (NodeId × Node)) (id : NodeId) :
    childEntries (Entries.erase id entries) ≤ childEntries entries := by
  induction entries with
  | nil => exact Nat.le_refl _
  | cons entry rest inductionHypothesis =>
    obtain ⟨other, node⟩ := entry
    simp only [Entries.erase] at inductionHypothesis
    simp only [Entries.erase, List.filter_cons]
    split <;> simp only [childEntries] <;> omega

/-- A node taken out takes its entries with it. -/
theorem childEntries_erase_add_le {entries : List (NodeId × Node)} {id : NodeId} {node : Node}
    (found : Entries.find? id entries = some node) :
    childEntries (Entries.erase id entries) + node.childIds.length ≤ childEntries entries := by
  induction entries with
  | nil => cases found
  | cons entry rest inductionHypothesis =>
    obtain ⟨other, held⟩ := entry
    by_cases same : other = id
    · simp only [Entries.find?, same, if_true, Option.some.injEq] at found
      subst found
      have fewer := childEntries_erase_le rest id
      simp only [Entries.erase] at fewer
      simp only [Entries.erase, List.filter_cons, same, ne_eq, not_true_eq_false, decide_false,
        Bool.false_eq_true, if_false, childEntries] at fewer ⊢
      omega
    · simp only [Entries.find?, same, if_false] at found
      have fewer := inductionHypothesis found
      simp only [Entries.erase] at fewer
      simp only [Entries.erase, List.filter_cons, same, ne_eq, not_false_eq_true, decide_true,
        if_true, childEntries] at fewer ⊢
      omega

/-- Drop nodes with all that is below them and with their targets. -/
def dropSubtrees (nodes : Table NodeId Node) (targets : Table NodeId DocumentId)
    (pending : List NodeId) : Table NodeId Node × Table NodeId DocumentId :=
  match pending with
  | [] => (nodes, targets)
  | id :: rest =>
    match _found : nodes.find? id with
    | none => dropSubtrees nodes (targets.erase id) rest
    | some node => dropSubtrees (nodes.erase id) (targets.erase id) (node.childIds ++ rest)
termination_by childEntries nodes.entries + pending.length
decreasing_by
  · simp only [List.length_cons]
    omega
  · have fewer := childEntries_erase_add_le _found
    simp only [Table.erase, List.length_append, List.length_cons]
    omega

/-- The document without a node that no slot lists any more. -/
def withoutSubtree (doc : Document) (nodes : Table NodeId Node) (id : NodeId) : Document :=
  let (kept, targets) := dropSubtrees nodes doc.targets [id]
  { doc with nodes := kept, targets := targets, dirty := true }

/-- Take a node out of one slot of a parent and drop it; none when the slot does not
list it. -/
def removeChild (doc : Document) (parent : NodeId) (slot : String) (child : NodeId) :
    Option Document :=
  match doc.node? parent with
  | none => none
  | some node =>
    if (node.slot slot).contains child then
      let shortened :=
        { node with children := node.children.insert slot ((node.slot slot).erase child) }
      some (doc.withoutSubtree (doc.nodes.insert parent shortened) child)
    else none

/-- Take a node out of every slot of its parent. -/
def detach (nodes : Table NodeId Node) (parent : Option NodeId) (id : NodeId) :
    Table NodeId Node :=
  match parent with
  | none => nodes
  | some parent =>
    nodes.modify parent fun node =>
      { node with children := node.children.map fun list => list.filter fun held => held ≠ id }

/-- Take a node out of the tree, wherever it is, and drop it. -/
def removeNode (doc : Document) (id : NodeId) : Except DocumentError Document :=
  if id = doc.root then .error (.cannotRemoveRoot id)
  else
    match doc.node? id with
    | none => .error (.nodeNotFound id)
    | some node => .ok (doc.withoutSubtree (detach doc.nodes node.parent id) id)

/-- Move a node within a slot; none when nothing moves. -/
def moveChild (doc : Document) (parent : NodeId) (slot : String) (child : NodeId) (offset : Int) :
    Option Document :=
  match doc.node? parent with
  | none => none
  | some node =>
    match moveByOffset (node.slot slot) child offset with
    | none => none
    | some moved =>
      some { doc with
        nodes := doc.nodes.insert parent { node with children := node.children.insert slot moved }
        dirty := true }

/-- Let a node stand for a document. -/
def setTarget (doc : Document) (id : NodeId) (target : DocumentId) :
    Except DocumentError Document :=
  if doc.contains id then .ok { doc with targets := doc.targets.insert id target }
  else .error (.nodeNotFound id)

end Document

end LevelGraph
