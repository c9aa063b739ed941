import LevelGraph.Proofs.Document.Below
import Mathlib.Data.List.Perm.Subperm

/-!
# Tables of nodes that form a tree

A tree is kept twice: a node names its parent, and a slot of the parent lists the node.
`IsTree` says that the two agree and that everything hangs on the root. What a reader of a
tree wants follows from it: parents are unique, nothing is listed twice, and no way down
leads back to where it began.

Three changes keep a tree a tree. Nodes may get other attributes or another order of the
same children; a new node may be listed at the end of a slot; and a node other than the
root may be struck off its parent's slots and dropped with all that is below it.
-/

namespace LevelGraph

namespace Document

/-- The nodes form one tree below a root, parents and slots being in agreement. -/
structure IsTree (nodes : Table NodeId Node) (root : NodeId) : Prop where
  /-- The root is there and has no parent. -/
  rootHeld : ∃ node, nodes.find? root = some node ∧ node.parent = none
  /-- What is listed is there and names the node that lists it. -/
  listedHeld : ∀ {parent child}, Lists nodes parent child →
    ∃ node, nodes.find? child = some node ∧ node.parent = some parent
  /-- Every node but the root is listed by the parent that it names. -/
  parentLists : ∀ {id node}, nodes.find? id = some node → id ≠ root →
    ∃ parent, node.parent = some parent ∧ Lists nodes parent id
  /-- No node lists another twice. -/
  listedOnce : ∀ {id node}, nodes.find? id = some node → node.childIds.Nodup
  /-- Every node is below the root. -/
  reached : ∀ {id node}, nodes.find? id = some node → Below nodes root id

namespace IsTree

variable {nodes : Table NodeId Node} {root : NodeId}

/-- Nothing lists the root. -/
theorem root_unlisted (tree : IsTree nodes root) (parent : NodeId) : ¬ Lists nodes parent root := by
  intro listed
  obtain ⟨node, found, named⟩ := tree.listedHeld listed
  obtain ⟨rootNode, rootFound, parentless⟩ := tree.rootHeld
  rw [found, Option.some.injEq] at rootFound
  subst rootFound
  rw [parentless] at named
  cases named

/-- A node is listed by one node only. -/
theorem parent_unique (tree : IsTree nodes root) {first second child : NodeId}
    (left : Lists nodes first child) (right : Lists nodes second child) : first = second := by
  obtain ⟨node, found, named⟩ := tree.listedHeld left
  obtain ⟨same, foundAgain, namedAgain⟩ := tree.listedHeld right
  rw [found, Option.some.injEq] at foundAgain
  subst foundAgain
  rw [named, Option.some.injEq] at namedAgain
  exact namedAgain

/-- No way down leads back. Induct along the way from the root: a circle through a node
enters it from its parent, so it runs through the parent as well, and nothing enters the
root. -/
theorem acyclic_of_below (tree : IsTree nodes root) {id : NodeId} (below : Below nodes root id) :
    ¬ Relation.TransGen (Lists nodes) id id := by
  induction below with
  | refl =>
    intro circle
    obtain ⟨last, _, step⟩ := Relation.TransGen.tail'_iff.mp circle
    exact tree.root_unlisted last step
  | @tail parent child _ step inductionHypothesis =>
    intro circle
    obtain ⟨last, around, entry⟩ := Relation.TransGen.tail'_iff.mp circle
    have same : last = parent := tree.parent_unique entry step
    exact inductionHypothesis (Relation.TransGen.head' step (same ▸ around))

/-- No node is below one of its own children. -/
theorem acyclic (tree : IsTree nodes root) (id : NodeId) :
    ¬ Relation.TransGen (Lists nodes) id id := by
  intro circle
  obtain ⟨child, ⟨node, found, _⟩, _⟩ := Relation.TransGen.head'_iff.mp circle
  exact tree.acyclic_of_below (tree.reached found) circle

/-- Of two nodes above a third, one is above the other. -/
theorem below_or_below (tree : IsTree nodes root) {first second id : NodeId}
    (left : Below nodes first id) (right : Below nodes second id) :
    Below nodes first second ∨ Below nodes second first := by
  induction left with
  | refl => exact Or.inr right
  | @tail parent child above step inductionHypothesis =>
    rcases right.cases_tail with same | ⟨last, toLast, lastStep⟩
    · exact Or.inl (same ▸ above.tail step)
    · have same : last = parent := tree.parent_unique lastStep step
      exact inductionHypothesis (same ▸ toLast)

/-- Different nodes listed by one node have nothing below them in common. -/
theorem eq_of_below_siblings (tree : IsTree nodes root) {parent first second id : NodeId}
    (left : Lists nodes parent first) (right : Lists nodes parent second)
    (leftBelow : Below nodes first id) (rightBelow : Below nodes second id) : first = second := by
  have apart : ∀ {upper lower : NodeId}, Lists nodes parent upper → Lists nodes parent lower →
      Below nodes upper lower → upper = lower := by
    intro upper lower listsUpper listsLower below
    rcases below.cases_tail with same | ⟨last, toLast, step⟩
    · exact same.symm
    · have same : last = parent := tree.parent_unique step listsLower
      exact absurd (Relation.TransGen.head' listsUpper (same ▸ toLast)) (tree.acyclic parent)
  rcases tree.below_or_below leftBelow rightBelow with down | down
  · exact apart left right down
  · exact (apart right left down).symm

/-- What is below a node that is there is there as well. -/
theorem held_of_below (tree : IsTree nodes root) {top id : NodeId} {node : Node}
    (found : nodes.find? top = some node) (below : Below nodes top id) :
    ∃ held, nodes.find? id = some held := by
  rcases below.cases_tail with same | ⟨last, _, step⟩
  · exact ⟨node, same ▸ found⟩
  · obtain ⟨held, heldFound, _⟩ := tree.listedHeld step
    exact ⟨held, heldFound⟩

/-- The nodes of a tree are those below its root. -/
theorem below_root_iff (tree : IsTree nodes root) (id : NodeId) :
    Below nodes root id ↔ nodes.contains id = true := by
  rw [Table.contains_iff]
  constructor
  · intro below
    obtain ⟨node, found, _⟩ := tree.rootHeld
    exact tree.held_of_below found below
  · rintro ⟨node, found⟩
    exact tree.reached found

end IsTree

/-- A root alone is a tree. -/
theorem isTree_single {root : NodeId} {node : Node} (parentless : node.parent = none)
    (childless : node.childIds = []) : IsTree (Table.empty.insert root node) root := by
  have only : ∀ {id held}, (Table.empty.insert root node).find? id = some held →
      id = root ∧ held = node := by
    intro id held found
    rw [Table.find?_insert] at found
    split at found
    · next same => exact ⟨same, (Option.some.inj found).symm⟩
    · cases found
  have rootFound : (Table.empty.insert root node).find? root = some node := by
    rw [Table.find?_insert, if_pos rfl]
  refine ⟨⟨node, rootFound, parentless⟩, ?listedHeld, ?parentLists, ?listedOnce, ?reached⟩
  case listedHeld =>
    rintro parent child ⟨held, found, listed⟩
    rw [(only found).2, childless] at listed
    exact absurd listed List.not_mem_nil
  case parentLists =>
    intro id held found different
    exact absurd (only found).1 different
  case listedOnce =>
    intro id held found
    rw [(only found).2, childless]
    exact List.nodup_nil
  case reached =>
    intro id held found
    rw [(only found).1]

end Document

end LevelGraph
