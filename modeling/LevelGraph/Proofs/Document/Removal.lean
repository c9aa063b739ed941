import LevelGraph.Proofs.Document.History
import LevelGraph.Proofs.Document.Targets
import Mathlib.Data.List.Pairwise

/-!
# What a removal takes away

A node can be removed from the slot that lists it, and it can be removed wherever it is. The first
takes it out of one list and the second out of every list of its parent. In a tree that is the same,
for a node has one parent and stands once in one of its slots. So the two leave one document.

`Removed` says what that document is. The node and all that is below it are gone with the targets
that they had, and the list of the parent has lost the node and kept its order. All else is as it
was. A removal of what is not there, or of the root, leaves everything as it was.
-/

namespace LevelGraph

namespace Node

variable {node : Node} {id : NodeId}

/-- The children of a node are the nodes in its slots. -/
theorem mem_childIds_iff : id ∈ node.childIds ↔ ∃ slot, id ∈ node.slot slot := by
  constructor
  · intro listed
    obtain ⟨⟨slot, items⟩, held, inside⟩ := List.mem_flatMap.mp listed
    have found := (node.children.mem_entries_iff slot items).mp held
    exact ⟨slot, by rw [Node.slot, found]; exact inside⟩
  · rintro ⟨slot, inside⟩
    exact mem_childIds_of_mem_slot inside

/-- What stands in a slot is in the list found for it. -/
theorem exists_of_mem_slot {slot : String} (inside : id ∈ node.slot slot) :
    ∃ items, node.children.find? slot = some items ∧ id ∈ items := by
  cases found : node.children.find? slot with
  | none =>
    rw [Node.slot, found] at inside
    exact absurd inside List.not_mem_nil
  | some items =>
    rw [Node.slot, found] at inside
    exact ⟨items, rfl, inside⟩

/-- No node stands in two slots of a node that lists none twice. -/
theorem slot_unique (distinct : node.childIds.Nodup) {first second : String}
    (here : id ∈ node.slot first) (there : id ∈ node.slot second) : first = second := by
  obtain ⟨items, found, inside⟩ := exists_of_mem_slot here
  obtain ⟨others, foundThere, insideThere⟩ := exists_of_mem_slot there
  obtain ⟨-, apart⟩ := List.nodup_flatMap.mp distinct
  by_contra different
  have : Std.Symm (Function.onFun List.Disjoint fun entry : String × List NodeId => entry.2) :=
    ⟨fun _ _ disjoint => disjoint.symm⟩
  have disjoint := apart.forall ((node.children.mem_entries_iff first items).mpr found)
    ((node.children.mem_entries_iff second others).mpr foundThere)
    fun same => different (congrArg Prod.fst same)
  exact disjoint inside insideThere

/-- To take a node out of a slot is to keep the others in their order. -/
theorem erase_slot (distinct : node.childIds.Nodup) (slot : String) (id : NodeId) :
    (node.slot slot).erase id = (node.slot slot).filter fun held => held ≠ id := by
  rw [(nodup_slot distinct slot).erase_eq_filter]
  refine List.filter_congr fun held _ => ?_
  rw [Bool.eq_iff_iff, bne_iff_ne, decide_eq_true_eq]

/-- Taking a child out of every slot is taking it out of the one that lists it. -/
theorem filter_slots_eq (distinct : node.childIds.Nodup) {slot : String} (listed : id ∈ node.slot slot) :
    (node.children.map fun items => items.filter fun held => held ≠ id) =
      node.children.insert slot ((node.slot slot).erase id) := by
  refine Table.eq_of_find?_eq fun name => ?_
  rw [Table.find?_map, Table.find?_insert]
  split
  · next same =>
    obtain ⟨items, found, -⟩ := exists_of_mem_slot listed
    rw [erase_slot distinct, Node.slot, same, found, Option.map_some, Option.getD_some]
  · next other =>
    cases found : node.children.find? name with
    | none => rfl
    | some items =>
      have kept : items.filter (fun held => held ≠ id) = items := by
        refine List.filter_eq_self.mpr fun held inside => ?_
        rw [decide_eq_true_eq]
        rintro rfl
        have there : held ∈ node.slot name := by rw [Node.slot, found]; exact inside
        exact other (slot_unique distinct there listed)
      rw [Option.map_some, kept]

end Node

namespace Document

variable {doc : Document} {parent : NodeId} {slot : String}

/-- A document once a node is removed from a slot. -/
structure Removed (doc : Document) (parent : NodeId) (slot : String) (gone : NodeId)
    (left : Document) : Prop where
  /-- It is the same document at the same location with the same root. -/
  place : left.id = doc.id ∧ left.location = doc.location ∧ left.root = doc.root
  /-- The nodes left are those that were neither the removed one nor below it. -/
  nodes : ∀ id, left.contains id = true ↔ doc.contains id = true ∧ ¬ Below doc.nodes gone id
  /-- The parent has lost the node from the slot, where the others stand as before. -/
  owner : ∃ node, doc.node? parent = some node ∧
    left.node? parent = some { node with
      children := node.children.insert slot ((node.slot slot).filter fun held => held ≠ gone) }
  /-- Any other node that is left is as it was. -/
  others : ∀ {id}, id ≠ parent → ¬ Below doc.nodes gone id → left.node? id = doc.node? id
  /-- The targets left are those of nodes that are left. -/
  targets : ∀ {id target}, left.target? id = some target ↔
    doc.target? id = some target ∧ ¬ Below doc.nodes gone id
  /-- There is something to save. -/
  dirty : left.dirty = true

/-- A node in a slot is a child of the node that has the slot. -/
theorem lists_of_mem_children {id : NodeId} (listed : id ∈ doc.children parent slot) :
    ∃ node, doc.node? parent = some node ∧ id ∈ node.slot slot ∧ Lists doc.nodes parent id := by
  unfold children at listed
  split at listed
  · next node found =>
    exact ⟨node, found, listed, node, found, Node.mem_childIds_of_mem_slot listed⟩
  · exact absurd listed List.not_mem_nil

/-- No parent is below a node that it lists. -/
theorem not_below_of_lists {nodes : Table NodeId Node} {root id : NodeId} (tree : IsTree nodes root)
    (listed : Lists nodes parent id) : ¬ Below nodes id parent := fun below =>
  tree.acyclic parent (Relation.TransGen.head' listed below)

/-- To drop a node that has been struck off its slot is to remove it. -/
theorem removed_withoutSubtree (sound : doc.Sound) {node : Node} {gone : NodeId}
    (found : doc.node? parent = some node) (inSlot : gone ∈ node.slot slot) :
    doc.Removed parent slot gone (doc.withoutSubtree (doc.nodes.insert parent
      { node with children := node.children.insert slot ((node.slot slot).erase gone) }) gone) := by
  have strike := struck_of_erased sound.tree found inSlot
  rw [Node.erase_slot (sound.tree.listedOnce found)] at strike ⊢
  generalize shortened : ({ node with
    children := node.children.insert slot ((node.slot slot).filter fun held => held ≠ gone) } :
    Node) = changed at strike ⊢
  have look {id : NodeId} {held : Node} :
      (doc.withoutSubtree (doc.nodes.insert parent changed) gone).node? id = some held ↔
        ¬ Below doc.nodes gone id ∧ (doc.nodes.insert parent changed).find? id = some held :=
    sound.tree.find?_dropped strike doc.targets
  refine ⟨⟨rfl, rfl, rfl⟩, ?nodes, ?owner, ?others, target?_withoutSubtree sound strike, rfl⟩
  case nodes =>
    intro id
    have same : (doc.nodes.insert parent changed).contains id = doc.contains id := by
      rw [Table.contains_insert]
      by_cases here : id = parent
      · rw [here, contains, found, decide_eq_true rfl]
        rfl
      · rw [decide_eq_false here, Bool.false_or]
        rfl
    rw [← same, contains, Option.isSome_iff_exists, Table.contains_iff]
    simp only [look, exists_and_left]
    exact and_comm
  case owner =>
    refine ⟨node, found, look.mpr ⟨?_, ?_⟩⟩
    · exact not_below_of_lists sound.tree ⟨node, found, Node.mem_childIds_of_mem_slot inSlot⟩
    · rw [Table.find?_insert, if_pos rfl, ← shortened]
  case others =>
    intro id other apart
    refine Option.ext fun held => ?_
    rw [look, Table.find?_insert, if_neg other]
    exact and_iff_right apart

/-- In a tree, removing a node wherever it is strikes it off the slot that lists it. -/
theorem detach_eq (sound : doc.Sound) {above node : Node} {id : NodeId}
    (found : doc.node? parent = some above) (inSlot : id ∈ above.slot slot)
    (held : doc.node? id = some node) :
    detach doc.nodes node.parent id = doc.nodes.insert parent
      { above with children := above.children.insert slot ((above.slot slot).erase id) } := by
  have listed : Lists doc.nodes parent id := ⟨above, found, Node.mem_childIds_of_mem_slot inSlot⟩
  obtain ⟨same, sameFound, named⟩ := sound.tree.listedHeld listed
  rw [show doc.nodes.find? id = some node from held, Option.some.injEq] at sameFound
  rw [sameFound, named, detach_some found, Node.filter_slots_eq (sound.tree.listedOnce found) inSlot]

/-- A node in a slot can be removed either way, and both ways leave the same document. -/
theorem removed_of_mem_children (sound : doc.Sound) {id : NodeId}
    (listed : id ∈ doc.children parent slot) :
    ∃ left, doc.removeNode id = .ok left ∧ doc.removeChild parent slot id = some left ∧
      doc.Removed parent slot id left := by
  obtain ⟨above, found, inSlot, link⟩ := lists_of_mem_children listed
  obtain ⟨node, held, -⟩ := sound.tree.listedHeld link
  have notRoot : id ≠ doc.root := by
    rintro rfl
    exact sound.tree.root_unlisted parent link
  refine ⟨_, ?_, ?_, removed_withoutSubtree sound found inSlot⟩
  · have held : doc.node? id = some node := held
    simp only [removeNode, notRoot, if_false, held, detach_eq sound found inSlot held]
  · simp only [removeChild, found, List.contains_iff_mem.mpr inSlot, if_true]

/-- Nothing is removed from a slot that does not list it. -/
theorem removeChild_of_not_mem {id : NodeId} (unlisted : id ∉ doc.children parent slot) :
    doc.removeChild parent slot id = none := by
  unfold removeChild
  split
  · rfl
  · next node found =>
    rw [children, found] at unlisted
    rw [if_neg]
    exact fun contained => unlisted (List.contains_iff_mem.mp contained)

/-- Removal is exact, and the two ways of removing agree. A node other than the root stands in a slot
of its parent. Removed from there or wherever it is, it leaves the same document, which has lost the
node and what was below it, with their targets, and nothing else. A node is not removed from a slot
that does not list it, and neither the root nor what is no node is removed at all. -/
theorem removals_agree {schema : Schema} {doc : Document} (arises : Arises schema doc) :
    (∀ id node, doc.node? id = some node → id ≠ doc.root →
      ∃ parent slot, node.parent = some parent ∧ id ∈ doc.children parent slot) ∧
    (∀ parent slot id, id ∈ doc.children parent slot →
      ∃ left, doc.removeNode id = .ok left ∧ doc.removeChild parent slot id = some left ∧
        doc.Removed parent slot id left) ∧
    (∀ parent slot id, id ∉ doc.children parent slot →
      doc.removeChild parent slot id = none ∧ doc.after (.removeChild parent slot id) = doc) ∧
    (doc.removeNode doc.root = .error (.cannotRemoveRoot doc.root) ∧
      doc.after (.removeNode doc.root) = doc) ∧
    ∀ id, doc.contains id = false →
      doc.removeNode id = .error (.nodeNotFound id) ∧ doc.after (.removeNode id) = doc := by
  have sound := arises.sound
  refine ⟨?placed, fun parent slot id => removed_of_mem_children sound, ?unlisted, ?root, ?unknown⟩
  case placed =>
    intro id node found notRoot
    obtain ⟨parent, named, above, aboveFound, listed⟩ := sound.tree.parentLists found notRoot
    obtain ⟨slot, inSlot⟩ := Node.mem_childIds_iff.mp listed
    refine ⟨parent, slot, named, ?_⟩
    rw [children, show doc.node? parent = some above from aboveFound]
    exact inSlot
  case unlisted =>
    intro parent slot id absent
    have refused := removeChild_of_not_mem absent
    exact ⟨refused, by rw [Document.after, Edit.result?, refused, Option.getD_none]⟩
  case root =>
    have refused : doc.removeNode doc.root = .error (.cannotRemoveRoot doc.root) := by
      rw [removeNode, if_pos rfl]
    exact ⟨refused, by rw [Document.after, Edit.result?, refused]; rfl⟩
  case unknown =>
    intro id absent
    have held : doc.node? id = none := (doc.nodes.not_contains_iff id).mp absent
    have notRoot : id ≠ doc.root := by
      rintro rfl
      obtain ⟨node, found, -⟩ := sound.tree.rootHeld
      cases held.symm.trans found
    have refused : doc.removeNode id = .error (.nodeNotFound id) := by
      simp only [removeNode, notRoot, if_false, held]
    exact ⟨refused, by rw [Document.after, Edit.result?, refused]; rfl⟩

/-- The folder goes with both of its cells and with the target of the one that was resolved. -/
theorem removals_agree_folder :
    ∃ left, foldedLevel.removeNode (Uuid.ofNat 3) = .ok left ∧
      foldedLevel.removeChild (Uuid.ofNat 2) "placementsFolder" (Uuid.ofNat 3) = some left ∧
      foldedLevel.Removed (Uuid.ofNat 2) "placementsFolder" (Uuid.ofNat 3) left ∧
      left.contains (Uuid.ofNat 4) = false ∧ left.target? (Uuid.ofNat 4) = none := by
  obtain ⟨-, removes, -⟩ := removals_agree arises_foldedLevel
  obtain ⟨left, wherever, fromSlot, removed⟩ :=
    removes (Uuid.ofNat 2) "placementsFolder" (Uuid.ofNat 3) (by decide +kernel)
  have inFolder : Uuid.ofNat 4 ∈ foldedLevel.children (Uuid.ofNat 3) "cell" := by decide +kernel
  obtain ⟨-, -, -, link⟩ := lists_of_mem_children inFolder
  have below : Below foldedLevel.nodes (Uuid.ofNat 3) (Uuid.ofNat 4) := .single link
  refine ⟨left, wherever, fromSlot, removed, ?_, ?_⟩
  · rw [Bool.eq_false_iff]
    exact fun held => ((removed.nodes _).mp held).2 below
  · cases targeted : left.target? (Uuid.ofNat 4) with
    | none => rfl
    | some target => exact absurd below (removed.targets.mp targeted).2

end Document

end LevelGraph
