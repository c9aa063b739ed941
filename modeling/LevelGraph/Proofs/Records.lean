import LevelGraph.Record
import LevelGraph.Proofs.Tables

/-!
# Laws of persisted trees

A record is a tree whose branches are lists in lists, so functions on records come in threes.
The laws here put each of them into one equation over the slots of a node, and `induct` is
the one induction that goes with them: a property that passes from the nodes in all slots to
the node that has them holds of every record. `subtree` lists a record with all below it.
-/

namespace LevelGraph

namespace NodeRecord

mutual

/-- A property that a node has whenever the nodes in its slots have it holds of every record. -/
theorem induct {motive : NodeRecord → Prop}
    (step : ∀ id typeName attributes slots,
      (∀ slot ∈ slots, ∀ item ∈ slot.2, motive item) → motive ⟨id, typeName, attributes, slots⟩) :
    (record : NodeRecord) → motive record
  | ⟨id, typeName, attributes, slots⟩ => step id typeName attributes slots (inductSlots step slots)

/-- The property holds in all slots. -/
theorem inductSlots {motive : NodeRecord → Prop}
    (step : ∀ id typeName attributes slots,
      (∀ slot ∈ slots, ∀ item ∈ slot.2, motive item) → motive ⟨id, typeName, attributes, slots⟩) :
    (slots : List (String × List NodeRecord)) → ∀ slot ∈ slots, ∀ item ∈ slot.2, motive item
  | [] => fun _ member => absurd member List.not_mem_nil
  | (_, items) :: rest =>
    List.forall_mem_cons.mpr ⟨inductItems step items, inductSlots step rest⟩

/-- The property holds of all nodes of a slot. -/
theorem inductItems {motive : NodeRecord → Prop}
    (step : ∀ id typeName attributes slots,
      (∀ slot ∈ slots, ∀ item ∈ slot.2, motive item) → motive ⟨id, typeName, attributes, slots⟩) :
    (items : List NodeRecord) → ∀ item ∈ items, motive item
  | [] => fun _ member => absurd member List.not_mem_nil
  | record :: rest => List.forall_mem_cons.mpr ⟨induct step record, inductItems step rest⟩

end

mutual

/-- The record and all below it, a node before the nodes in its slots. -/
def subtree : NodeRecord → List NodeRecord
  | ⟨id, typeName, attributes, slots⟩ => ⟨id, typeName, attributes, slots⟩ :: slotsSubtree slots

/-- All nodes in the slots of a node. -/
def slotsSubtree : List (String × List NodeRecord) → List NodeRecord
  | [] => []
  | (_, items) :: rest => itemsSubtree items ++ slotsSubtree rest

/-- All nodes in one slot. -/
def itemsSubtree : List NodeRecord → List NodeRecord
  | [] => []
  | record :: rest => subtree record ++ itemsSubtree rest

end

/-- The identifiers of a record and of all below it. -/
def ids (record : NodeRecord) : List NodeId := record.subtree.map (·.id)

/-- The records below items are those of each item in turn. -/
theorem itemsSubtree_eq (items : List NodeRecord) : itemsSubtree items = items.flatMap subtree := by
  induction items with
  | nil => rfl
  | cons record rest inductionHypothesis => simp [itemsSubtree, inductionHypothesis]

/-- The records below slots are those of each item in each slot in turn. -/
theorem slotsSubtree_eq (slots : List (String × List NodeRecord)) :
    slotsSubtree slots = slots.flatMap fun slot => slot.2.flatMap subtree := by
  induction slots with
  | nil => rfl
  | cons slot rest inductionHypothesis =>
    obtain ⟨name, items⟩ := slot
    simp [slotsSubtree, itemsSubtree_eq, inductionHypothesis]

/-- The nodes of a tree are its root and the nodes of all trees in the root's slots. -/
theorem subtree_eq (id : NodeId) (typeName : String) (attributes : Table String String)
    (slots : List (String × List NodeRecord)) :
    subtree ⟨id, typeName, attributes, slots⟩ =
      ⟨id, typeName, attributes, slots⟩ :: slots.flatMap fun slot => slot.2.flatMap subtree := by
  rw [subtree, slotsSubtree_eq]

/-- The identifiers of a tree are that of its root and those of all trees in the root's slots. -/
theorem ids_eq (id : NodeId) (typeName : String) (attributes : Table String String)
    (slots : List (String × List NodeRecord)) :
    ids ⟨id, typeName, attributes, slots⟩ =
      id :: slots.flatMap fun slot => slot.2.flatMap ids := by
  simp only [ids, subtree_eq, List.map_cons, List.map_flatMap]
  rfl

/-- A record is among its own nodes. -/
theorem mem_subtree_self (record : NodeRecord) : record ∈ record.subtree := by
  obtain ⟨id, typeName, attributes, slots⟩ := record
  rw [subtree_eq]
  exact List.mem_cons_self

/-- A record is among its own nodes. -/
theorem id_mem_ids (record : NodeRecord) : record.id ∈ record.ids :=
  List.mem_map_of_mem (mem_subtree_self record)

/-- The tree of a node in a slot is a part of the owner's tree, below the owner. -/
theorem subtree_sublist_of_item {slots : List (String × List NodeRecord)}
    {slot : String × List NodeRecord} {item : NodeRecord} (listed : slot ∈ slots)
    (held : item ∈ slot.2) :
    (subtree item).Sublist (slots.flatMap fun slot => slot.2.flatMap subtree) := by
  have inSlot : (subtree item).Sublist (slot.2.flatMap subtree) :=
    List.sublist_flatten_of_mem (List.mem_map_of_mem held)
  exact inSlot.trans (List.sublist_flatten_of_mem
    (List.mem_map_of_mem listed))

/-- If single records are counted rightly, so are items. -/
theorem itemsNodeCount_eq {items : List NodeRecord}
    (counted : ∀ item ∈ items, nodeCount item = item.subtree.length) :
    itemsNodeCount items = (itemsSubtree items).length := by
  induction items with
  | nil => rfl
  | cons record rest inductionHypothesis =>
    have later := inductionHypothesis fun item member => counted item (List.mem_cons_of_mem _ member)
    simp only [itemsNodeCount, itemsSubtree, List.length_append, later,
      counted record List.mem_cons_self]

/-- If single records are counted rightly, so are slots. -/
theorem slotsNodeCount_eq {slots : List (String × List NodeRecord)}
    (counted : ∀ slot ∈ slots, ∀ item ∈ slot.2, nodeCount item = item.subtree.length) :
    slotsNodeCount slots = (slotsSubtree slots).length := by
  induction slots with
  | nil => rfl
  | cons slot rest inductionHypothesis =>
    obtain ⟨name, items⟩ := slot
    have later := inductionHypothesis fun slot member => counted slot (List.mem_cons_of_mem _ member)
    simp only [slotsNodeCount, slotsSubtree, List.length_append, later,
      itemsNodeCount_eq (counted _ List.mem_cons_self)]

/-- The node count counts the nodes of the tree. -/
theorem nodeCount_eq_length_subtree (record : NodeRecord) :
    record.nodeCount = record.subtree.length := by
  induction record using induct with
  | step id typeName attributes slots inductionHypothesis =>
    simp only [nodeCount, subtree, List.length_cons, slotsNodeCount_eq inductionHypothesis]
    omega

/-- A record counts each of its identifiers, a repeated one every time. -/
theorem nodeCount_eq_length_ids (record : NodeRecord) : record.nodeCount = record.ids.length := by
  rw [ids, List.length_map, nodeCount_eq_length_subtree]

/-- A node in a slot has fewer nodes below it than the owner of the slot. -/
theorem nodeCount_lt_of_item (record : NodeRecord) {item : NodeRecord} {slot : String × List NodeRecord}
    (listed : slot ∈ record.children) (held : item ∈ slot.2) :
    item.nodeCount < record.nodeCount := by
  obtain ⟨id, typeName, attributes, slots⟩ := record
  change slot ∈ slots at listed
  have fits := (subtree_sublist_of_item listed held).length_le
  rw [nodeCount_eq_length_subtree, nodeCount_eq_length_subtree, subtree_eq, List.length_cons]
  omega

/-- The identifiers below a node in a slot are among those below the owner of the slot. -/
theorem ids_sublist_of_item (record : NodeRecord) {item : NodeRecord} {slot : String × List NodeRecord}
    (listed : slot ∈ record.children) (held : item ∈ slot.2) :
    item.ids.Sublist record.ids := by
  obtain ⟨id, typeName, attributes, slots⟩ := record
  rw [ids, ids, subtree_eq, List.map_cons]
  exact ((subtree_sublist_of_item listed held).map _).cons _

/-- Items are ordered if each of them is. -/
theorem itemsOrdered_iff (items : List NodeRecord) :
    ItemsOrdered items ↔ ∀ item ∈ items, Ordered item := by
  induction items with
  | nil => simp [ItemsOrdered]
  | cons record rest inductionHypothesis => simp [ItemsOrdered, inductionHypothesis]

/-- What stands in slots is ordered if each item is. -/
theorem slotsOrdered_iff (slots : List (String × List NodeRecord)) :
    SlotsOrdered slots ↔ ∀ slot ∈ slots, ∀ item ∈ slot.2, Ordered item := by
  induction slots with
  | nil => simp [SlotsOrdered]
  | cons slot rest inductionHypothesis =>
    obtain ⟨name, items⟩ := slot
    simp [SlotsOrdered, itemsOrdered_iff, inductionHypothesis]

/-- A tree is ordered when its root's slots ascend and the trees in them are ordered. -/
theorem ordered_iff (id : NodeId) (typeName : String) (attributes : Table String String)
    (slots : List (String × List NodeRecord)) :
    Ordered ⟨id, typeName, attributes, slots⟩ ↔
      Entries.Ascending slots ∧ ∀ slot ∈ slots, ∀ item ∈ slot.2, Ordered item := by
  rw [Ordered, slotsOrdered_iff]

/-- Each item is pruned by itself. -/
theorem prunedItems_eq (items : List NodeRecord) : prunedItems items = items.map pruned := by
  induction items with
  | nil => rfl
  | cons record rest inductionHypothesis => simp [prunedItems, inductionHypothesis]

/-- Of the slots those without items go, also where others of the same name stay. -/
theorem prunedSlots_eq (slots : List (String × List NodeRecord)) :
    prunedSlots slots =
      (slots.filter fun slot => !slot.2.isEmpty).map fun slot => (slot.1, slot.2.map pruned) := by
  induction slots with
  | nil => rfl
  | cons slot rest inductionHypothesis =>
    obtain ⟨name, _ | ⟨record, items⟩⟩ := slot
    · simp [prunedSlots, inductionHypothesis]
    · simp [prunedSlots, prunedItems_eq, inductionHypothesis]

/-- Pruning drops the empty slots of the root and prunes the trees in the others. -/
theorem pruned_eq (id : NodeId) (typeName : String) (attributes : Table String String)
    (slots : List (String × List NodeRecord)) :
    pruned ⟨id, typeName, attributes, slots⟩ = ⟨id, typeName, attributes,
      (slots.filter fun slot => !slot.2.isEmpty).map fun slot => (slot.1, slot.2.map pruned)⟩ := by
  rw [pruned, prunedSlots_eq]

end NodeRecord

end LevelGraph
