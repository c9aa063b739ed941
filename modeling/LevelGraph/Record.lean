import LevelGraph.Uuid

/-!
# Persisted trees

A record is a document's tree in the form in which it is stored: a node with its
type by name, its attributes, and its child nodes in named slots. What exists
only while a document is open, such as the target of a reference, has no place
in it. Child slots are entries in ascending order of name (`Ordered`); the order
cannot be part of the recursive type itself.
-/

namespace LevelGraph

/-- Nodes are addressed by identifiers. -/
abbrev NodeId := Uuid

/-- Open documents are addressed by identifiers. -/
abbrev DocumentId := Uuid

/-- A persisted node with all that is below it. -/
structure NodeRecord where
  /-- The node's identifier. -/
  id : NodeId
  /-- The name of the node's type. -/
  typeName : String
  /-- The node's attributes. -/
  attributes : Table String String
  /-- The node's child slots, each with its nodes in order. -/
  children : List (String × List NodeRecord)

namespace NodeRecord

mutual

/-- The number of nodes: this one and all below it. -/
def nodeCount : NodeRecord → Nat
  | ⟨_, _, _, slots⟩ => 1 + slotsNodeCount slots

/-- The number of nodes in a node's slots. -/
def slotsNodeCount : List (String × List NodeRecord) → Nat
  | [] => 0
  | (_, items) :: rest => itemsNodeCount items + slotsNodeCount rest

/-- The number of nodes in one slot. -/
def itemsNodeCount : List NodeRecord → Nat
  | [] => 0
  | record :: rest => nodeCount record + itemsNodeCount rest

end

mutual

/-- The child slots ascend strictly by name, here and below. -/
def Ordered : NodeRecord → Prop
  | ⟨_, _, _, slots⟩ => Entries.Ascending slots ∧ SlotsOrdered slots

/-- Every node in these slots is ordered. -/
def SlotsOrdered : List (String × List NodeRecord) → Prop
  | [] => True
  | (_, items) :: rest => ItemsOrdered items ∧ SlotsOrdered rest

/-- Every node of this slot is ordered. -/
def ItemsOrdered : List NodeRecord → Prop
  | [] => True
  | record :: rest => Ordered record ∧ ItemsOrdered rest

end

mutual

/-- The record without its empty slots, here and below. -/
def pruned : NodeRecord → NodeRecord
  | ⟨id, typeName, attributes, slots⟩ => ⟨id, typeName, attributes, prunedSlots slots⟩

/-- The slots that hold nodes, pruned below. -/
def prunedSlots : List (String × List NodeRecord) → List (String × List NodeRecord)
  | [] => []
  | (_, []) :: rest => prunedSlots rest
  | (name, record :: items) :: rest =>
    (name, pruned record :: prunedItems items) :: prunedSlots rest

/-- The nodes of one slot, each pruned. -/
def prunedItems : List NodeRecord → List NodeRecord
  | [] => []
  | record :: rest => pruned record :: prunedItems rest

end

mutual

/-- Whether two records are the same. -/
def same : NodeRecord → NodeRecord → Bool
  | ⟨id, typeName, attributes, slots⟩, ⟨otherId, otherTypeName, otherAttributes, otherSlots⟩ =>
    id == otherId && typeName == otherTypeName && attributes == otherAttributes &&
      sameSlots slots otherSlots

/-- Whether two runs of slots are the same. -/
def sameSlots : List (String × List NodeRecord) → List (String × List NodeRecord) → Bool
  | [], [] => true
  | (name, items) :: rest, (otherName, otherItems) :: otherRest =>
    name == otherName && sameItems items otherItems && sameSlots rest otherRest
  | _, _ => false

/-- Whether two runs of nodes are the same. -/
def sameItems : List NodeRecord → List NodeRecord → Bool
  | [], [] => true
  | record :: rest, other :: otherRest => same record other && sameItems rest otherRest
  | _, _ => false

end

mutual

/-- `same` decides equality of records. -/
theorem same_eq_true_iff : (left right : NodeRecord) → (same left right = true ↔ left = right)
  | ⟨id, typeName, attributes, slots⟩, ⟨otherId, otherTypeName, otherAttributes, otherSlots⟩ => by
    have below := sameSlots_eq_true_iff slots otherSlots
    simp only [same, Bool.and_eq_true, beq_iff_eq, below, mk.injEq, and_assoc]

/-- `sameSlots` decides equality of slots. -/
theorem sameSlots_eq_true_iff : (left right : List (String × List NodeRecord)) →
    (sameSlots left right = true ↔ left = right)
  | [], [] => by simp [sameSlots]
  | [], _ :: _ => by simp [sameSlots]
  | _ :: _, [] => by simp [sameSlots]
  | (name, items) :: rest, (otherName, otherItems) :: otherRest => by
    have here := sameItems_eq_true_iff items otherItems
    have later := sameSlots_eq_true_iff rest otherRest
    simp only [sameSlots, Bool.and_eq_true, beq_iff_eq, here, later, List.cons.injEq,
      Prod.mk.injEq]

/-- `sameItems` decides equality of runs of nodes. -/
theorem sameItems_eq_true_iff : (left right : List NodeRecord) →
    (sameItems left right = true ↔ left = right)
  | [], [] => by simp [sameItems]
  | [], _ :: _ => by simp [sameItems]
  | _ :: _, [] => by simp [sameItems]
  | record :: rest, other :: otherRest => by
    have here := same_eq_true_iff record other
    have later := sameItems_eq_true_iff rest otherRest
    simp only [sameItems, Bool.and_eq_true, here, later, List.cons.injEq]

end

/-- Equality of records is decidable. -/
instance : DecidableEq NodeRecord := fun left right =>
  decidable_of_iff (same left right = true) (same_eq_true_iff left right)

/-- A record with no attributes and no children. -/
def leaf (id : NodeId) (typeName : String) : NodeRecord := ⟨id, typeName, Table.empty, []⟩

instance : Inhabited NodeRecord := ⟨leaf default ""⟩

end NodeRecord

end LevelGraph
