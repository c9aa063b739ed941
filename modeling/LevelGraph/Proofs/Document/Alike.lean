import LevelGraph.Document.View
import LevelGraph.Proofs.Document.LayOut
import LevelGraph.Proofs.Schemas

/-!
# Documents that look alike

Two documents look alike when they have the same nodes, and each node has the same type,
the same attributes and the same children in each slot. Views that follow types, attributes
and children cannot tell such documents apart.

A record determines a document up to looks: documents whose types are declared and whose
records agree look alike. That is what makes a reloaded document a full substitute.
-/

namespace LevelGraph

/-- The nodes of a slot are those of the filled slot of that name. -/
theorem Node.slot_eq_filledSlots (node : Node) (name : String) :
    node.slot name = (Entries.find? name node.filledSlots).getD [] := by
  have filtered : Entries.find? name node.filledSlots =
      (node.children.find? name).filter fun ids => !ids.isEmpty :=
    node.children.find?_filterValues (fun ids => !ids.isEmpty) name
  rw [filtered, Node.slot]
  cases node.children.find? name with
  | none => rfl
  | some ids => cases ids <;> rfl

/-- Two nodes have the same type, the same attributes and the same slots. -/
structure Node.Alike (node other : Node) : Prop where
  /-- The types agree. -/
  type : other.type = node.type
  /-- The attributes agree. -/
  attributes : other.attributes = node.attributes
  /-- Every slot lists the same nodes. -/
  slot : ∀ name, other.slot name = node.slot name

namespace Document

variable {schema : Schema} {doc other : Document}

/-- Every node of the document has a type that the schema declares. -/
def Declared (schema : Schema) (doc : Document) : Prop :=
  ∀ id node, doc.node? id = some node → (schema.typeDef? node.type).isSome = true

instance (schema : Schema) (doc : Document) : Decidable (doc.Declared schema) :=
  decidable_of_iff
    (∀ entry ∈ doc.nodes.entries, (schema.typeDef? entry.2.type).isSome = true)
    ⟨fun each id node found => each (id, node) ((doc.nodes.mem_entries_iff id node).mpr found),
      fun declared entry held =>
        declared entry.1 entry.2 ((doc.nodes.mem_entries_iff entry.1 entry.2).mp held)⟩

/-- Two documents have the same nodes with the same looks. -/
structure Alike (doc other : Document) : Prop where
  /-- The roots agree. -/
  root : other.root = doc.root
  /-- A node of the one is a node of the other. -/
  node : ∀ {id node}, doc.node? id = some node →
    ∃ held, other.node? id = some held ∧ node.Alike held
  /-- What is no node of the one is none of the other. -/
  absent : ∀ {id}, doc.node? id = none → other.node? id = none

/-- Whatever is below a represented record is represented. -/
theorem Represents.of_mem_subtree {nodes : Table NodeId Node} {parent : Option NodeId}
    {record item : NodeRecord} (held : Represents schema nodes parent record)
    (below : item ∈ record.subtree) : ∃ above, Represents schema nodes above item := by
  induction record using NodeRecord.induct generalizing parent with
  | step id typeName attributes slots inductionHypothesis =>
    rw [NodeRecord.subtree_eq, List.mem_cons] at below
    rcases below with same | inside
    · exact ⟨parent, same ▸ held⟩
    · obtain ⟨slot, listed, inSlot⟩ := List.mem_flatMap.mp inside
      obtain ⟨child, inItems, inChild⟩ := List.mem_flatMap.mp inSlot
      cases held with
      | holds found typed named described filed each =>
        exact inductionHypothesis slot listed child inItems (each slot listed child inItems) inChild

/-- The record of a document whose types are declared names declared types only. -/
theorem Sound.declares (sound : doc.Sound) (named : schema.DistinctNames)
    (declared : doc.Declared schema) : schema.Declares (doc.toRecord schema) := by
  obtain ⟨represents, -⟩ := sound.record schema
  intro item below
  obtain ⟨above, held⟩ := represents.of_mem_subtree below
  cases held with
  | holds found typed =>
    exact ⟨_, typed ▸ Schema.typeId?_typeName named (declared _ _ found)⟩

/-- Laying out adds nodes of declared types only.

Proof: induction on the record. A node is written with the type found for its name, then
its child nodes follow in one list. -/
theorem declared_of_layOut {record : NodeRecord} {parent : Option NodeId}
    {nodes result : Table NodeId Node} (done : layOut schema parent record nodes = .ok result)
    {id : NodeId} {node : Node} (found : result.find? id = some node) :
    nodes.find? id = some node ∨ (schema.typeDef? node.type).isSome = true := by
  induction record using NodeRecord.induct generalizing parent nodes result with
  | step own typeName attributes slots inductionHypothesis =>
    rw [layOut] at done
    split at done
    · cases done
    · split at done
      · cases done
      · next type declared =>
        rw [layOutSlots_eq] at done
        have items : ∀ (items : List NodeRecord) (before after : Table NodeId Node),
            (∀ item ∈ items, ∃ slot ∈ slots, item ∈ slot.2) →
            layOutItems schema own items before = .ok after → after.find? id = some node →
            before.find? id = some node ∨ (schema.typeDef? node.type).isSome = true := by
          intro items
          induction items with
          | nil =>
            intro before after _ laid held
            rw [layOutItems] at laid
            cases laid
            exact .inl held
          | cons item rest restHypothesis =>
            intro before after inSlots laid held
            rw [layOutItems] at laid
            split at laid
            · cases laid
            · next middle restLaid =>
              obtain ⟨slot, listed, inSlot⟩ := inSlots item List.mem_cons_self
              rcases inductionHypothesis slot listed item inSlot laid held with old | good
              · exact restHypothesis before middle
                  (fun later member => inSlots later (List.mem_cons_of_mem _ member)) restLaid old
              · exact .inr good
        have inSlots : ∀ item ∈ slots.flatMap (·.2), ∃ slot ∈ slots, item ∈ slot.2 :=
          fun item member => List.mem_flatMap.mp member
        rcases items _ _ _ inSlots done found with old | good
        · rw [Table.find?_insert] at old
          split at old
          · cases old
            exact .inr (Schema.declared_of_typeId? declared)
          · exact .inl old
        · exact .inr good

/-- A document that was laid out has declared types only. -/
theorem declared_of_ofRecord {id : DocumentId} {location : String} {record : NodeRecord}
    (done : ofRecord id location record schema = .ok doc) : doc.Declared schema := by
  unfold ofRecord at done
  split at done
  · cases done
  · next nodes laid =>
    cases done
    intro wanted node found
    rcases declared_of_layOut laid found with old | declared
    · cases old
    · exact declared

/-- Documents with declared types and the same record look alike.

Proof: a node of either is a node of the record, which both represent: there its attributes
and its filled slots stand, and its type is the one of the name that stands there. -/
theorem alike_of_toRecord_eq (sound : doc.Sound) (otherSound : other.Sound)
    (named : schema.DistinctNames) (declared : doc.Declared schema)
    (otherDeclared : other.Declared schema)
    (same : other.toRecord schema = doc.toRecord schema) : doc.Alike other := by
  obtain ⟨represents, rooted, -, -, -, members, -⟩ := sound.record schema
  obtain ⟨otherRepresents, otherRooted, -, -, -, otherMembers, -⟩ := otherSound.record schema
  rw [same] at otherRepresents otherRooted otherMembers
  refine ⟨otherRooted.symm.trans rooted, ?_, ?_⟩
  · intro id node found
    have inRecord : id ∈ (doc.toRecord schema).ids :=
      (members id).mpr ((Table.contains_iff _ _).mpr ⟨node, found⟩)
    obtain ⟨item, below, itsId⟩ := List.mem_map.mp inRecord
    obtain ⟨above, held⟩ := represents.of_mem_subtree below
    obtain ⟨otherAbove, otherHeld⟩ := otherRepresents.of_mem_subtree below
    obtain ⟨itemId, typeName, attributes, slots⟩ := item
    change itemId = id at itsId
    subst itsId
    cases held with
    | @holds _ _ _ _ _ here hereFound typed _ described filed =>
      cases otherHeld with
      | @holds _ _ _ _ _ there thereFound otherTyped _ otherDescribed otherFiled =>
        have isNode : here = node := Option.some.inj (hereFound.symm.trans found)
        subst isNode
        refine ⟨there, thereFound, ?_, otherDescribed.trans described.symm, fun name => ?_⟩
        · have byName := Schema.typeId?_typeName named (declared _ _ hereFound)
          rw [typed, ← otherTyped,
            Schema.typeId?_typeName named (otherDeclared _ _ thereFound)] at byName
          exact Option.some.inj byName
        · rw [Node.slot_eq_filledSlots, otherFiled, ← filed, ← Node.slot_eq_filledSlots]
  · intro id absent
    have outside : ¬ id ∈ (doc.toRecord schema).ids := by
      intro inRecord
      obtain ⟨node, found⟩ := (Table.contains_iff _ _).mp ((members id).mp inRecord)
      rw [Document.node?, found] at absent
      cases absent
    rw [otherMembers id, Bool.not_eq_true] at outside
    exact (Table.not_contains_iff _ _).mp outside

namespace Alike

variable (alike : doc.Alike other)

include alike

/-- It lists the same children in the same order. -/
theorem children (parent : NodeId) (slot : String) :
    other.children parent slot = doc.children parent slot := by
  unfold Document.children
  cases found : doc.node? parent with
  | none => rw [alike.absent found]
  | some node =>
    obtain ⟨held, heldFound, looks⟩ := alike.node found
    simp only [heldFound, looks.slot]

/-- It has the same attributes. -/
theorem attribute? (id : NodeId) (name : String) :
    other.attribute? id name = doc.attribute? id name := by
  unfold Document.attribute?
  cases found : doc.node? id with
  | none => rw [alike.absent found]
  | some node =>
    obtain ⟨held, heldFound, looks⟩ := alike.node found
    simp only [heldFound, Option.bind_some, looks.attributes]

/-- Its nodes have the same types. -/
theorem adaptsTo (id : NodeId) (tag : TypeId) :
    other.adaptsTo schema id tag = doc.adaptsTo schema id tag := by
  unfold Document.adaptsTo
  cases found : doc.node? id with
  | none => rw [alike.absent found]
  | some node =>
    obtain ⟨held, heldFound, looks⟩ := alike.node found
    simp only [heldFound, looks.type]

/-- Its root is of the same type. -/
theorem rootType? : other.rootType? = doc.rootType? := by
  unfold Document.rootType?
  rw [alike.root]
  cases found : doc.node? doc.root with
  | none => rw [alike.absent found]
  | some node =>
    obtain ⟨held, heldFound, looks⟩ := alike.node found
    simp only [heldFound, Option.map_some, looks.type]

end Alike

end Document

end LevelGraph
