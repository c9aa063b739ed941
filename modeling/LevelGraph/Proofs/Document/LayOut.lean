import LevelGraph.Proofs.Document.Represent

/-!
# Laying out records

A record is laid out exactly when its types are declared and no identifier occurs twice, in
the record or among the nodes laid out before. What comes out represents the record, and the
other nodes are as they were. The slots of a node are laid out like one list of all nodes in
them, so one induction over lists of nodes and one over records carry everything.

A table that represents a record and holds nothing else is a tree, so a document that is laid
out is sound, and its own record is the one it was laid out from, without the empty slots.
-/

namespace LevelGraph

/-- The name of a type found by name is that name. -/
theorem Schema.typeName_of_typeId? {schema : Schema} {name : String} {type : TypeId}
    (found : schema.typeId? name = some type) : schema.typeName type = name := by
  obtain ⟨index, place, same⟩ := Option.map_eq_some_iff.mp found
  subst same
  obtain ⟨inside, here, _⟩ := List.findIdx?_eq_some_iff_getElem.mp place
  simp only [Schema.typeName, Schema.typeDef?, List.getElem?_eq_getElem inside]
  exact eq_of_beq here

/-- Every type named in a record is declared. -/
def Schema.Declares (schema : Schema) (record : NodeRecord) : Prop :=
  ∀ node ∈ record.subtree, ∃ type, schema.typeId? node.typeName = some type

namespace Document

variable {schema : Schema} {nodes result : Table NodeId Node} {parent : Option NodeId}

/-- A represented record's nodes are all there. -/
theorem Represents.found {record : NodeRecord} (held : Represents schema nodes parent record)
    {wanted : NodeId} (member : wanted ∈ record.ids) : ∃ node, nodes.find? wanted = some node := by
  induction record using NodeRecord.induct generalizing parent with
  | step id typeName attributes slots inductionHypothesis =>
    cases held with
    | @holds _ _ _ _ _ node found typed named described filed below =>
      rw [NodeRecord.ids_eq, List.mem_cons] at member
      rcases member with same | inside
      · exact ⟨node, same ▸ found⟩
      · obtain ⟨slot, listed, inSlot⟩ := List.mem_flatMap.mp inside
        obtain ⟨item, held, inItem⟩ := List.mem_flatMap.mp inSlot
        exact inductionHypothesis slot listed item held (below slot listed item held) inItem

/-- Only the nodes of a record matter for its being represented. -/
theorem Represents.congr {record : NodeRecord} (held : Represents schema nodes parent record)
    (same : ∀ id ∈ record.ids, result.find? id = nodes.find? id) :
    Represents schema result parent record := by
  induction record using NodeRecord.induct generalizing parent with
  | step id typeName attributes slots inductionHypothesis =>
    cases held with
    | @holds _ _ _ _ _ node found typed named described filed below =>
      refine .holds ((same id (NodeRecord.id_mem_ids _)).trans found) typed named described filed ?_
      intro slot listed item held
      refine inductionHypothesis slot listed item held (below slot listed item held) ?_
      intro wanted member
      exact same wanted ((NodeRecord.ids_sublist_of_item
        ⟨id, typeName, attributes, slots⟩ listed held).subset member)

/-- New identifiers, each once, have been added to a table that is otherwise unchanged. -/
structure Added (ids : List NodeId) (nodes result : Table NodeId Node) : Prop where
  /-- No identifier occurs twice. -/
  distinct : ids.Nodup
  /-- None was there before. -/
  new : ∀ id ∈ ids, nodes.find? id = none
  /-- The others are as they were. -/
  others : ∀ id, id ∉ ids → result.find? id = nodes.find? id

namespace Added

variable {front back ids : List NodeId} {middle : Table NodeId Node} {id : NodeId} {node : Node}

/-- To add nothing is to change nothing. -/
theorem nil (nodes : Table NodeId Node) : Added [] nodes nodes :=
  ⟨List.nodup_nil, fun _ member => absurd member List.not_mem_nil, fun _ _ => rfl⟩

/-- A node written under a new identifier is all that is added. -/
theorem single (new : nodes.find? id = none) : Added [id] nodes (nodes.insert id node) := by
  refine ⟨List.nodup_singleton id, fun wanted member => ?_, fun wanted absent => ?_⟩
  · rw [List.mem_singleton.mp member, new]
  · rw [Table.find?_insert, if_neg fun same => absent (List.mem_singleton.mpr same)]

/-- In what order they were added does not show. -/
theorem perm (added : Added front nodes result) (same : front.Perm back) : Added back nodes result :=
  ⟨same.nodup_iff.mp added.distinct, fun id member => added.new id (same.mem_iff.mpr member),
    fun id absent => added.others id fun member => absent (same.mem_iff.mp member)⟩

/-- What is added is none of what is there. -/
theorem apart (added : Added front middle result)
    (held : ∀ id ∈ back, ∃ node, middle.find? id = some node) : ∀ id ∈ front, id ∉ back := by
  intro id member again
  obtain ⟨node, found⟩ := held id again
  rw [added.new id member] at found
  cases found

/-- What is added first and is there then is added together with what follows. -/
theorem append (first : Added back nodes middle)
    (held : ∀ id ∈ back, ∃ node, middle.find? id = some node)
    (second : Added front middle result) : Added (front ++ back) nodes result := by
  have apart := second.apart held
  refine ⟨?_, ?_, ?_⟩
  · exact List.nodup_append.mpr ⟨second.distinct, first.distinct,
      fun id member other again same => apart id member (same ▸ again)⟩
  · intro id member
    rcases List.mem_append.mp member with inFront | inBack
    · rw [← first.others id (apart id inFront)]
      exact second.new id inFront
    · exact first.new id inBack
  · intro id absent
    rw [List.mem_append, not_or] at absent
    rw [second.others id absent.1, first.others id absent.2]

/-- A node is added together with what is added after it. -/
theorem cons (new : nodes.find? id = none) (below : Added ids (nodes.insert id node) result) :
    Added (id :: ids) nodes result := by
  have held : ∀ wanted ∈ [id], ∃ held, (nodes.insert id node).find? wanted = some held := by
    intro wanted member
    exact ⟨node, by rw [List.mem_singleton.mp member, Table.find?_insert, if_pos rfl]⟩
  exact ((single new).append held below).perm (List.perm_append_singleton id ids)

end Added

/-- Laying out goes through two lists of nodes from the second to the first. -/
theorem layOutItems_append (schema : Schema) (owner : NodeId) (front back : List NodeRecord)
    (nodes : Table NodeId Node) :
    layOutItems schema owner (front ++ back) nodes =
      match layOutItems schema owner back nodes with
      | .error error => .error error
      | .ok nodes => layOutItems schema owner front nodes := by
  induction front with
  | nil =>
    rw [List.nil_append]
    cases layOutItems schema owner back nodes with
    | error => rfl
    | ok middle => simp only [layOutItems]
  | cons record rest inductionHypothesis =>
    rw [List.cons_append, layOutItems, inductionHypothesis]
    cases layOutItems schema owner back nodes with
    | error => rfl
    | ok middle => simp only [layOutItems]

/-- Slots are laid out like all their nodes in one list. -/
theorem layOutSlots_eq (schema : Schema) (owner : NodeId)
    (slots : List (String × List NodeRecord)) (nodes : Table NodeId Node) :
    layOutSlots schema owner slots nodes =
      layOutItems schema owner (slots.flatMap (·.2)) nodes := by
  induction slots with
  | nil => rfl
  | cons slot rest inductionHypothesis =>
    obtain ⟨name, items⟩ := slot
    have apart := layOutItems_append schema owner items (rest.flatMap (·.2)) nodes
    rw [← inductionHypothesis] at apart
    exact apart.symm

/-- The slots of a node as it is laid out are those of its record. -/
theorem entries_slotIds {slots : List (String × List NodeRecord)}
    (ordered : Entries.Ascending slots) :
    (slotIds slots).entries = slots.map NodeRecord.slotOfIds := by
  have still : Entries.Ascending (slots.map NodeRecord.slotOfIds) := List.pairwise_map.mpr ordered
  exact (Table.entries_ofList _).trans (Entries.ofList_eq_self still)

/-- What laying out one record does, in the form in which lists of records use it. -/
structure LaidOut (schema : Schema) (parent : Option NodeId) (records : List NodeRecord)
    (nodes result : Table NodeId Node) : Prop where
  /-- The identifiers of the records have been added. -/
  added : Added (records.flatMap NodeRecord.ids) nodes result
  /-- All their types are declared. -/
  declared : ∀ record ∈ records, schema.Declares record
  /-- The table represents each of them. -/
  held : ∀ record ∈ records, Represents schema result parent record

/-- Nodes of a list that are laid out one after the other are laid out together. A later
node's identifiers are none of an earlier one's, since those are in the table by then. -/
theorem laidOut_items {owner : NodeId} {items : List NodeRecord}
    (each : ∀ item ∈ items, ∀ before after, layOut schema (some owner) item before = .ok after →
      LaidOut schema (some owner) [item] before after)
    (done : layOutItems schema owner items nodes = .ok result) :
    LaidOut schema (some owner) items nodes result := by
  induction items generalizing result with
  | nil =>
    rw [layOutItems, Except.ok.injEq] at done
    subst done
    refine ⟨.nil nodes, ?_, ?_⟩
    all_goals exact fun _ member => absurd member List.not_mem_nil
  | cons record rest inductionHypothesis =>
    rw [layOutItems] at done
    split at done
    · cases done
    · next middle first =>
      have later := inductionHypothesis
        (fun item member => each item (List.mem_cons_of_mem _ member)) first
      have here := each record List.mem_cons_self middle result done
      have inMiddle : ∀ id ∈ rest.flatMap NodeRecord.ids, ∃ node, middle.find? id = some node := by
        intro id member
        obtain ⟨item, listed, inItem⟩ := List.mem_flatMap.mp member
        exact (later.held item listed).found inItem
      have added := later.added.append inMiddle here.added
      have apart := here.added.apart inMiddle
      rw [List.flatMap_singleton] at added apart
      refine ⟨added, ?_, ?_⟩
      · intro item member
        rcases List.mem_cons.mp member with same | listed
        · exact same ▸ here.declared record List.mem_cons_self
        · exact later.declared item listed
      · intro item member
        rcases List.mem_cons.mp member with same | listed
        · exact same ▸ here.held record List.mem_cons_self
        · refine (later.held item listed).congr ?_
          intro id inItem
          have inRest : id ∈ rest.flatMap NodeRecord.ids :=
            List.mem_flatMap.mpr ⟨item, listed, inItem⟩
          have outside : id ∉ [record].flatMap NodeRecord.ids := by
            rw [List.flatMap_singleton]
            exact fun inRecord => apart id inRecord inRest
          exact here.added.others id outside

/-- A record laid out is represented, all its types are declared, and its identifiers are
new and distinct. -/
theorem laidOut_of_layOut {record : NodeRecord} (ordered : record.Ordered)
    (done : layOut schema parent record nodes = .ok result) :
    LaidOut schema parent [record] nodes result := by
  induction record using NodeRecord.induct generalizing parent nodes result with
  | step id typeName attributes slots inductionHypothesis =>
    obtain ⟨ascending, orderedBelow⟩ := (NodeRecord.ordered_iff _ _ _ _).mp ordered
    rw [layOut] at done
    split at done
    · cases done
    · next new =>
      split at done
      · cases done
      · next type declared =>
        rw [layOutSlots_eq] at done
        have absent : nodes.find? id = none :=
          (nodes.not_contains_iff id).mp (by simpa using new)
        have rest := laidOut_items (fun item member before after step => by
          obtain ⟨slot, listed, held⟩ := List.mem_flatMap.mp member
          exact inductionHypothesis slot listed item held (orderedBelow slot listed item held) step)
          done
        have written : (nodes.insert id ⟨type, parent, attributes, slotIds slots⟩).find? id =
            some ⟨type, parent, attributes, slotIds slots⟩ := by
          rw [Table.find?_insert, if_pos rfl]
        have fresh : id ∉ (slots.flatMap (·.2)).flatMap NodeRecord.ids := by
          intro member
          rw [rest.added.new id member] at written
          cases written
        have ids : [(⟨id, typeName, attributes, slots⟩ : NodeRecord)].flatMap NodeRecord.ids =
            id :: (slots.flatMap (·.2)).flatMap NodeRecord.ids := by
          rw [List.flatMap_singleton, NodeRecord.ids_eq, List.flatMap_assoc]
        refine ⟨ids ▸ rest.added.cons absent, ?_, ?_⟩
        · intro record member
          rw [List.mem_singleton] at member
          subst member
          intro node inside
          rw [NodeRecord.subtree_eq, List.mem_cons] at inside
          rcases inside with same | below
          · exact ⟨type, by rw [same, declared]⟩
          · obtain ⟨slot, listed, inSlot⟩ := List.mem_flatMap.mp below
            obtain ⟨item, held, inItem⟩ := List.mem_flatMap.mp inSlot
            exact rest.declared item (List.mem_flatMap.mpr ⟨slot, listed, held⟩) node inItem
        · intro record member
          rw [List.mem_singleton] at member
          subst member
          have typed : schema.typeName type = typeName := Schema.typeName_of_typeId? declared
          refine .holds ((rest.added.others id fresh).trans written) typed rfl rfl ?_ ?_
          · rw [Node.filledSlots, entries_slotIds ascending, List.filter_map]
            refine congrArg (List.map _) (List.filter_congr ?_)
            intro slot _
            simp [NodeRecord.slotOfIds]
          · intro slot listed item held
            exact rest.held item (List.mem_flatMap.mpr ⟨slot, listed, held⟩)

/-- Nodes of a list can be laid out together when each of them can be where its identifiers
are new. -/
theorem layOutItems_ok {owner : NodeId} {items : List NodeRecord}
    (ordered : ∀ item ∈ items, item.Ordered)
    (each : ∀ item ∈ items, ∀ before : Table NodeId Node,
      (∀ id ∈ item.ids, before.find? id = none) →
        ∃ after, layOut schema (some owner) item before = .ok after)
    (distinct : (items.flatMap NodeRecord.ids).Nodup)
    (new : ∀ id ∈ items.flatMap NodeRecord.ids, nodes.find? id = none) :
    ∃ result, layOutItems schema owner items nodes = .ok result := by
  induction items with
  | nil => exact ⟨nodes, by rw [layOutItems]⟩
  | cons record rest inductionHypothesis =>
    rw [List.flatMap_cons] at distinct new
    obtain ⟨_, distinctRest, apart⟩ := List.nodup_append.mp distinct
    obtain ⟨middle, first⟩ := inductionHypothesis
      (fun item member => ordered item (List.mem_cons_of_mem _ member))
      (fun item member => each item (List.mem_cons_of_mem _ member)) distinctRest
      (fun id member => new id (List.mem_append_right _ member))
    have unchanged := (laidOut_items (fun item member before after step =>
      laidOut_of_layOut (ordered item (List.mem_cons_of_mem _ member)) step) first).added.others
    obtain ⟨result, second⟩ := each record List.mem_cons_self middle (by
      intro id member
      rw [unchanged id fun again => apart id member id again rfl]
      exact new id (List.mem_append_left _ member))
    exact ⟨result, by rw [layOutItems, first]; exact second⟩

/-- A record with declared types and distinct new identifiers can be laid out. -/
theorem layOut_ok {record : NodeRecord} (ordered : record.Ordered)
    (declared : schema.Declares record) (distinct : record.ids.Nodup)
    (new : ∀ id ∈ record.ids, nodes.find? id = none) :
    ∃ result, layOut schema parent record nodes = .ok result := by
  induction record using NodeRecord.induct generalizing parent nodes with
  | step id typeName attributes slots inductionHypothesis =>
    obtain ⟨_, orderedBelow⟩ := (NodeRecord.ordered_iff _ _ _ _).mp ordered
    obtain ⟨type, found⟩ := declared _ (NodeRecord.mem_subtree_self _)
    have absent : nodes.contains id = false :=
      (nodes.not_contains_iff id).mpr (new id (NodeRecord.id_mem_ids _))
    have inSlot : ∀ item ∈ slots.flatMap (·.2), ∃ slot ∈ slots, item ∈ slot.2 :=
      fun item member => List.mem_flatMap.mp member
    rw [NodeRecord.ids_eq, ← List.flatMap_assoc, List.nodup_cons] at distinct
    rw [NodeRecord.ids_eq, ← List.flatMap_assoc] at new
    have laid : ∃ result, layOutItems schema id (slots.flatMap (·.2))
        (nodes.insert id ⟨type, parent, attributes, slotIds slots⟩) = .ok result := layOutItems_ok
      (fun item member => by
        obtain ⟨slot, listed, held⟩ := inSlot item member
        exact orderedBelow slot listed item held)
      (fun item member before newBelow => by
        obtain ⟨slot, listed, held⟩ := inSlot item member
        refine inductionHypothesis slot listed item held (orderedBelow slot listed item held) ?_ ?_
          newBelow
        · intro node inside
          refine declared node ?_
          rw [NodeRecord.subtree_eq]
          exact List.mem_cons_of_mem _ ((NodeRecord.subtree_sublist_of_item listed held).subset inside)
        · exact distinct.2.sublist (List.sublist_flatten_of_mem (List.mem_map_of_mem member)))
      distinct.2
      (fun wanted member => by
        have different : wanted ≠ id := fun same => distinct.1 (same ▸ member)
        rw [Table.find?_insert, if_neg different]
        exact new wanted (List.mem_cons_of_mem _ member))
    obtain ⟨result, done⟩ := laid
    refine ⟨result, ?_⟩
    simp only [layOut, absent, Bool.false_eq_true, if_false, found, layOutSlots_eq]
    exact done

/-- The identifiers of the nodes of a list are among the identifiers below them. -/
theorem map_id_sublist_ids (items : List NodeRecord) :
    (items.map (·.id)).Sublist (items.flatMap NodeRecord.ids) := by
  induction items with
  | nil => exact List.Sublist.slnil
  | cons record rest inductionHypothesis =>
    obtain ⟨id, typeName, attributes, slots⟩ := record
    rw [List.map_cons, List.flatMap_cons, NodeRecord.ids_eq, List.cons_append]
    exact (inductionHypothesis.trans (List.sublist_append_right _ _)).cons_cons _

/-- A node of a represented record has the parent and the children that the record gives it. -/
theorem Represents.linked {record : NodeRecord} (held : Represents schema nodes parent record)
    (distinct : record.ids.Nodup) {wanted : NodeId} {node : Node}
    (member : wanted ∈ record.ids) (found : nodes.find? wanted = some node) :
    ((wanted = record.id ∧ node.parent = parent) ∨
      ∃ owner, node.parent = some owner ∧ Lists nodes owner wanted) ∧
    node.childIds.Nodup ∧
    ∀ child ∈ node.childIds, ∃ below, nodes.find? child = some below ∧ below.parent = some wanted := by
  induction record using NodeRecord.induct generalizing parent with
  | step id typeName attributes slots inductionHypothesis =>
    cases held with
    | @holds _ _ _ _ _ top topFound typed named described filed below =>
      have children := childIds_of_filed filed
      rw [NodeRecord.ids_eq, ← List.flatMap_assoc] at member distinct
      rcases List.mem_cons.mp member with same | inside
      · subst same
        rw [topFound, Option.some.injEq] at found
        subst found
        refine ⟨Or.inl ⟨rfl, named⟩, ?_, ?_⟩
        · rw [children]
          exact (List.nodup_cons.mp distinct).2.sublist (map_id_sublist_ids _)
        · intro child listed
          rw [children] at listed
          obtain ⟨item, inItems, same⟩ := List.mem_map.mp listed
          obtain ⟨slot, inSlots, inSlot⟩ := List.mem_flatMap.mp inItems
          subst same
          cases below slot inSlots item inSlot with
          | holds itemFound _ itemNamed => exact ⟨_, itemFound, itemNamed⟩
      · obtain ⟨item, inItems, inItem⟩ := List.mem_flatMap.mp inside
        obtain ⟨slot, inSlots, inSlot⟩ := List.mem_flatMap.mp inItems
        have distinctItem : item.ids.Nodup :=
          (List.nodup_cons.mp distinct).2.sublist
            (List.sublist_flatten_of_mem (List.mem_map_of_mem inItems))
        obtain ⟨above, once, childrenHeld⟩ := inductionHypothesis slot inSlots item inSlot
          (below slot inSlots item inSlot) distinctItem inItem
        refine ⟨Or.inr ?_, once, childrenHeld⟩
        rcases above with ⟨same, namedSo⟩ | owned
        · refine ⟨id, namedSo, top, topFound, ?_⟩
          rw [children, same]
          exact List.mem_map_of_mem inItems
        · exact owned

/-- A table that represents a record and holds nothing else is a tree. -/
theorem Represents.isTree {record : NodeRecord} (held : Represents schema nodes none record)
    (distinct : record.ids.Nodup)
    (only : ∀ id node, nodes.find? id = some node → id ∈ record.ids) :
    IsTree nodes record.id := by
  refine ⟨?rootHeld, ?listedHeld, ?parentLists, ?listedOnce, ?reached⟩
  case rootHeld =>
    cases held with
    | holds found _ named => exact ⟨_, found, named⟩
  case listedHeld =>
    rintro owner child ⟨node, found, listed⟩
    exact (held.linked distinct (only owner node found) found).2.2 child listed
  case parentLists =>
    intro id node found different
    rcases (held.linked distinct (only id node found) found).1 with ⟨same, _⟩ | owned
    · exact absurd same different
    · exact owned
  case listedOnce =>
    intro id node found
    exact (held.linked distinct (only id node found) found).2.1
  case reached =>
    intro id node found
    exact (held.mem_ids_iff id).mp (only id node found)

/-- What a document laid out from a record is like: its table represents the record and holds
nothing else, and the document is clean and without targets. -/
theorem represents_of_ofRecord {id : DocumentId} {location : String} {record : NodeRecord}
    {doc : Document} (ordered : record.Ordered)
    (done : ofRecord id location record schema = .ok doc) :
    doc.id = id ∧ doc.location = location ∧ doc.root = record.id ∧ doc.targets = Table.empty ∧
      doc.dirty = false ∧ Represents schema doc.nodes none record ∧ record.ids.Nodup ∧
      (∀ wanted node, doc.nodes.find? wanted = some node → wanted ∈ record.ids) ∧
      schema.Declares record := by
  unfold ofRecord at done
  split at done
  · cases done
  · next nodes laid =>
    cases done
    have laidOut := laidOut_of_layOut ordered laid
    have ids : [record].flatMap NodeRecord.ids = record.ids := by simp
    obtain ⟨distinct, _, others⟩ := laidOut.added
    rw [ids] at distinct others
    refine ⟨rfl, rfl, rfl, rfl, rfl, laidOut.held record List.mem_cons_self, distinct, ?_,
      laidOut.declared record List.mem_cons_self⟩
    intro wanted node found
    refine Classical.byContradiction fun absent => ?_
    rw [others wanted absent] at found
    cases found

/-- A document that is laid out is sound. -/
theorem sound_of_ofRecord {id : DocumentId} {location : String} {record : NodeRecord}
    {doc : Document} (ordered : record.Ordered)
    (done : ofRecord id location record schema = .ok doc) : doc.Sound := by
  obtain ⟨_, _, root, targets, _, represents, distinct, only, _⟩ :=
    represents_of_ofRecord ordered done
  refine ⟨root ▸ represents.isTree distinct only, ?_⟩
  intro wanted target held
  rw [targets, Table.find?_empty] at held
  cases held

/-- The record of a document that was laid out is the one it was laid out from, without the
empty slots. -/
theorem toRecord_of_ofRecord {id : DocumentId} {location : String} {record : NodeRecord}
    {doc : Document} (ordered : record.Ordered)
    (done : ofRecord id location record schema = .ok doc) : doc.toRecord schema = record.pruned := by
  obtain ⟨_, _, root, _, _, represents, distinct, only, _⟩ := represents_of_ofRecord ordered done
  obtain ⟨_, _, _, _, _, _, _, gathered⟩ := (sound_of_ofRecord ordered done).record schema
  have enough := gathered (doc.size + record.nodeCount) (Nat.le_add_right _ _)
  rw [root, represents.gather (Nat.le_add_left _ _), Option.some.injEq] at enough
  exact enough.symm

/-- Every record with declared types and distinct identifiers can be laid out as a document. -/
theorem ofRecord_ok (id : DocumentId) (location : String) {record : NodeRecord}
    (ordered : record.Ordered) (declared : schema.Declares record) (distinct : record.ids.Nodup) :
    ∃ doc, ofRecord id location record schema = .ok doc := by
  have done : ∃ nodes, layOut schema none record Table.empty = .ok nodes :=
    layOut_ok ordered declared distinct fun _ _ => rfl
  obtain ⟨nodes, laid⟩ := done
  exact ⟨_, by rw [ofRecord, laid]⟩

end Document

end LevelGraph
