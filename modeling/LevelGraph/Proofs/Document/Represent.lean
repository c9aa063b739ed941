import LevelGraph.Document.Persisted
import LevelGraph.Proofs.Document.Change
import LevelGraph.Proofs.Records
import Mathlib.Data.Fintype.Defs
import Mathlib.Data.Fintype.EquivFin
import Mathlib.Order.WellFounded

/-!
# Tables and the records they hold

A table of nodes represents a record when it holds every node of the record under the same
identifier, with the same attributes, a type of the same name, and slots that list the same
children; slots that list none do not count. This is the one relation between the two forms
of a tree. Gathering reads the record off the table, laying out makes a table that represents
the record, and two tables that represent one record look alike.

A tree represents a record whose identifiers are the keys of the table, each once. So
gathering it down as many levels as it has nodes, or more, loses nothing and meets no
missing node.
-/

namespace LevelGraph

/-- The slots of a node that list any node. -/
def Node.filledSlots (node : Node) : List (String × List NodeId) :=
  node.children.entries.filter fun slot => !slot.2.isEmpty

/-- Empty slots list no children. -/
theorem Node.childIds_eq_filledSlots (node : Node) :
    node.childIds = node.filledSlots.flatMap (·.2) := by
  unfold Node.childIds Node.filledSlots
  induction node.children.entries with
  | nil => rfl
  | cons slot rest inductionHypothesis =>
    obtain ⟨name, _ | ⟨id, ids⟩⟩ := slot
    · simpa using inductionHypothesis
    · simpa using inductionHypothesis

/-- A slot of a record as it stands in a table, with identifiers in place of records. -/
def NodeRecord.slotOfIds (slot : String × List NodeRecord) : String × List NodeId :=
  (slot.1, slot.2.map (·.id))

namespace Document

/-- A table holds a record and all below it, the record under a given parent. -/
inductive Represents (schema : Schema) (nodes : Table NodeId Node) :
    Option NodeId → NodeRecord → Prop where
  /-- The node is there as recorded, and so are the nodes in its slots. -/
  | holds {parent : Option NodeId} {id : NodeId} {typeName : String}
      {attributes : Table String String} {slots : List (String × List NodeRecord)} {node : Node}
      (found : nodes.find? id = some node) (typed : schema.typeName node.type = typeName)
      (named : node.parent = parent) (described : node.attributes = attributes)
      (filed : node.filledSlots =
        (slots.filter fun slot => !slot.2.isEmpty).map NodeRecord.slotOfIds)
      (below : ∀ slot ∈ slots, ∀ item ∈ slot.2, Represents schema nodes (some id) item) :
      Represents schema nodes parent ⟨id, typeName, attributes, slots⟩

variable {schema : Schema} {nodes : Table NodeId Node} {parent : Option NodeId}

/-- Slots without nodes contribute nothing to what is gathered. -/
theorem gatherSlots?_filter (gather? : NodeId → Option NodeRecord)
    (slots : List (String × List NodeId)) :
    gatherSlots? gather? slots = gatherSlots? gather? (slots.filter fun slot => !slot.2.isEmpty) := by
  induction slots with
  | nil => rfl
  | cons slot rest inductionHypothesis =>
    obtain ⟨name, _ | ⟨id, ids⟩⟩ := slot
    · simpa [gatherSlots?] using inductionHypothesis
    · simp [gatherSlots?, inductionHypothesis]

/-- Nodes that are gathered one by one are gathered together. -/
theorem mapM_gather {gather? : NodeId → Option NodeRecord} {look : NodeRecord → NodeRecord}
    {items : List NodeRecord} (gathered : ∀ item ∈ items, gather? item.id = some (look item)) :
    (items.map (·.id)).mapM gather? = some (items.map look) := by
  induction items with
  | nil => rfl
  | cons record rest inductionHypothesis =>
    have later := inductionHypothesis fun item member => gathered item (List.mem_cons_of_mem _ member)
    simp [gathered record List.mem_cons_self, later]

/-- Slots whose nodes are gathered one by one are gathered together. -/
theorem gatherSlots?_slotOfIds {gather? : NodeId → Option NodeRecord}
    {look : NodeRecord → NodeRecord} {slots : List (String × List NodeRecord)}
    (filled : ∀ slot ∈ slots, slot.2 ≠ [])
    (gathered : ∀ slot ∈ slots, ∀ item ∈ slot.2, gather? item.id = some (look item)) :
    gatherSlots? gather? (slots.map NodeRecord.slotOfIds) =
      some (slots.map fun slot => (slot.1, slot.2.map look)) := by
  induction slots with
  | nil => rfl
  | cons slot rest inductionHypothesis =>
    have later := inductionHypothesis (fun slot member => filled slot (List.mem_cons_of_mem _ member))
      fun slot member => gathered slot (List.mem_cons_of_mem _ member)
    obtain ⟨name, _ | ⟨record, items⟩⟩ := slot
    · exact absurd rfl (filled _ List.mem_cons_self)
    · have here := mapM_gather (gathered _ List.mem_cons_self)
      simp only [List.map_cons, NodeRecord.slotOfIds] at here later ⊢
      rw [gatherSlots?, here, later]

/-- Nodes gathered together are each gathered. -/
theorem exists_of_mem_mapM {gather? : NodeId → Option NodeRecord} {ids : List NodeId}
    {items : List NodeRecord} (done : ids.mapM gather? = some items) :
    ∀ item ∈ items, ∃ id ∈ ids, gather? id = some item := by
  induction ids generalizing items with
  | nil =>
    cases done
    exact fun _ listed => nomatch listed
  | cons id rest inductionHypothesis =>
    rw [List.mapM_cons] at done
    obtain ⟨record, here, done⟩ := Option.bind_eq_some_iff.mp done
    obtain ⟨later, there, done⟩ := Option.bind_eq_some_iff.mp done
    cases done
    refine List.forall_mem_cons.mpr ⟨⟨id, List.mem_cons_self, here⟩, fun item listed => ?_⟩
    obtain ⟨other, inside, found⟩ := inductionHypothesis there item listed
    exact ⟨other, List.mem_cons_of_mem _ inside, found⟩

/-- Gathered slots keep their order, and what is in them was gathered. -/
theorem spec_of_gatherSlots? {gather? : NodeId → Option NodeRecord}
    {slots : List (String × List NodeId)} {gathered : List (String × List NodeRecord)}
    (done : gatherSlots? gather? slots = some gathered) :
    (gathered.map (·.1)).Sublist (slots.map (·.1)) ∧
      ∀ slot ∈ gathered, ∀ item ∈ slot.2, ∃ id, gather? id = some item := by
  induction slots generalizing gathered with
  | nil =>
    cases done
    exact ⟨.slnil, fun _ listed => nomatch listed⟩
  | cons slot rest inductionHypothesis =>
    obtain ⟨name, _ | ⟨id, ids⟩⟩ := slot
    · obtain ⟨sublist, each⟩ := inductionHypothesis done
      exact ⟨sublist.cons _, each⟩
    · rw [gatherSlots?] at done
      split at done
      · next items later here there =>
        cases done
        obtain ⟨sublist, each⟩ := inductionHypothesis there
        refine ⟨sublist.cons_cons _, List.forall_mem_cons.mpr ⟨fun item listed => ?_, each⟩⟩
        obtain ⟨child, -, found⟩ := exists_of_mem_mapM here item listed
        exact ⟨child, found⟩
      · cases done

/-- Whatever is gathered has its slots in order. -/
theorem ordered_of_gather? {schema : Schema} {nodes : Table NodeId Node} {levels : Nat} {id : NodeId}
    {record : NodeRecord} (done : gather? schema nodes levels id = some record) : record.Ordered := by
  induction levels generalizing id record with
  | zero => cases done
  | succ levels inductionHypothesis =>
    rw [gather?] at done
    split at done
    · cases done
    · next node found =>
      split at done
      · cases done
      · next slots gathered =>
        cases done
        obtain ⟨sublist, each⟩ := spec_of_gatherSlots? gathered
        refine (NodeRecord.ordered_iff ..).mpr ⟨?_, fun slot listed item held => ?_⟩
        · have names : (node.children.entries.map (·.1)).Pairwise
              fun first second => KeyOrder.before first second = true :=
            List.pairwise_map.mpr node.children.ascending
          exact List.pairwise_map.mp (names.sublist sublist)
        · obtain ⟨child, found⟩ := each slot listed item held
          exact inductionHypothesis found

/-- So has the record of any document. -/
theorem ordered_toRecord (doc : Document) (schema : Schema) : (doc.toRecord schema).Ordered := by
  rw [toRecord]
  cases gathered : doc.record? schema with
  | none => exact (NodeRecord.ordered_iff ..).mpr ⟨.nil, fun _ listed => nomatch listed⟩
  | some record => exact ordered_of_gather? gathered

/-- Enough levels gather the record that a table represents, without its empty slots. The
induction is on the record: a node in a slot has fewer nodes below it than its owner, so one
level less is enough for it. -/
theorem Represents.gather {record : NodeRecord} (held : Represents schema nodes parent record)
    {levels : Nat} (enough : record.nodeCount ≤ levels) :
    gather? schema nodes levels record.id = some record.pruned := by
  induction record using NodeRecord.induct generalizing parent levels with
  | step id typeName attributes slots inductionHypothesis =>
    cases held with
    | @holds _ _ _ _ _ node found typed named described filed below =>
      cases levels with
      | zero =>
        rw [NodeRecord.nodeCount_eq_length_subtree, NodeRecord.subtree_eq] at enough
        cases enough
      | succ levels =>
        have gathered : ∀ slot ∈ slots.filter (fun slot => !slot.2.isEmpty), ∀ item ∈ slot.2,
            gather? schema nodes levels item.id = some item.pruned := by
          intro slot member item inside
          have listed := List.mem_of_mem_filter member
          have fewer := NodeRecord.nodeCount_lt_of_item
            ⟨id, typeName, attributes, slots⟩ listed inside
          exact inductionHypothesis slot listed item inside (below slot listed item inside)
            (by omega)
        have filled : ∀ slot ∈ slots.filter (fun slot => !slot.2.isEmpty), slot.2 ≠ [] := by
          intro slot member
          simpa using (List.mem_filter.mp member).2
        have all := gatherSlots?_slotOfIds filled gathered
        rw [← filed, Node.filledSlots, ← gatherSlots?_filter] at all
        simp only [gather?, found, all, typed, described, NodeRecord.pruned_eq]

/-- The children of a represented node are the nodes in the record's slots. -/
theorem childIds_of_filed {node : Node} {slots : List (String × List NodeRecord)}
    (filed : node.filledSlots = (slots.filter fun slot => !slot.2.isEmpty).map NodeRecord.slotOfIds) :
    node.childIds = (slots.flatMap (·.2)).map (·.id) := by
  rw [Node.childIds_eq_filledSlots, filed]
  clear filed
  induction slots with
  | nil => rfl
  | cons slot rest inductionHypothesis =>
    obtain ⟨name, _ | ⟨record, items⟩⟩ := slot
    · simpa using inductionHypothesis
    · simpa [NodeRecord.slotOfIds] using inductionHypothesis

/-- The identifiers of a represented record are those below its own in the table. -/
theorem Represents.mem_ids_iff {record : NodeRecord}
    (held : Represents schema nodes parent record) (wanted : NodeId) :
    wanted ∈ record.ids ↔ Below nodes record.id wanted := by
  induction record using NodeRecord.induct generalizing parent with
  | step id typeName attributes slots inductionHypothesis =>
    cases held with
    | @holds _ _ _ _ _ node found typed named described filed below =>
      have children := childIds_of_filed filed
      rw [NodeRecord.ids_eq, List.mem_cons]
      constructor
      · rintro (same | inside)
        · exact same ▸ .refl
        · obtain ⟨slot, listed, inSlot⟩ := List.mem_flatMap.mp inside
          obtain ⟨item, member, inItem⟩ := List.mem_flatMap.mp inSlot
          have link : Lists nodes id item.id := by
            refine ⟨node, found, ?_⟩
            rw [children]
            exact List.mem_map_of_mem (List.mem_flatMap.mpr ⟨slot, listed, member⟩)
          exact .head link ((inductionHypothesis slot listed item member
            (below slot listed item member)).mp inItem)
      · intro reached
        rcases reached.cases_head with same | ⟨child, ⟨held, heldFound, listed⟩, onward⟩
        · exact Or.inl same.symm
        · rw [found, Option.some.injEq] at heldFound
          subst heldFound
          rw [children] at listed
          obtain ⟨item, member, same⟩ := List.mem_map.mp listed
          obtain ⟨slot, inSlots, inSlot⟩ := List.mem_flatMap.mp member
          subst same
          have inItem := (inductionHypothesis slot inSlots item inSlot
            (below slot inSlots item inSlot)).mpr onward
          exact Or.inr (List.mem_flatMap.mpr
            ⟨slot, inSlots, List.mem_flatMap.mpr ⟨item, inSlot, inItem⟩⟩)

/-- A record that a tree represents has no identifier twice: different children have nothing
below them in common, and nothing is below itself. -/
theorem Represents.nodup_ids {root : NodeId} {record : NodeRecord}
    (held : Represents schema nodes parent record) (tree : IsTree nodes root) :
    record.ids.Nodup := by
  induction record using NodeRecord.induct generalizing parent with
  | step id typeName attributes slots inductionHypothesis =>
    have whole := held
    cases held with
    | @holds _ _ _ _ _ node found typed named described filed below =>
      have children := childIds_of_filed filed
      have link : ∀ item ∈ slots.flatMap (·.2), Lists nodes id item.id := by
        intro item member
        exact ⟨node, found, children ▸ List.mem_map_of_mem member⟩
      have heldItem : ∀ item ∈ slots.flatMap (·.2), Represents schema nodes (some id) item := by
        intro item member
        obtain ⟨slot, listed, inside⟩ := List.mem_flatMap.mp member
        exact below slot listed item inside
      have regrouped : slots.flatMap (fun slot => slot.2.flatMap NodeRecord.ids) =
          (slots.flatMap (·.2)).flatMap NodeRecord.ids := (List.flatMap_assoc).symm
      rw [NodeRecord.ids_eq, regrouped, List.nodup_cons]
      constructor
      · intro member
        obtain ⟨item, listed, inItem⟩ := List.mem_flatMap.mp member
        have around := ((heldItem item listed).mem_ids_iff id).mp inItem
        exact tree.acyclic id (Relation.TransGen.head' (link item listed) around)
      · rw [List.nodup_flatMap]
        constructor
        · intro item member
          obtain ⟨slot, listed, inside⟩ := List.mem_flatMap.mp member
          exact inductionHypothesis slot listed item inside (below slot listed item inside)
        · have distinct : ((slots.flatMap (·.2)).map (·.id)).Nodup := children ▸ tree.listedOnce found
          refine (List.pairwise_map.mp distinct).imp_of_mem ?_
          intro first second firstListed secondListed different wanted inFirst inSecond
          exact different (tree.eq_of_below_siblings (link first firstListed)
            (link second secondListed) (((heldItem first firstListed).mem_ids_iff wanted).mp inFirst)
            (((heldItem second secondListed).mem_ids_iff wanted).mp inSecond))

/-- There are finitely many identifiers. -/
instance : Finite Uuid :=
  Finite.of_injective (fun id : Uuid => (⟨id.value, id.bounded⟩ : Fin (1 <<< 128))) <| by
    rintro ⟨first, _⟩ ⟨second, _⟩ same
    simpa using same

/-- Going down a tree ends. -/
theorem IsTree.wellFounded {root : NodeId} (tree : IsTree nodes root) :
    WellFounded fun child top : NodeId => Relation.TransGen (Lists nodes) top child := by
  have : IsTrans NodeId fun child top => Relation.TransGen (Lists nodes) top child :=
    ⟨fun _ _ _ lower upper => upper.trans lower⟩
  have : Std.Irrefl fun child top : NodeId => Relation.TransGen (Lists nodes) top child :=
    ⟨tree.acyclic⟩
  exact Finite.wellFounded_of_trans_of_irrefl _

end Document

namespace Node

/-- The slots of a node's record, given the records of its children. -/
def recordSlots (node : Node) (recordOf : NodeId → NodeRecord) : List (String × List NodeRecord) :=
  node.filledSlots.map fun slot => (slot.1, slot.2.map recordOf)

variable {node : Node} {recordOf : NodeId → NodeRecord}

/-- A filled slot lists children of its node. -/
theorem mem_childIds_of_mem_filledSlots {slot : String × List NodeId} {child : NodeId}
    (listed : slot ∈ node.filledSlots) (member : child ∈ slot.2) : child ∈ node.childIds := by
  rw [childIds_eq_filledSlots]
  exact List.mem_flatMap.mpr ⟨slot, listed, member⟩

/-- None of the slots is empty. -/
theorem filled_recordSlots :
    (node.recordSlots recordOf).filter (fun slot => !slot.2.isEmpty) =
      node.recordSlots recordOf := by
  refine List.filter_eq_self.mpr ?_
  intro slot member
  obtain ⟨old, listed, same⟩ := List.mem_map.mp member
  have nonempty := (List.mem_filter.mp listed).2
  subst same
  simpa using nonempty

/-- What stands in the slots are records of children. -/
theorem of_mem_recordSlots {slot : String × List NodeRecord} {item : NodeRecord}
    (member : slot ∈ node.recordSlots recordOf) (held : item ∈ slot.2) :
    ∃ child ∈ node.childIds, recordOf child = item := by
  obtain ⟨old, listed, same⟩ := List.mem_map.mp member
  subst same
  obtain ⟨child, inSlot, same⟩ := List.mem_map.mp held
  exact ⟨child, mem_childIds_of_mem_filledSlots listed inSlot, same⟩

/-- The slots list the children, if each record names its child. -/
theorem slotOfIds_recordSlots (names : ∀ child ∈ node.childIds, (recordOf child).id = child) :
    (node.recordSlots recordOf).map NodeRecord.slotOfIds = node.filledSlots := by
  rw [recordSlots, List.map_map]
  refine (List.map_congr_left ?_).trans (List.map_id _)
  intro slot listed
  have same : (slot.2.map recordOf).map (·.id) = slot.2 := by
    rw [List.map_map]
    refine (List.map_congr_left ?_).trans (List.map_id _)
    intro child member
    exact names child (mem_childIds_of_mem_filledSlots listed member)
  exact Prod.ext rfl same

/-- There is nothing to prune in the slots, if there is nothing in the records. -/
theorem pruned_recordSlots
    (pruned : ∀ child ∈ node.childIds, (recordOf child).pruned = recordOf child) :
    (node.recordSlots recordOf).map (fun slot => (slot.1, slot.2.map NodeRecord.pruned)) =
      node.recordSlots recordOf := by
  refine (List.map_congr_left ?_).trans (List.map_id _)
  intro slot member
  refine Prod.ext rfl ((List.map_congr_left ?_).trans (List.map_id _))
  intro item held
  obtain ⟨child, listed, same⟩ := of_mem_recordSlots member held
  rw [← same, pruned child listed]
  rfl

end Node

namespace Document

variable {nodes : Table NodeId Node}

/-- Every node of a tree has a record that the table represents. Its slots are ordered and
none is empty.

Proof: induction down the tree. The records of the children make the slots. -/
theorem IsTree.represents_below {root : NodeId} (tree : IsTree nodes root) (schema : Schema)
    (id : NodeId) : ∀ node, nodes.find? id = some node →
      ∃ record : NodeRecord, record.id = id ∧ Represents schema nodes node.parent record ∧
        record.Ordered ∧ record.pruned = record := by
  induction id using tree.wellFounded.induction with
  | _ id inductionHypothesis =>
    intro node found
    have childHeld : ∀ child : NodeId, ∃ record : NodeRecord, child ∈ node.childIds →
        record.id = child ∧ Represents schema nodes (some id) record ∧ record.Ordered ∧
          record.pruned = record := by
      intro child
      by_cases listed : child ∈ node.childIds
      · have link : Lists nodes id child := ⟨node, found, listed⟩
        obtain ⟨held, heldFound, named⟩ := tree.listedHeld link
        obtain ⟨record, same, represents, rest⟩ :=
          inductionHypothesis child (.single link) held heldFound
        exact ⟨record, fun _ => ⟨same, named ▸ represents, rest⟩⟩
      · exact ⟨default, fun inside => absurd inside listed⟩
    choose recordOf spec using childHeld
    have back := Node.slotOfIds_recordSlots fun child listed => (spec child listed).1
    refine ⟨⟨id, schema.typeName node.type, node.attributes, node.recordSlots recordOf⟩, rfl,
      ?_, ?_, ?_⟩
    · refine .holds found rfl rfl rfl (by rw [Node.filled_recordSlots, back]) ?_
      intro slot member item held
      obtain ⟨child, listed, same⟩ := Node.of_mem_recordSlots member held
      exact same ▸ (spec child listed).2.1
    · rw [NodeRecord.ordered_iff]
      constructor
      · exact List.pairwise_map.mpr (List.Pairwise.filter _ node.children.ascending)
      · intro slot member item held
        obtain ⟨child, listed, same⟩ := Node.of_mem_recordSlots member held
        exact same ▸ (spec child listed).2.2.1
    · rw [NodeRecord.pruned_eq, Node.filled_recordSlots,
        Node.pruned_recordSlots fun child listed => (spec child listed).2.2.2]

/-- The record of a sound document. The document's table represents it, every node occurs in
it once, and it is what gathering yields, with as many levels as there are nodes or more. -/
theorem Sound.record {doc : Document} (sound : doc.Sound) (schema : Schema) :
    Represents schema doc.nodes none (doc.toRecord schema) ∧
      (doc.toRecord schema).id = doc.root ∧
      (doc.toRecord schema).Ordered ∧
      (doc.toRecord schema).pruned = doc.toRecord schema ∧
      (doc.toRecord schema).ids.Nodup ∧
      (∀ id, id ∈ (doc.toRecord schema).ids ↔ doc.nodes.contains id = true) ∧
      (doc.toRecord schema).nodeCount = doc.size ∧
      ∀ levels, doc.size ≤ levels →
        gather? schema doc.nodes levels doc.root = some (doc.toRecord schema) := by
  obtain ⟨node, found, parentless⟩ := sound.tree.rootHeld
  obtain ⟨record, same, represents, ordered, pruned⟩ :=
    sound.tree.represents_below schema doc.root node found
  rw [parentless] at represents
  have distinct := represents.nodup_ids sound.tree
  have members : ∀ id, id ∈ record.ids ↔ doc.nodes.contains id = true := by
    intro id
    rw [represents.mem_ids_iff, same, sound.tree.below_root_iff]
  have counted : record.nodeCount = doc.size := by
    have perm : record.ids.Perm doc.nodes.keys := by
      rw [List.perm_ext_iff_of_nodup distinct doc.nodes.nodup_keys]
      intro id
      rw [members, Table.contains_iff_mem_keys]
    rw [NodeRecord.nodeCount_eq_length_ids, perm.length_eq, Table.length_keys]
    rfl
  have gathered : ∀ levels, doc.size ≤ levels →
      gather? schema doc.nodes levels doc.root = some record := by
    intro levels enough
    rw [← same, represents.gather (counted ▸ enough), pruned]
  have whole : doc.toRecord schema = record := by
    rw [toRecord, record?, gathered doc.size (Nat.le_refl _), Option.getD_some]
  rw [whole]
  exact ⟨represents, same, ordered, pruned, distinct, members, counted, gathered⟩

end Document

end LevelGraph
