import LevelGraph.Proofs.Document.Alike
import LevelGraph.Proofs.Document.History
import LevelGraph.Proofs.NormalForm

/-!
# Rebuilding documents from records

Laying out meets the nodes of a record one after the other: a node before its children, the slots
from the last name to the first, and the nodes of a slot from last to first. `visited` is that order
as a list, and what may be wrong with a record is a matter of this list alone: some node in it has
the identifier of an earlier one, or has a type that is not declared. Laying out stops at the first
such node, however the slots are nested.

A record without such a node is rebuilt as a document whose own record is the same one, but for the
empty slots. A document with declared types has no such node in its record, so its record rebuilds
it.
-/

namespace LevelGraph

namespace NodeRecord

mutual

/-- The record and all below it, in the order of laying out. -/
def visited : NodeRecord → List NodeRecord
  | ⟨id, typeName, attributes, slots⟩ => ⟨id, typeName, attributes, slots⟩ :: slotsVisited slots

/-- All nodes in the slots of a node, the last slot first. -/
def slotsVisited : List (String × List NodeRecord) → List NodeRecord
  | [] => []
  | (_, items) :: rest => slotsVisited rest ++ itemsVisited items

/-- All nodes in one slot, the last one first. -/
def itemsVisited : List NodeRecord → List NodeRecord
  | [] => []
  | record :: rest => itemsVisited rest ++ visited record

end

/-- The later items are visited first. -/
theorem itemsVisited_append (front back : List NodeRecord) :
    itemsVisited (front ++ back) = itemsVisited back ++ itemsVisited front := by
  induction front with
  | nil => rw [List.nil_append, itemsVisited, List.append_nil]
  | cons record rest inductionHypothesis =>
    rw [List.cons_append, itemsVisited, itemsVisited, inductionHypothesis, List.append_assoc]

/-- Slots are visited like all their nodes in one list. -/
theorem slotsVisited_eq (slots : List (String × List NodeRecord)) :
    slotsVisited slots = itemsVisited (slots.flatMap (·.2)) := by
  induction slots with
  | nil => rfl
  | cons slot rest inductionHypothesis =>
    obtain ⟨name, items⟩ := slot
    rw [slotsVisited, List.flatMap_cons, itemsVisited_append, inductionHypothesis]

end NodeRecord

/-- What is wrong with a node that is met when nodes with these identifiers were met before. -/
def Schema.violation? (schema : Schema) (met : List NodeId) (node : NodeRecord) :
    Option DocumentError :=
  if node.id ∈ met then some (.duplicateNodeId node.id)
  else if schema.typeId? node.typeName = none then some (.unknownType node.typeName)
  else none

/-- Some node in a list has a violation, and none before it has any. -/
def Schema.FirstViolation (schema : Schema) (nodes : List NodeRecord) (error : DocumentError) : Prop :=
  ∃ before node after, nodes = before ++ node :: after ∧
    schema.violation? (before.map (·.id)) node = some error ∧
    ∀ earlier other later, before = earlier ++ other :: later →
      schema.violation? (earlier.map (·.id)) other = none

/-- The first violation in a list of nodes. -/
def Schema.firstViolation? (schema : Schema) (met : List NodeId) :
    List NodeRecord → Option DocumentError
  | [] => none
  | node :: rest =>
    match schema.violation? met node with
    | some error => some error
    | none => schema.firstViolation? (met ++ [node.id]) rest

namespace Schema

variable {schema : Schema}

/-- A violation in the front comes first, and the items behind it are looked at with all identifiers of
the front already met. -/
theorem firstViolation?_append (met : List NodeId) (front back : List NodeRecord) :
    schema.firstViolation? met (front ++ back) =
      (schema.firstViolation? met front).or
        (schema.firstViolation? (met ++ front.map (·.id)) back) := by
  induction front generalizing met with
  | nil => simp [firstViolation?]
  | cons node rest inductionHypothesis =>
    rw [List.cons_append, firstViolation?, firstViolation?]
    cases schema.violation? met node with
    | some error => rfl
    | none => simp [inductionHypothesis]

/-- Nothing is wrong in a list exactly when nothing is wrong at any place in it. -/
theorem firstViolation?_eq_none_iff (met : List NodeId) (nodes : List NodeRecord) :
    schema.firstViolation? met nodes = none ↔
      ∀ earlier other later, nodes = earlier ++ other :: later →
        schema.violation? (met ++ earlier.map (·.id)) other = none := by
  induction nodes generalizing met with
  | nil => simp [firstViolation?]
  | cons node rest inductionHypothesis =>
    rw [firstViolation?]
    cases here : schema.violation? met node with
    | some error =>
      refine iff_of_false (by simp) fun clean => ?_
      have first := clean [] node rest rfl
      rw [List.map_nil, List.append_nil, here] at first
      cases first
    | none =>
      refine (inductionHypothesis _).trans ⟨?onward, ?back⟩
      case onward =>
        intro clean earlier other later split
        cases earlier with
        | nil =>
          cases split
          rw [List.map_nil, List.append_nil, here]
        | cons top earlier =>
          cases split
          have placed := clean earlier other later rfl
          rwa [List.append_assoc, List.singleton_append] at placed
      case back =>
        intro clean earlier other later split
        have placed := clean (node :: earlier) other later (congrArg (node :: ·) split)
        rwa [List.map_cons, ← List.singleton_append, ← List.append_assoc] at placed

/-- A violation that is found stands at some place, with none before it. -/
theorem split_of_firstViolation? {met : List NodeId} {nodes : List NodeRecord}
    {error : DocumentError} (found : schema.firstViolation? met nodes = some error) :
    ∃ before node after, nodes = before ++ node :: after ∧
      schema.violation? (met ++ before.map (·.id)) node = some error ∧
      schema.firstViolation? met before = none := by
  induction nodes generalizing met with
  | nil => cases found
  | cons node rest inductionHypothesis =>
    rw [firstViolation?] at found
    cases here : schema.violation? met node with
    | some other =>
      rw [here] at found
      cases found
      exact ⟨[], node, rest, rfl, by rw [List.map_nil, List.append_nil, here], rfl⟩
    | none =>
      rw [here] at found
      obtain ⟨before, later, after, rfl, wrong, clean⟩ := inductionHypothesis found
      refine ⟨node :: before, later, after, rfl, ?_, ?_⟩
      · rwa [List.append_assoc, List.singleton_append] at wrong
      · rw [firstViolation?, here]
        exact clean

/-- Going through a list finds its first violation. -/
theorem firstViolation?_eq_some_iff (nodes : List NodeRecord) (error : DocumentError) :
    schema.firstViolation? [] nodes = some error ↔ schema.FirstViolation nodes error := by
  constructor
  · intro found
    obtain ⟨before, node, after, split, wrong, clean⟩ := split_of_firstViolation? found
    exact ⟨before, node, after, split, wrong, (firstViolation?_eq_none_iff [] before).mp clean⟩
  · rintro ⟨before, node, after, rfl, wrong, clean⟩
    rw [firstViolation?_append, (firstViolation?_eq_none_iff [] before).mpr clean, Option.none_or,
      firstViolation?, List.nil_append, wrong]

end Schema

namespace Document

variable {schema : Schema} {nodes : Table NodeId Node}

/-- An outcome of laying out tells of the nodes visited on the way: it is their first violation, or
they have none and are what was added. -/
def Tells (schema : Schema) (met : List NodeId) (visited : List NodeRecord) :
    Except DocumentError (Table NodeId Node) → Prop
  | .error error => schema.firstViolation? met visited = some error
  | .ok result => schema.firstViolation? met visited = none ∧
      ∀ id, result.contains id = true ↔ id ∈ met ++ visited.map (·.id)

/-- What goes wrong goes wrong before anything that would follow. -/
theorem Tells.of_error {met : List NodeId} {front : List NodeRecord} {error : DocumentError}
    (stopped : Tells schema met front (.error error)) (back : List NodeRecord) :
    Tells schema met (front ++ back) (.error error) := by
  change schema.firstViolation? met (front ++ back) = some error
  rw [Schema.firstViolation?_append, (stopped : schema.firstViolation? met front = some error),
    Option.some_or]

/-- What is visited next is visited together with what was visited without a violation. -/
theorem Tells.append {met : List NodeId} {front back : List NodeRecord}
    {outcome : Except DocumentError (Table NodeId Node)} (first : Tells schema met front (.ok nodes))
    (second : Tells schema (met ++ front.map (·.id)) back outcome) :
    Tells schema met (front ++ back) outcome := by
  have skipped : schema.firstViolation? met (front ++ back) =
      schema.firstViolation? (met ++ front.map (·.id)) back := by
    rw [Schema.firstViolation?_append, first.1, Option.none_or]
  cases outcome with
  | error error => exact skipped.trans second
  | ok result =>
    refine ⟨skipped.trans second.1, fun id => ?_⟩
    rw [second.2 id, List.map_append, List.append_assoc]

/-- Nodes of a list that tell one by one tell together. -/
theorem tells_layOutItems {owner : NodeId} {items : List NodeRecord} {met : List NodeId}
    (each : ∀ item ∈ items, ∀ (met : List NodeId) (before : Table NodeId Node),
      (∀ id, before.contains id = true ↔ id ∈ met) →
        Tells schema met item.visited (layOut schema (some owner) item before))
    (held : ∀ id, nodes.contains id = true ↔ id ∈ met) :
    Tells schema met (NodeRecord.itemsVisited items) (layOutItems schema owner items nodes) := by
  induction items with
  | nil =>
    rw [layOutItems, NodeRecord.itemsVisited]
    exact ⟨rfl, by simpa using held⟩
  | cons record rest inductionHypothesis =>
    have later := inductionHypothesis fun item member => each item (List.mem_cons_of_mem _ member)
    rw [layOutItems, NodeRecord.itemsVisited]
    -- The first node of the list is laid out last, and only if nothing was wrong with the others.
    cases laid : layOutItems schema owner rest nodes with
    | error error =>
      rw [laid] at later
      exact later.of_error _
    | ok middle =>
      rw [laid] at later
      exact later.append (each record List.mem_cons_self _ middle later.2)

/-- Laying out a record tells of its nodes.

Proof: induction on the record. The node itself is tested first, and if nothing is wrong with it, it
is among those met before the nodes in its slots. -/
theorem tells_layOut {record : NodeRecord} {parent : Option NodeId} {met : List NodeId}
    (held : ∀ id, nodes.contains id = true ↔ id ∈ met) :
    Tells schema met record.visited (layOut schema parent record nodes) := by
  induction record using NodeRecord.induct generalizing parent nodes met with
  | step id typeName attributes slots inductionHypothesis =>
    rw [layOut, NodeRecord.visited, NodeRecord.slotsVisited_eq, ← List.singleton_append]
    split
    · next repeated =>
      have listed : id ∈ met := (held id).mp repeated
      exact Tells.of_error (by simp [Tells, Schema.firstViolation?, Schema.violation?, listed]) _
    · next new =>
      have unlisted : id ∉ met := fun listed => new ((held id).mpr listed)
      split
      · next undeclared =>
        exact Tells.of_error
          (by simp [Tells, Schema.firstViolation?, Schema.violation?, unlisted, undeclared]) _
      · next type declared =>
        have here : Tells schema met [⟨id, typeName, attributes, slots⟩]
            (.ok (nodes.insert id ⟨type, parent, attributes, slotIds slots⟩)) := by
          refine ⟨by simp [Schema.firstViolation?, Schema.violation?, unlisted, declared], ?_⟩
          intro wanted
          simp [Table.contains_insert, held, or_comm]
        rw [layOutSlots_eq]
        refine here.append (tells_layOutItems ?_ here.2)
        intro item member met before inBefore
        obtain ⟨slot, listed, inSlot⟩ := List.mem_flatMap.mp member
        exact inductionHypothesis slot listed item inSlot inBefore

/-- A record is refused with the first violation among its nodes in the order of laying out. -/
theorem ofRecord_eq_error_iff (id : DocumentId) (location : String) (record : NodeRecord)
    (error : DocumentError) :
    ofRecord id location record schema = .error error ↔
      schema.FirstViolation record.visited error := by
  have told : Tells schema [] record.visited (layOut schema none record Table.empty) :=
    tells_layOut fun id => by simp [Table.contains]
  rw [← Schema.firstViolation?_eq_some_iff, ofRecord]
  cases laid : layOut schema none record Table.empty with
  | error found =>
    rw [laid] at told
    rw [(told : schema.firstViolation? [] record.visited = some found), Option.some.injEq,
      Except.error.injEq]
  | ok nodes =>
    rw [laid] at told
    rw [told.1]
    simp only [reduceCtorEq]

/-- A document is what a record is rebuilt as. -/
structure Rebuilds (schema : Schema) (record : NodeRecord) (doc : Document) : Prop where
  /-- Its record is the same one, without empty slots at any depth. -/
  gathered : doc.toRecord schema = record.pruned
  /-- It has as many nodes. -/
  size : doc.size = record.nodeCount
  /-- Its root is the topmost node. -/
  root : doc.root = record.id
  /-- It is clean. -/
  clean : doc.dirty = false
  /-- It has no targets. -/
  targets : doc.targets = Table.empty

/-- A record that makes a document is rebuilt by it, without the slots that list nothing. -/
theorem rebuilds_of_ofRecord {id : DocumentId} {location : String} {record : NodeRecord}
    {doc : Document} (ordered : record.Ordered)
    (done : ofRecord id location record schema = .ok doc) : Rebuilds schema record doc := by
  obtain ⟨-, -, root, targets, clean, represents, distinct, only, -⟩ :=
    represents_of_ofRecord ordered done
  refine ⟨toRecord_of_ofRecord ordered done, ?size, root, clean, targets⟩
  have perm : record.ids.Perm doc.nodes.keys := by
    rw [List.perm_ext_iff_of_nodup distinct doc.nodes.nodup_keys]
    intro wanted
    rw [← Table.contains_iff_mem_keys, Table.contains_iff]
    exact ⟨represents.found, fun ⟨node, found⟩ => only wanted node found⟩
  rw [NodeRecord.nodeCount_eq_length_ids, perm.length_eq, Table.length_keys, size]

/-- A document that was opened from a stored text can be stored and opened again. So it takes an edit
to make a document that nests too deep. -/
theorem ofStored_stored_of_ofRecord {text : String} {id : DocumentId} {location : String}
    {record : NodeRecord} {doc : Document} (read : NodeRecord.ofStored text = .ok record)
    (done : ofRecord id location record schema = .ok doc) :
    NodeRecord.ofStored (doc.toRecord schema).stored = .ok record.pruned := by
  have ordered := NodeRecord.ordered_of_ofStored read
  obtain ⟨-, -, again, -⟩ := (sound_of_ofRecord ordered done).record schema
  have gathered := toRecord_of_ofRecord ordered done
  have fits : record.pruned.nesting ≤ Json.maxDepth :=
    Nat.le_trans record.nesting_pruned_le (NodeRecord.nesting_le_of_ofStored read)
  rw [gathered] at again ⊢
  rw [NodeRecord.ofStored_stored again, if_pos fits]

/-- Under the schema of an accepted collection, a record is rebuilt as a document exactly when its
types are declared and its identifiers distinct, and otherwise refused with the first violation in
the order of laying out. What it is rebuilt as has that record, but for the empty slots; and any
document, whatever its history, is rebuilt from its record if the schema declares its types. -/
theorem ofRecord_rebuilds {collection : TypeCollection}
    (accepted : Schema.ofCollection collection = .ok schema) :
    (∀ record : NodeRecord, record.Ordered → ∀ (id : DocumentId) (location : String),
      ((∃ doc, ofRecord id location record schema = .ok doc) ↔
        schema.Declares record ∧ record.ids.Nodup) ∧
      (∀ error, ofRecord id location record schema = .error error ↔
        schema.FirstViolation record.visited error) ∧
      ∀ doc, ofRecord id location record schema = .ok doc → Rebuilds schema record doc) ∧
    ∀ (origin : Schema) (doc : Document), Arises origin doc → doc.Declared schema →
      ∀ (id : DocumentId) (location : String), ∃ rebuilt,
        ofRecord id location (doc.toRecord schema) schema = .ok rebuilt ∧
          rebuilt.toRecord schema = doc.toRecord schema := by
  constructor
  · intro record ordered id location
    refine ⟨⟨?declared, ?whole⟩, ofRecord_eq_error_iff id location record,
      fun doc done => rebuilds_of_ofRecord ordered done⟩
    case declared =>
      rintro ⟨doc, done⟩
      obtain ⟨-, -, -, -, -, -, distinct, -, declared⟩ := represents_of_ofRecord ordered done
      exact ⟨declared, distinct⟩
    case whole => exact fun ⟨declared, distinct⟩ => ofRecord_ok id location ordered declared distinct
  · intro origin doc arises declared id location
    obtain ⟨-, -, ordered, pruned, distinct, -⟩ := arises.sound.record schema
    have named := Schema.distinctNames_of_ofCollection accepted
    obtain ⟨rebuilt, done⟩ :=
      ofRecord_ok id location ordered (arises.sound.declares named declared) distinct
    exact ⟨rebuilt, done, (toRecord_of_ofRecord ordered done).trans pruned⟩

/-- A game in whose last slot an unknown type follows a repeated identifier. -/
def faultyRecord : NodeRecord :=
  ⟨Uuid.ofNat 1, Names.gameType, Table.empty,
    [("a", [.leaf (Uuid.ofNat 2) "unknown first"]),
      ("b", [.leaf (Uuid.ofNat 1) "unknown and repeated", .leaf (Uuid.ofNat 3) "unknown last"])]⟩

/-- A game with a folder, which has an empty slot before the one with a cell. -/
def sparseRecord : NodeRecord :=
  ⟨Uuid.ofNat 1, Names.gameType, Table.empty.insert "name" "level",
    [("folder", [⟨Uuid.ofNat 2, Names.placementsFolderType, Table.empty,
      [("a", []), ("cell", [.leaf (Uuid.ofNat 3) Names.placementsCellReferenceType])]⟩])]⟩

/-- The built-in schema refuses the one for the node met first, rebuilds the other without the empty
slot, and rebuilds a document that was edited. -/
theorem ofRecord_rebuilds_builtin :
    faultyRecord.Ordered ∧ sparseRecord.Ordered ∧ foldedLevel.Declared Schema.builtin ∧
      ofRecord (Uuid.ofNat 9) "level.game" faultyRecord Schema.builtin =
        .error (.unknownType "unknown last") ∧
      Schema.builtin.FirstViolation faultyRecord.visited (.unknownType "unknown last") ∧
      (∃ doc, ofRecord (Uuid.ofNat 9) "level.game" sparseRecord Schema.builtin = .ok doc ∧
        Rebuilds Schema.builtin sparseRecord doc ∧ sparseRecord.pruned ≠ sparseRecord) ∧
      ∃ rebuilt, ofRecord (Uuid.ofNat 9) "copy.game" (foldedLevel.toRecord Schema.builtin)
          Schema.builtin = .ok rebuilt ∧
        rebuilt.toRecord Schema.builtin = foldedLevel.toRecord Schema.builtin := by
  have named : Entries.Ascending faultyRecord.children ∧ Entries.Ascending
      [("a", []), ("cell", [NodeRecord.leaf (Uuid.ofNat 3) Names.placementsCellReferenceType])] :=
    ⟨List.pairwise_pair.mpr (by decide), List.pairwise_pair.mpr (by decide)⟩
  have faultyOrdered : faultyRecord.Ordered := (NodeRecord.ordered_iff _ _ _ _).mpr
    ⟨named.1, by simp [NodeRecord.leaf, NodeRecord.ordered_iff, Entries.ascending_nil]⟩
  have sparseOrdered : sparseRecord.Ordered := (NodeRecord.ordered_iff _ _ _ _).mpr
    ⟨List.pairwise_singleton _ _, by
      simpa [NodeRecord.leaf, NodeRecord.ordered_iff, Entries.ascending_nil] using named.2⟩
  have arises : Arises Schema.builtin foldedLevel :=
    .edited (.edited (.edited (.edited (.edited (.created _ _ _ _)
        (by decide +kernel)) (by decide +kernel)) (by decide +kernel)) (by decide +kernel))
        (by decide +kernel)
  have declared : foldedLevel.Declared Schema.builtin := by decide +kernel
  obtain ⟨records, documents⟩ := ofRecord_rebuilds Schema.ofCollection_baseline
  have refused : ofRecord (Uuid.ofNat 9) "level.game" faultyRecord Schema.builtin =
      .error (.unknownType "unknown last") := by decide +kernel
  obtain ⟨-, violation, -⟩ := records faultyRecord faultyOrdered (Uuid.ofNat 9) "level.game"
  obtain ⟨whole, -, rebuilds⟩ := records sparseRecord sparseOrdered (Uuid.ofNat 9) "level.game"
  have typed : ∀ node ∈ sparseRecord.subtree,
      (Schema.builtin.typeId? node.typeName).isSome = true := by decide +kernel
  obtain ⟨doc, done⟩ := whole.mpr
    ⟨fun node inside => Option.isSome_iff_exists.mp (typed node inside), by decide +kernel⟩
  exact ⟨faultyOrdered, sparseOrdered, declared, refused, (violation _).mp refused,
    ⟨doc, done, rebuilds doc done, by decide +kernel⟩,
    documents Schema.builtin foldedLevel arises declared _ _⟩

end Document

end LevelGraph
