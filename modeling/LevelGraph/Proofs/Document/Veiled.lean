import LevelGraph.Document.Persisted
import LevelGraph.Proofs.Document.Cells
import LevelGraph.Proofs.Document.Change
import LevelGraph.Proofs.Records
import LevelGraph.Record.Stored

/-!
# Documents without the values of their attributes

A veil takes the values of all attributes away but for that of the location, which is the one
attribute that the program itself reads. The names of attributes stay, and so does everything else.

A veiled document is a document, and so the operations on documents work on it. Laying out,
gathering and editing commute with the veil: what is made of a veiled document is what is made of
the document, veiled. Views and counts are the same with the veil and without it. So nothing that
is decided on the way can depend on what a veil hides.
-/

namespace LevelGraph

/-- The value of an attribute if it is the location, and nothing otherwise. -/
def veilValue (name value : String) : String := if name = Names.uriAttribute then value else ""

/-- Attributes without their values, but for the location. -/
def veilAttributes (attributes : Table String String) : Table String String :=
  attributes.mapKeyed veilValue

/-- The location is seen through the veil. -/
theorem find?_uri_veilAttributes (attributes : Table String String) :
    (veilAttributes attributes).find? Names.uriAttribute =
      attributes.find? Names.uriAttribute := by
  rw [veilAttributes, Table.find?_mapKeyed]
  cases attributes.find? Names.uriAttribute with
  | none => rfl
  | some value => rw [Option.map_some, veilValue, if_pos rfl]

/-- A node with veiled attributes. -/
def Node.veiled (node : Node) : Node := { node with attributes := veilAttributes node.attributes }

namespace NodeRecord

mutual

/-- A record with veiled attributes, here and below. -/
def veiled : NodeRecord → NodeRecord
  | ⟨id, typeName, attributes, slots⟩ => ⟨id, typeName, veilAttributes attributes, veiledSlots slots⟩

/-- Slots of veiled records. -/
def veiledSlots : List (String × List NodeRecord) → List (String × List NodeRecord)
  | [] => []
  | (name, items) :: rest => (name, veiledItems items) :: veiledSlots rest

/-- Veiled records in order. -/
def veiledItems : List NodeRecord → List NodeRecord
  | [] => []
  | record :: rest => veiled record :: veiledItems rest

end

/-- A veil leaves the identifier of a record. -/
@[simp] theorem id_veiled (record : NodeRecord) : record.veiled.id = record.id := by
  cases record
  rfl

/-- It leaves the name of its type. -/
@[simp] theorem typeName_veiled (record : NodeRecord) : record.veiled.typeName = record.typeName := by
  cases record
  rfl

/-- Each item of a list is veiled by itself. -/
theorem veiledItems_eq (items : List NodeRecord) : veiledItems items = items.map veiled := by
  induction items with
  | nil => rfl
  | cons record rest inductionHypothesis => simp [veiledItems, inductionHypothesis]

/-- The veil leaves every slot. -/
theorem isEmpty_veiledSlots (slots : List (String × List NodeRecord)) :
    (veiledSlots slots).isEmpty = slots.isEmpty := by
  cases slots <;> rfl

mutual

/-- The veil leaves every node. -/
theorem nodeCount_veiled : (record : NodeRecord) → record.veiled.nodeCount = record.nodeCount
  | ⟨_, _, _, slots⟩ => by rw [veiled, nodeCount, slotsNodeCount_veiled slots, nodeCount]

/-- It leaves every node in slots. -/
theorem slotsNodeCount_veiled : (slots : List (String × List NodeRecord)) →
    slotsNodeCount (veiledSlots slots) = slotsNodeCount slots
  | [] => rfl
  | (_, items) :: rest => by
    rw [veiledSlots, slotsNodeCount, itemsNodeCount_veiled items, slotsNodeCount_veiled rest,
      slotsNodeCount]

/-- It leaves every item. -/
theorem itemsNodeCount_veiled : (items : List NodeRecord) →
    itemsNodeCount (veiledItems items) = itemsNodeCount items
  | [] => rfl
  | record :: rest => by
    rw [veiledItems, itemsNodeCount, nodeCount_veiled record, itemsNodeCount_veiled rest,
      itemsNodeCount]

end

mutual

/-- The text of a record is as deep with the veil as without it. -/
theorem nesting_veiled : (record : NodeRecord) → record.veiled.nesting = record.nesting
  | ⟨_, _, _, slots⟩ => by
    rw [veiled, nesting, slotsNesting_veiled slots, isEmpty_veiledSlots, veilAttributes,
      Table.isEmpty_mapKeyed, nesting]

/-- Veiled slots nest as deeply. -/
theorem slotsNesting_veiled : (slots : List (String × List NodeRecord)) →
    slotsNesting (veiledSlots slots) = slotsNesting slots
  | [] => rfl
  | (_, items) :: rest => by
    rw [veiledSlots, slotsNesting, itemsNesting_veiled items, slotsNesting_veiled rest, slotsNesting]

/-- Veiled items nest as deeply. -/
theorem itemsNesting_veiled : (items : List NodeRecord) →
    itemsNesting (veiledItems items) = itemsNesting items
  | [] => rfl
  | record :: rest => by
    rw [veiledItems, itemsNesting, nesting_veiled record, itemsNesting_veiled rest, itemsNesting]

end

end NodeRecord

namespace Document

variable {schema : Schema}

/-- A document with veiled nodes. -/
def veiled (doc : Document) : Document := { doc with nodes := doc.nodes.map Node.veiled }

section Views

variable (doc : Document) (id : NodeId)

/-- The nodes of a veiled document are those of the document, veiled. -/
@[simp] theorem node?_veiled : doc.veiled.node? id = (doc.node? id).map Node.veiled :=
  Table.find?_map _ _ _

/-- A veiled document holds the same nodes. -/
@[simp] theorem contains_veiled : doc.veiled.contains id = doc.contains id := by
  rw [contains, node?_veiled, Option.isSome_map, contains]

/-- Its root is of the same type. -/
@[simp] theorem rootType?_veiled : doc.veiled.rootType? = doc.rootType? := by
  have root : doc.veiled.root = doc.root := rfl
  rw [rootType?, root, node?_veiled, Option.map_map, rootType?]
  rfl

/-- Its slots list the same children. -/
@[simp] theorem children_veiled (slot : String) :
    doc.veiled.children id slot = doc.children id slot := by
  rw [children, node?_veiled, children]
  cases doc.node? id <;> rfl

/-- Its nodes have the same types. -/
@[simp] theorem adaptsTo_veiled (tag : TypeId) :
    doc.veiled.adaptsTo schema id tag = doc.adaptsTo schema id tag := by
  rw [adaptsTo, node?_veiled, adaptsTo]
  cases doc.node? id <;> rfl

/-- The location that a reference declares shows through the veil. -/
theorem uri_veiled :
    doc.veiled.attribute? id Names.uriAttribute = doc.attribute? id Names.uriAttribute := by
  rw [attribute?, node?_veiled, attribute?]
  cases doc.node? id with
  | none => rfl
  | some node => exact find?_uri_veilAttributes node.attributes

/-- A game refers to the same cells, at the same locations. -/
theorem gameCells?_veiled : doc.veiled.gameCells? schema id = doc.gameCells? schema id := by
  have declared : doc.veiled.declaredCell? schema = doc.declaredCell? schema := by
    funext cell
    simp only [declaredCell?, adaptsTo_veiled, uri_veiled]
  simp only [gameCells?_eq, adaptsTo_veiled, children_veiled, declared]

end Views

section Persisting

/-- The identifiers in the slots are the same. -/
theorem slotIds_veiled (slots : List (String × List NodeRecord)) :
    slotIds (NodeRecord.veiledSlots slots) = slotIds slots := by
  have same : ((NodeRecord.veiledSlots slots).map fun entry => (entry.1, entry.2.map (·.id))) =
      slots.map fun entry => (entry.1, entry.2.map (·.id)) := by
    induction slots with
    | nil => rfl
    | cons entry rest inductionHypothesis =>
      obtain ⟨name, items⟩ := entry
      simp [NodeRecord.veiledSlots, NodeRecord.veiledItems_eq, inductionHypothesis]
  rw [slotIds, same, slotIds]

mutual

/-- A veiled record is laid out as veiled nodes, or fails as the record does. -/
theorem layOut_veiled (schema : Schema) (parent : Option NodeId) :
    (record : NodeRecord) → (nodes : Table NodeId Node) →
      layOut schema parent record.veiled (nodes.map Node.veiled) =
        (layOut schema parent record nodes).map (·.map Node.veiled)
  | ⟨id, typeName, attributes, slots⟩, nodes => by
    rw [NodeRecord.veiled, layOut, layOut, Table.contains_map, slotIds_veiled]
    split
    · rfl
    · cases schema.typeId? typeName with
      | none => rfl
      | some type =>
        dsimp only
        rw [← layOutSlots_veiled schema id slots, Table.map_insert]
        rfl

/-- Veiled slots are laid out to veiled nodes. -/
theorem layOutSlots_veiled (schema : Schema) (parent : NodeId) :
    (slots : List (String × List NodeRecord)) → (nodes : Table NodeId Node) →
      layOutSlots schema parent (NodeRecord.veiledSlots slots) (nodes.map Node.veiled) =
        (layOutSlots schema parent slots nodes).map (·.map Node.veiled)
  | [], _ => rfl
  | (_, items) :: rest, nodes => by
    rw [NodeRecord.veiledSlots, layOutSlots, layOutSlots, layOutSlots_veiled schema parent rest]
    cases layOutSlots schema parent rest nodes with
    | error => rfl
    | ok later => exact layOutItems_veiled schema parent items later

/-- Veiled items are laid out to veiled nodes. -/
theorem layOutItems_veiled (schema : Schema) (parent : NodeId) :
    (items : List NodeRecord) → (nodes : Table NodeId Node) →
      layOutItems schema parent (NodeRecord.veiledItems items) (nodes.map Node.veiled) =
        (layOutItems schema parent items nodes).map (·.map Node.veiled)
  | [], _ => rfl
  | record :: rest, nodes => by
    rw [NodeRecord.veiledItems, layOutItems, layOutItems, layOutItems_veiled schema parent rest]
    cases layOutItems schema parent rest nodes with
    | error => rfl
    | ok later => exact layOut_veiled schema (some parent) record later

end

/-- The document of a veiled record is the veiled document of the record. -/
theorem ofRecord_veiled (id : DocumentId) (location : String) (record : NodeRecord)
    (schema : Schema) :
    ofRecord id location record.veiled schema =
      (ofRecord id location record schema).map Document.veiled := by
  have laid := layOut_veiled schema none record Table.empty
  change layOut schema none record.veiled Table.empty = _ at laid
  rw [ofRecord, laid, ofRecord, NodeRecord.id_veiled]
  cases layOut schema none record Table.empty <;> rfl

/-- Slots are gathered veiled if nodes are. -/
theorem gatherSlots?_veiled {gather? gatherVeiled? : NodeId → Option NodeRecord}
    (below : ∀ id, gatherVeiled? id = (gather? id).map NodeRecord.veiled)
    (slots : List (String × List NodeId)) :
    gatherSlots? gatherVeiled? slots = (gatherSlots? gather? slots).map NodeRecord.veiledSlots := by
  have items (ids : List NodeId) :
      ids.mapM gatherVeiled? = (ids.mapM gather?).map NodeRecord.veiledItems := by
    induction ids with
    | nil => rfl
    | cons id rest inductionHypothesis =>
      simp only [List.mapM_cons, inductionHypothesis, below]
      cases gather? id with
      | none => rfl
      | some record => cases rest.mapM gather? <;> rfl
  induction slots with
  | nil => rfl
  | cons entry rest inductionHypothesis =>
    obtain ⟨name, _ | ⟨id, ids⟩⟩ := entry
    · exact inductionHypothesis
    · rw [gatherSlots?, gatherSlots?, items, inductionHypothesis]
      cases (id :: ids).mapM gather? with
      | none => rfl
      | some records => cases gatherSlots? gather? rest <;> rfl

/-- From veiled nodes the veiled record is gathered. -/
theorem gather?_veiled (schema : Schema) (nodes : Table NodeId Node) (levels : Nat) (id : NodeId) :
    gather? schema (nodes.map Node.veiled) levels id =
      (gather? schema nodes levels id).map NodeRecord.veiled := by
  induction levels generalizing id with
  | zero => rfl
  | succ levels inductionHypothesis =>
    rw [gather?, gather?, Table.find?_map]
    cases nodes.find? id with
    | none => rfl
    | some node =>
      have same : node.veiled.children = node.children := rfl
      simp only [Option.map_some, same, gatherSlots?_veiled inductionHypothesis]
      cases gatherSlots? (gather? schema nodes levels) node.children.entries <;> rfl

/-- The record of a veiled document is the veiled record of the document. -/
theorem toRecord_veiled (doc : Document) (schema : Schema) :
    doc.veiled.toRecord schema = (doc.toRecord schema).veiled := by
  have gathered : doc.veiled.record? schema = (doc.record? schema).map NodeRecord.veiled := by
    have counted : doc.veiled.size = doc.size := Table.size_map _ _
    rw [record?, counted]
    exact gather?_veiled schema doc.nodes doc.size doc.root
  rw [toRecord, gathered, toRecord]
  cases doc.record? schema <;> rfl

end Persisting

section Editing

variable (doc : Document)

/-- An attribute may be veiled before it is set, or the document afterwards. -/
theorem setAttribute_veiled (id : NodeId) (name value : String) :
    doc.veiled.setAttribute id name (veilValue name value) =
      (doc.setAttribute id name value).map Document.veiled := by
  rw [setAttribute, node?_veiled, setAttribute]
  cases doc.node? id with
  | none => rfl
  | some node =>
    simp only [Option.map_some, Except.map, veiled, Table.map_insert, Node.veiled, veilAttributes,
      Table.mapKeyed_insert]

/-- To append a node asks for types and slots only, so it commutes with a veil. -/
theorem append_veiled (parent : NodeId) (slot : String) (type : TypeId) (fresh : NodeId) :
    doc.veiled.append parent slot type fresh =
      (doc.append parent slot type fresh).map Document.veiled := by
  rw [append, node?_veiled, append]
  cases doc.node? parent with
  | none => rfl
  | some node =>
    simp only [Option.map_some, Except.map, veiled, Table.map_insert]
    rfl

/-- Nodes are dropped alike with the veil and without it. -/
theorem dropSubtrees_veiled (nodes : Table NodeId Node) (targets : Table NodeId DocumentId)
    (pending : List NodeId) :
    dropSubtrees (nodes.map Node.veiled) targets pending =
      ((dropSubtrees nodes targets pending).1.map Node.veiled,
        (dropSubtrees nodes targets pending).2) := by
  fun_induction dropSubtrees nodes targets pending with
  | case1 => rw [dropSubtrees]
  | case2 nodes targets id rest absent inductionHypothesis =>
    rw [dropSubtrees, Table.find?_map, absent]
    exact inductionHypothesis
  | case3 nodes targets id rest node found inductionHypothesis =>
    rw [dropSubtrees, Table.find?_map, found]
    have kept := Table.map_erase Node.veiled nodes id
    rw [kept] at inductionHypothesis
    exact inductionHypothesis

/-- The nodes below a node are found by slots only, so the same ones are dropped under a veil. -/
theorem withoutSubtree_veiled (nodes : Table NodeId Node) (id : NodeId) :
    doc.veiled.withoutSubtree (nodes.map Node.veiled) id = (doc.withoutSubtree nodes id).veiled := by
  have targets : doc.veiled.targets = doc.targets := rfl
  simp only [withoutSubtree, targets, dropSubtrees_veiled]
  rfl

/-- To remove a child commutes with a veil. -/
theorem removeChild_veiled (parent : NodeId) (slot : String) (child : NodeId) :
    doc.veiled.removeChild parent slot child =
      (doc.removeChild parent slot child).map Document.veiled := by
  rw [removeChild, node?_veiled, removeChild]
  cases doc.node? parent with
  | none => rfl
  | some node =>
    have same : node.veiled.slot slot = node.slot slot := rfl
    simp only [Option.map_some, same]
    split
    · rw [Option.map_some, ← withoutSubtree_veiled, Table.map_insert]
      rfl
    · rfl

/-- To detach a node touches slots only, so it commutes with a veil. -/
theorem detach_veiled (nodes : Table NodeId Node) (parent : Option NodeId) (id : NodeId) :
    detach (nodes.map Node.veiled) parent id = (detach nodes parent id).map Node.veiled := by
  cases parent with
  | none => rfl
  | some parent =>
    rw [detach, detach, Table.map_modify]
    intro node
    rfl

/-- To remove a node commutes with a veil. -/
theorem removeNode_veiled (id : NodeId) :
    doc.veiled.removeNode id = (doc.removeNode id).map Document.veiled := by
  have root : doc.veiled.root = doc.root := rfl
  rw [removeNode, root, node?_veiled, removeNode]
  split
  · rfl
  · cases doc.node? id with
    | none => rfl
    | some node =>
      have parent : node.veiled.parent = node.parent := rfl
      have nodes : doc.veiled.nodes = doc.nodes.map Node.veiled := rfl
      simp only [Option.map_some, parent, nodes, detach_veiled, withoutSubtree_veiled]
      rfl

/-- To move a child commutes with a veil. -/
theorem moveChild_veiled (parent : NodeId) (slot : String) (child : NodeId) (offset : Int) :
    doc.veiled.moveChild parent slot child offset =
      (doc.moveChild parent slot child offset).map Document.veiled := by
  rw [moveChild, node?_veiled, moveChild]
  cases doc.node? parent with
  | none => rfl
  | some node =>
    have same : node.veiled.slot slot = node.slot slot := rfl
    simp only [Option.map_some, same]
    cases moveByOffset (node.slot slot) child offset with
    | none => rfl
    | some moved =>
      simp only [Option.map_some, veiled, Table.map_insert]
      rfl

/-- To set a target commutes with a veil. -/
theorem setTarget_veiled (id : NodeId) (target : DocumentId) :
    doc.veiled.setTarget id target = (doc.setTarget id target).map Document.veiled := by
  rw [setTarget, contains_veiled, setTarget]
  split <;> rfl

end Editing

end Document

/-- An edit whose value is veiled, if it writes one. -/
def Edit.veiled : Edit → Edit
  | setAttribute node name value => setAttribute node name (veilValue name value)
  | edit => edit

/-- A result may be changed before its fault is forgotten. -/
theorem toOption_map {α β : Type} {ε : Type} (change : α → β) (result : Except ε α) :
    (result.map change).toOption = result.toOption.map change := by
  cases result <;> rfl

/-- A veiled edit makes of a veiled document what the edit makes of the document, veiled. It applies
exactly when the edit does. -/
theorem Edit.result?_veiled (edit : Edit) (doc : Document) :
    edit.veiled.result? doc.veiled = (edit.result? doc).map Document.veiled := by
  cases edit with
  | setAttribute node name value =>
    exact (congrArg Except.toOption (doc.setAttribute_veiled node name value)).trans
      (toOption_map _ _)
  | append parent slot type fresh =>
    exact (congrArg Except.toOption (doc.append_veiled parent slot type fresh)).trans
      (toOption_map _ _)
  | removeChild parent slot child => exact doc.removeChild_veiled parent slot child
  | removeNode node =>
    exact (congrArg Except.toOption (doc.removeNode_veiled node)).trans (toOption_map _ _)
  | setTarget node target =>
    exact (congrArg Except.toOption (doc.setTarget_veiled node target)).trans (toOption_map _ _)
  | insertItem editor owner slot fresh =>
    exact (congrArg Except.toOption (doc.append_veiled owner slot editor.itemType fresh)).trans
      (toOption_map _ _)
  | removeItem editor owner slot item => exact doc.removeChild_veiled owner slot item
  | moveItem editor owner slot item offset => exact doc.moveChild_veiled owner slot item offset
  | markClean => rfl

/-- An edit under a veil leaves the edited document under that veil. -/
theorem Document.after_veiled (doc : Document) (edit : Edit) :
    doc.veiled.after edit.veiled = (doc.after edit).veiled := by
  rw [Document.after, Edit.result?_veiled, Document.after]
  cases edit.result? doc <;> rfl

end LevelGraph
