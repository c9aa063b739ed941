import LevelGraph.Proofs.Document.DirtyMark
import LevelGraph.Proofs.Document.Removal

/-!
# A collection editor as a list machine

An editor that is called on one slot of one node works like a list without repetitions: to insert
appends a new item, to remove erases one, and to move moves one by an offset. `Call.onList?` is that
list machine. It knows nothing of trees, owners and targets, and refuses what a list does not allow.

`Collected` says how a document relates to what it was before any number of calls. Its collection is
the list, an item that was inserted is there as long as it is on the list, and an item that was taken
off is gone with all that was below it. All else is as it was. The relation is shown for one call and
composes, because what is below an item that stays is what was below it.
-/

namespace LevelGraph

namespace Node

/-- The second node is the first but for what stands in one slot. -/
structure SameBut (slot : String) (node held : Node) : Prop where
  /-- It has the same type. -/
  type : held.type = node.type
  /-- It has the same parent. -/
  parent : held.parent = node.parent
  /-- It has the same attributes. -/
  attributes : held.attributes = node.attributes
  /-- It has the same lists in all other slots. -/
  slots : ∀ name, name ≠ slot → held.children.find? name = node.children.find? name

/-- A node is the same as itself in all slots. -/
theorem SameBut.refl (slot : String) (node : Node) : node.SameBut slot node :=
  ⟨rfl, rfl, rfl, fun _ _ => rfl⟩

/-- What two changes of one slot leave alone stays the same. -/
theorem SameBut.trans {slot : String} {node middle held : Node} (first : node.SameBut slot middle)
    (second : middle.SameBut slot held) : node.SameBut slot held :=
  ⟨second.type.trans first.type, second.parent.trans first.parent,
    second.attributes.trans first.attributes,
    fun name other => (second.slots name other).trans (first.slots name other)⟩

/-- Writing a slot changes that slot. -/
theorem sameBut_write (slot : String) (node : Node) (items : List NodeId) :
    node.SameBut slot { node with children := node.children.insert slot items } :=
  ⟨rfl, rfl, rfl, fun name other => by rw [Table.find?_insert, if_neg other]⟩

/-- And it holds what is written. -/
theorem slot_write (slot : String) (node : Node) (items : List NodeId) :
    ({ node with children := node.children.insert slot items } : Node).slot slot = items := by
  rw [Node.slot, Table.find?_insert, if_pos rfl, Option.getD_some]

end Node

namespace CollectionEditor

/-- A call of one of an editor's actions. -/
inductive Call where
  /-- Insert an item with a fresh identifier. -/
  | insert (fresh : NodeId)
  /-- Remove an item. -/
  | remove (item : NodeId)
  /-- Move an item by a number of places. -/
  | move (item : NodeId) (offset : Int)
  deriving DecidableEq

/-- What a call answers. -/
inductive Answer where
  /-- The item that was inserted. -/
  | inserted (item : Option NodeId)
  /-- Whether the item was removed. -/
  | removed (done : Bool)
  /-- Whether the item was moved. -/
  | moved (done : Bool)
  deriving DecidableEq

namespace Call

/-- The answer of a call that was carried out or refused. -/
def answer (done : Bool) : Call → Answer
  | insert fresh => .inserted (if done then some fresh else none)
  | remove _ => .removed done
  | move _ _ => .moved done

/-- The identifier that a call gives to a new item. -/
def fresh? : Call → Option NodeId
  | insert fresh => some fresh
  | _ => none

/-- The call as an edit of a document. -/
def edit (editor : CollectionEditor) (owner : NodeId) (slot : String) : Call → Edit
  | insert fresh => .insertItem editor owner slot fresh
  | remove item => .removeItem editor owner slot item
  | move item offset => .moveItem editor owner slot item offset

/-- The call as an operation on a list. -/
def onList? : Call → List NodeId → Option (List NodeId)
  | insert fresh, items => some (items ++ [fresh])
  | remove item, items => if item ∈ items then some (items.erase item) else none
  | move item offset, items => moveByOffset items item offset

end Call

/-- Carry out calls one after the other, each on what the one before it left. A call that is refused
leaves what it was called on. -/
def drive {State : Type} (act? : Call → State → Option State) : List Call → State → List Answer × State
  | [], state => ([], state)
  | call :: rest, state =>
    let later := drive act? rest ((act? call state).getD state)
    (call.answer (act? call state).isSome :: later.1, later.2)

/-- Carry out calls on the collection in a slot. -/
def run (editor : CollectionEditor) (owner : NodeId) (slot : String) (calls : List Call)
    (doc : Document) : List Answer × Document :=
  drive (fun call doc => (call.edit editor owner slot).result? doc) calls doc

/-- Carry out calls on a list. -/
def runOnList (calls : List Call) (items : List NodeId) : List Answer × List NodeId :=
  drive Call.onList? calls items

/-- The identifiers given to new items. -/
def drawn (calls : List Call) : List NodeId := calls.filterMap Call.fresh?

/-- The identifier that the first call draws, if it draws one, is the first of all. -/
theorem drawn_cons (call : Call) (rest : List Call) :
    drawn (call :: rest) = call.fresh?.toList ++ drawn rest := by
  cases call <;> rfl

end CollectionEditor

namespace Document

/-- A document has no node and no target under an identifier. -/
def Lacks (doc : Document) (id : NodeId) : Prop := doc.node? id = none ∧ doc.target? id = none

/-- Two documents have the same node and the same target under an identifier. -/
def AgreesAt (doc other : Document) (id : NodeId) : Prop :=
  other.node? id = doc.node? id ∧ other.target? id = doc.target? id

/-- A node is no item that has been taken off the list, and is below none. -/
def Stays (doc : Document) (owner : NodeId) (slot : String) (items : List NodeId) (id : NodeId) :
    Prop :=
  ∀ item ∈ doc.children owner slot, item ∉ items → ¬ Below doc.nodes item id

/-- A document after calls on the collection in a slot, given the list that they make of it and the
identifiers that they drew. -/
structure Collected (doc : Document) (type : TypeId) (owner : NodeId) (slot : String)
    (drawn items : List NodeId) (left : Document) : Prop where
  /-- The collection is the list. -/
  collection : left.children owner slot = items
  /-- No item is on the list twice. -/
  distinct : items.Nodup
  /-- Every item was there or has been inserted. -/
  sources : ∀ item ∈ items, item ∈ doc.children owner slot ∨ item ∈ drawn
  /-- An item that was inserted is there as such while it is on the list. -/
  inserted : ∀ item ∈ drawn, item ∈ items →
    left.node? item = some (Node.bare type (some owner)) ∧ left.target? item = none
  /-- It is gone when it has been taken off. -/
  withdrawn : ∀ item ∈ drawn, item ∉ items → left.Lacks item
  /-- An item that was there and has been taken off is gone with all that was below it. -/
  removed : ∀ item ∈ doc.children owner slot, item ∉ items →
    ∀ id, Below doc.nodes item id → left.Lacks id
  /-- The owner is as it was but for the collection. -/
  ownerKept : ∃ node held, doc.node? owner = some node ∧ left.node? owner = some held ∧
    node.SameBut slot held
  /-- It stands for what it stood for. -/
  ownerTarget : left.target? owner = doc.target? owner
  /-- Any other node is as it was. -/
  others : ∀ id, id ≠ owner → id ∉ drawn → doc.Stays owner slot items id → doc.AgreesAt left id
  /-- It is the same document at the same location with the same root. -/
  place : left.id = doc.id ∧ left.location = doc.location ∧ left.root = doc.root

variable {doc middle left : Document} {type : TypeId} {owner : NodeId} {slot : String}
  {drawn later items itemsLater : List NodeId}

/-- What is a node is none of those that are new. -/
theorem not_mem_of_contains {ids : List NodeId} (new : ∀ id ∈ ids, doc.contains id = false)
    {id : NodeId} (held : doc.contains id = true) : id ∉ ids := fun drawn =>
  Bool.false_ne_true ((new id drawn).symm.trans held)

/-- What is no node is another one than a node. -/
theorem ne_of_contains {id other : NodeId} (absent : doc.contains id = false)
    (held : doc.contains other = true) : id ≠ other := by
  rintro rfl
  exact Bool.false_ne_true (absent.symm.trans held)

/-- What is below an item is a node. -/
theorem Sound.contains_item (sound : doc.Sound) {item id : NodeId}
    (listed : item ∈ doc.children owner slot) (below : Below doc.nodes item id) :
    doc.contains id = true := by
  obtain ⟨-, -, -, link⟩ := lists_of_mem_children listed
  obtain ⟨node, found, -⟩ := sound.tree.listedHeld link
  exact (Table.contains_iff _ _).mpr (sound.tree.held_of_below found below)

/-- Items are siblings, so what is below one that is on the list is below none that is not. -/
theorem Sound.stays_below (sound : doc.Sound) {item id : NodeId}
    (listed : item ∈ doc.children owner slot) (stays : item ∈ items) (below : Below doc.nodes item id) :
    doc.Stays owner slot items id := by
  intro other otherListed gone otherBelow
  obtain ⟨-, -, -, link⟩ := lists_of_mem_children listed
  obtain ⟨-, -, -, otherLink⟩ := lists_of_mem_children otherListed
  have same := sound.tree.eq_of_below_siblings link otherLink below otherBelow
  exact gone (same ▸ stays)

/-- What is no node has no target. -/
theorem Sound.lacks_of_absent (sound : doc.Sound) {id : NodeId} (absent : doc.contains id = false) :
    doc.Lacks id := by
  have noNode : doc.node? id = none := (doc.nodes.not_contains_iff id).mp absent
  refine ⟨noNode, Option.eq_none_iff_forall_ne_some.mpr fun target targeted => ?_⟩
  obtain ⟨node, found⟩ := sound.targetsHeld targeted
  exact nomatch noNode.symm.trans found

/-- What is below a removed node is gone. -/
theorem Removed.lacks {parent gone : NodeId} (removed : doc.Removed parent slot gone left)
    {id : NodeId} (below : Below doc.nodes gone id) : left.Lacks id := by
  constructor
  · refine (left.nodes.not_contains_iff id).mp (Bool.eq_false_iff.mpr fun held => ?_)
    exact ((removed.nodes id).mp held).2 below
  · refine Option.eq_none_iff_forall_ne_some.mpr fun target targeted => ?_
    exact (removed.targets.mp targeted).2 below

/-- A node that neither is the removed one nor is below it has the target that it had. -/
theorem Removed.target?_eq {parent gone : NodeId} (removed : doc.Removed parent slot gone left)
    {id : NodeId} (apart : ¬ Below doc.nodes gone id) : left.target? id = doc.target? id :=
  Option.ext fun _ => removed.targets.trans (and_iff_left apart)

/-- No calls leave a document as it is. -/
theorem Collected.refl (sound : doc.Sound) (type : TypeId) (slot : String)
    (found : doc.contains owner = true) :
    doc.Collected type owner slot [] (doc.children owner slot) doc := by
  obtain ⟨node, held⟩ := Option.isSome_iff_exists.mp found
  exact {
    collection := rfl
    distinct := sound.nodup_children owner slot
    sources := fun _ listed => .inl listed
    inserted := fun _ drawn => absurd drawn List.not_mem_nil
    withdrawn := fun _ drawn => absurd drawn List.not_mem_nil
    removed := fun _ listed unlisted => absurd listed unlisted
    ownerKept := ⟨node, node, held, held, .refl slot node⟩
    ownerTarget := rfl
    others := fun _ _ _ _ => ⟨rfl, rfl⟩
    place := ⟨rfl, rfl, rfl⟩ }

namespace Collected

variable (collected : doc.Collected type owner slot drawn items middle)

include collected

/-- The owner was there and is there. -/
theorem contains_owner : doc.contains owner = true ∧ middle.contains owner = true := by
  obtain ⟨node, held, found, heldFound, -⟩ := collected.ownerKept
  exact ⟨Option.isSome_iff_exists.mpr ⟨node, found⟩, Option.isSome_iff_exists.mpr ⟨held, heldFound⟩⟩

/-- Where there was no node, there is none but what was inserted. -/
theorem agreesAt_of_absent (sound : doc.Sound) {id : NodeId} (absent : doc.contains id = false)
    (undrawn : id ∉ drawn) : doc.AgreesAt middle id := by
  apply collected.others id
  · exact ne_of_contains absent collected.contains_owner.1
  · exact undrawn
  · intro item listed _ below
    exact Bool.false_ne_true (absent.symm.trans (sound.contains_item listed below))

/-- What was not there is not there but for what was inserted. -/
theorem lacks (sound : doc.Sound) {id : NodeId} (lacks : doc.Lacks id) (undrawn : id ∉ drawn) :
    middle.Lacks id := by
  have absent : doc.contains id = false := by
    rw [contains, lacks.1]
    rfl
  obtain ⟨node, target⟩ := collected.agreesAt_of_absent sound absent undrawn
  exact ⟨node.trans lacks.1, target.trans lacks.2⟩

/-- Below an item that was there and is on the list, everything is as it was. -/
theorem agreesAt_below (sound : doc.Sound) (new : ∀ id ∈ drawn, doc.contains id = false)
    {item : NodeId} (listed : item ∈ doc.children owner slot) (stays : item ∈ items) {id : NodeId}
    (below : Below doc.nodes item id) : doc.AgreesAt middle id := by
  obtain ⟨-, -, -, link⟩ := lists_of_mem_children listed
  apply collected.others id
  · rintro rfl
    exact not_below_of_lists sound.tree link below
  · exact not_mem_of_contains new (sound.contains_item listed below)
  · exact sound.stays_below listed stays below

/-- So the same nodes are below it. -/
theorem below_iff (sound : doc.Sound) (new : ∀ id ∈ drawn, doc.contains id = false)
    {item : NodeId} (listed : item ∈ doc.children owner slot) (stays : item ∈ items) {id : NodeId} :
    Below middle.nodes item id ↔ Below doc.nodes item id :=
  below_congr fun below => (collected.agreesAt_below sound new listed stays below).1

/-- Below an inserted item is only itself. -/
theorem eq_of_below_inserted {item id : NodeId} (wasDrawn : item ∈ drawn) (stays : item ∈ items)
    (below : Below middle.nodes item id) : id = item :=
  eq_of_below_childless (collected.inserted item wasDrawn stays).1 rfl below

/-- What later calls spare of the document as it was, they spare of the document as it is. -/
theorem stays_middle (sound : doc.Sound) (new : ∀ id ∈ drawn, doc.contains id = false) {id : NodeId}
    (undrawn : id ∉ drawn) (stays : doc.Stays owner slot itemsLater id) :
    middle.Stays owner slot itemsLater id := by
  intro item listed gone below
  rw [collected.collection] at listed
  rcases collected.sources item listed with old | first
  · exact stays item old gone ((collected.below_iff sound new old listed).mp below)
  · exact undrawn (collected.eq_of_below_inserted first listed below ▸ first)

/-- What calls do after others is what they all do together. -/
theorem trans (sound : doc.Sound) (soundMiddle : middle.Sound)
    (second : middle.Collected type owner slot later itemsLater left)
    (new : ∀ id ∈ drawn ++ later, doc.contains id = false) (distinct : (drawn ++ later).Nodup) :
    doc.Collected type owner slot (drawn ++ later) itemsLater left := by
  have newFirst : ∀ id ∈ drawn, doc.contains id = false :=
    fun id member => new id (List.mem_append_left _ member)
  have newLater : ∀ id ∈ later, doc.contains id = false :=
    fun id member => new id (List.mem_append_right _ member)
  have apart : ∀ id ∈ drawn, id ∉ later := by
    intro id first again
    exact (List.nodup_append.mp distinct).2.2 id first id again rfl
  have onList (item : NodeId) : item ∈ middle.children owner slot ↔ item ∈ items := by
    rw [collected.collection]
  have known {item id : NodeId} (listed : item ∈ doc.children owner slot)
      (below : Below doc.nodes item id) : id ∉ later :=
    not_mem_of_contains newLater (sound.contains_item listed below)
  have onEarlier {item : NodeId} (stays : item ∈ itemsLater) (old : item ∉ later) :
      item ∈ items := (onList item).mp ((second.sources item stays).resolve_right old)
  refine {
    collection := second.collection
    distinct := second.distinct
    sources := ?sources
    inserted := ?inserted
    withdrawn := ?withdrawn
    removed := ?removed
    ownerKept := ?ownerKept
    ownerTarget := second.ownerTarget.trans collected.ownerTarget
    others := ?others
    place := ?place }
  case sources =>
    intro item stays
    by_cases again : item ∈ later
    · exact .inr (List.mem_append_right _ again)
    · exact (collected.sources item (onEarlier stays again)).imp_right (List.mem_append_left _)
  case inserted =>
    intro item wasDrawn stays
    rcases List.mem_append.mp wasDrawn with first | again
    · have old := apart item first
      have earlier := onEarlier stays old
      have unowned : item ≠ owner :=
        ne_of_contains (newFirst item first) collected.contains_owner.1
      have spared : middle.Stays owner slot itemsLater item :=
        soundMiddle.stays_below ((onList item).mpr earlier) stays .refl
      obtain ⟨node, target⟩ := second.others item unowned old spared
      obtain ⟨bare, untargeted⟩ := collected.inserted item first earlier
      exact ⟨node.trans bare, target.trans untargeted⟩
    · exact second.inserted item again stays
  case withdrawn =>
    intro item wasDrawn gone
    rcases List.mem_append.mp wasDrawn with first | again
    · by_cases earlier : item ∈ items
      · exact second.removed item ((onList item).mpr earlier) gone item .refl
      · exact second.lacks soundMiddle (collected.withdrawn item first earlier)
          (apart item first)
    · exact second.withdrawn item again gone
  case removed =>
    intro item listed gone id below
    by_cases earlier : item ∈ items
    · exact second.removed item ((onList item).mpr earlier) gone id
        ((collected.below_iff sound newFirst listed earlier).mpr below)
    · exact second.lacks soundMiddle (collected.removed item listed earlier id below)
        (known listed below)
  case ownerKept =>
    obtain ⟨node, held, found, heldFound, same⟩ := collected.ownerKept
    obtain ⟨between, last, betweenFound, lastFound, sameLater⟩ := second.ownerKept
    rw [heldFound, Option.some.injEq] at betweenFound
    exact ⟨node, last, found, lastFound, same.trans (betweenFound ▸ sameLater)⟩
  case others =>
    intro id unowned wasNotDrawn stays
    rw [List.mem_append, not_or] at wasNotDrawn
    obtain ⟨notFirst, notLater⟩ := wasNotDrawn
    have staysFirst : doc.Stays owner slot items id := by
      intro item listed gone
      exact stays item listed fun again => gone (onEarlier again (known listed .refl))
    have staysLater := collected.stays_middle sound newFirst notFirst stays
    obtain ⟨node, target⟩ := collected.others id unowned notFirst staysFirst
    obtain ⟨nodeLater, targetLater⟩ := second.others id unowned notLater staysLater
    exact ⟨nodeLater.trans node, targetLater.trans target⟩
  case place =>
    obtain ⟨id, location, root⟩ := collected.place
    obtain ⟨idLater, locationLater, rootLater⟩ := second.place
    exact ⟨idLater.trans id, locationLater.trans location, rootLater.trans root⟩

end Collected

/-- A node that is written has what is written in the slot. -/
theorem children_of_written {node : Node}
    (written : left.node? owner = some { node with children := node.children.insert slot items }) :
    left.children owner slot = items := by
  rw [children, written]
  exact Node.slot_write slot node items

/-- To append a new item to a collection. -/
theorem collected_append (sound : doc.Sound) (type : TypeId) (slot : String) {fresh : NodeId}
    (held : doc.contains owner = true) (new : doc.contains fresh = false) :
    ∃ left, doc.append owner slot type fresh = .ok left ∧
      doc.Collected type owner slot [fresh] (doc.children owner slot ++ [fresh]) left := by
  obtain ⟨node, found⟩ := Option.isSome_iff_exists.mp held
  have different : fresh ≠ owner := ne_of_contains new held
  have unlisted : fresh ∉ doc.children owner slot := fun listed =>
    Bool.false_ne_true (new.symm.trans (sound.contains_item listed .refl))
  have untargeted : doc.target? fresh = none := (sound.lacks_of_absent new).2
  have inSlot : doc.children owner slot = node.slot slot := by rw [children, found]
  rw [inSlot] at unlisted ⊢
  rw [append, found]
  refine ⟨_, rfl, ?_⟩
  generalize table : (doc.nodes.insert owner { node with
    children := node.children.insert slot (node.slot slot ++ [fresh]) }).insert fresh
      (Node.bare type (some owner)) = nodes
  have atFresh : nodes.find? fresh = some (Node.bare type (some owner)) := by
    rw [← table, Table.find?_insert, if_pos rfl]
  have atOwner : nodes.find? owner = some { node with
      children := node.children.insert slot (node.slot slot ++ [fresh]) } := by
    rw [← table, Table.find?_insert, if_neg different.symm, Table.find?_insert, if_pos rfl]
  have elsewhere {id : NodeId} (notOwner : id ≠ owner) (notFresh : id ≠ fresh) :
      nodes.find? id = doc.nodes.find? id := by
    rw [← table, Table.find?_insert, if_neg notFresh, Table.find?_insert, if_neg notOwner]
  have distinct : (node.slot slot ++ [fresh]).Nodup := by
    rw [List.nodup_append]
    refine ⟨inSlot ▸ sound.nodup_children owner slot, List.nodup_singleton fresh, ?_⟩
    rintro item listed other drawn rfl
    exact unlisted (List.mem_singleton.mp drawn ▸ listed)
  exact {
    collection := children_of_written atOwner
    distinct := distinct
    sources := fun item listed => List.mem_append.mp (inSlot ▸ listed)
    inserted := by
      intro item drawn _
      rw [List.mem_singleton.mp drawn]
      exact ⟨atFresh, untargeted⟩
    withdrawn := fun item drawn gone => absurd (List.mem_append_right _ drawn) gone
    removed := fun item listed gone =>
      absurd (List.mem_append_left _ (inSlot ▸ listed)) gone
    ownerKept := ⟨node, _, found, atOwner, node.sameBut_write slot _⟩
    ownerTarget := rfl
    others := by
      intro id notOwner undrawn _
      exact ⟨elsewhere notOwner fun same => undrawn (List.mem_singleton.mpr same), rfl⟩
    place := ⟨rfl, rfl, rfl⟩ }

/-- To take an item out of a collection. -/
theorem collected_removeChild (sound : doc.Sound) (type : TypeId) {item : NodeId}
    (listed : item ∈ doc.children owner slot) :
    ∃ left, doc.removeChild owner slot item = some left ∧
      doc.Collected type owner slot [] ((doc.children owner slot).erase item) left := by
  obtain ⟨left, -, done, removed⟩ := removed_of_mem_children sound listed
  obtain ⟨node, found, written⟩ := removed.owner
  obtain ⟨-, -, -, link⟩ := lists_of_mem_children listed
  have distinct := sound.nodup_children owner slot
  have onlyItem {other : NodeId} (here : other ∈ doc.children owner slot)
      (gone : other ∉ (doc.children owner slot).erase item) : other = item := by
    by_contra different
    exact gone ((List.mem_erase_of_ne different).mpr here)
  have inSlot : doc.children owner slot = node.slot slot := by rw [children, found]
  refine ⟨left, done, ?_⟩
  exact {
    collection := by
      rw [children_of_written written, inSlot, Node.erase_slot (sound.tree.listedOnce found)]
    distinct := distinct.erase item
    sources := fun other stays => .inl (List.mem_of_mem_erase stays)
    inserted := fun _ drawn => absurd drawn List.not_mem_nil
    withdrawn := fun _ drawn => absurd drawn List.not_mem_nil
    removed := by
      intro other here gone id below
      rw [onlyItem here gone] at below
      exact removed.lacks below
    ownerKept := ⟨node, _, found, written, node.sameBut_write slot _⟩
    ownerTarget := removed.target?_eq (not_below_of_lists sound.tree link)
    others := by
      intro id notOwner _ stays
      have apart : ¬ Below doc.nodes item id := stays item listed distinct.not_mem_erase
      exact ⟨removed.others notOwner apart, removed.target?_eq apart⟩
    place := removed.place }

/-- To move an item within a collection. -/
theorem collected_moveChild (sound : doc.Sound) (type : TypeId) {item : NodeId} {offset : Int}
    (held : doc.contains owner = true)
    (moving : moveByOffset (doc.children owner slot) item offset = some items) :
    ∃ left, doc.moveChild owner slot item offset = some left ∧
      doc.Collected type owner slot [] items left := by
  obtain ⟨node, found⟩ := Option.isSome_iff_exists.mp held
  have inSlot : doc.children owner slot = node.slot slot := by rw [children, found]
  have perm := perm_of_moveByOffset moving
  rw [moveChild, found]
  dsimp only
  rw [← inSlot, moving]
  refine ⟨_, rfl, ?_⟩
  have written : (doc.nodes.insert owner
      { node with children := node.children.insert slot items }).find? owner =
        some { node with children := node.children.insert slot items } := by
    rw [Table.find?_insert, if_pos rfl]
  exact {
    collection := children_of_written written
    distinct := perm.nodup_iff.mpr (sound.nodup_children owner slot)
    sources := fun other stays => .inl (perm.mem_iff.mp stays)
    inserted := fun _ drawn => absurd drawn List.not_mem_nil
    withdrawn := fun _ drawn => absurd drawn List.not_mem_nil
    removed := fun other listed gone => absurd (perm.mem_iff.mpr listed) gone
    ownerKept := ⟨node, _, found, written, node.sameBut_write slot _⟩
    ownerTarget := rfl
    others := by
      intro id notOwner _ _
      refine ⟨?_, rfl⟩
      rw [node?, Table.find?_insert, if_neg notOwner]
      rfl
    place := ⟨rfl, rfl, rfl⟩ }

end Document

namespace CollectionEditor

variable {doc : Document} {owner : NodeId} {slot : String}

/-- A call on the collection of a node that is there does what the call does on the list: it is
refused there and here, or it makes of the collection what it makes of the list. -/
theorem Call.collected (editor : CollectionEditor) (slot : String) (call : Call) (sound : doc.Sound)
    (held : doc.contains owner = true)
    (new : ∀ id ∈ call.fresh?.toList, doc.contains id = false) :
    ((call.edit editor owner slot).result? doc).isSome =
        (call.onList? (doc.children owner slot)).isSome ∧
      doc.Collected editor.itemType owner slot call.fresh?.toList
        ((call.onList? (doc.children owner slot)).getD (doc.children owner slot))
        (doc.after (call.edit editor owner slot)) := by
  unfold Document.after
  cases call with
  | insert fresh =>
    obtain ⟨left, done, collected⟩ := Document.collected_append sound editor.itemType slot held
      (new fresh (List.mem_singleton.mpr rfl))
    have result : (edit editor owner slot (insert fresh)).result? doc = some left := by
      rw [edit, Edit.result?, CollectionEditor.insert, done]
      rfl
    rw [result]
    exact ⟨rfl, collected⟩
  | remove item =>
    by_cases listed : item ∈ doc.children owner slot
    · obtain ⟨left, done, collected⟩ := Document.collected_removeChild sound editor.itemType listed
      have result : (edit editor owner slot (remove item)).result? doc = some left := done
      rw [result, onList?, if_pos listed]
      exact ⟨rfl, collected⟩
    · have result : (edit editor owner slot (remove item)).result? doc = none :=
        Document.removeChild_of_not_mem listed
      rw [result, onList?, if_neg listed]
      exact ⟨rfl, .refl sound editor.itemType slot held⟩
  | move item offset =>
    cases moving : moveByOffset (doc.children owner slot) item offset with
    | none =>
      have result : (edit editor owner slot (move item offset)).result? doc = none := by
        rw [Document.result?_eq_none_iff, edit, Document.Applies, moving]
        exact Bool.false_ne_true
      rw [result, onList?, moving]
      exact ⟨rfl, .refl sound editor.itemType slot held⟩
    | some items =>
      obtain ⟨left, done, collected⟩ := Document.collected_moveChild sound editor.itemType held moving
      have result : (edit editor owner slot (move item offset)).result? doc = some left := done
      rw [result, onList?, moving]
      exact ⟨rfl, collected⟩

/-- A call gives to a new item what its edit gives to it. -/
theorem Call.edit_fresh? (editor : CollectionEditor) (owner : NodeId) (slot : String) (call : Call) :
    (call.edit editor owner slot).fresh? = call.fresh? := by
  cases call <;> rfl

/-- Calls on the collection of a node that is there answer what they answer on the list, and make of
the collection what they make of the list. Proof: induction on the calls. What the first one leaves is
sound again, and the identifiers that the others draw are still new there. -/
theorem collected_run (editor : CollectionEditor) (slot : String) {calls : List Call}
    (sound : doc.Sound) (held : doc.contains owner = true)
    (new : ∀ id ∈ drawn calls, doc.contains id = false) (distinct : (drawn calls).Nodup) :
    (editor.run owner slot calls doc).1 = (runOnList calls (doc.children owner slot)).1 ∧
      doc.Collected editor.itemType owner slot (drawn calls)
        (runOnList calls (doc.children owner slot)).2 (editor.run owner slot calls doc).2 := by
  induction calls generalizing doc with
  | nil => exact ⟨rfl, .refl sound editor.itemType slot held⟩
  | cons call rest inductionHypothesis =>
    rw [drawn_cons] at new distinct ⊢
    obtain ⟨-, distinctRest, apart⟩ := List.nodup_append.mp distinct
    have newFirst : ∀ id ∈ call.fresh?.toList, doc.contains id = false :=
      fun id here => new id (List.mem_append_left _ here)
    obtain ⟨answered, first⟩ := call.collected editor slot sound held newFirst
    have admits : doc.Admits (call.edit editor owner slot) := by
      intro fresh gives
      rw [Call.edit_fresh?] at gives
      exact newFirst fresh (Option.mem_toList.mpr gives)
    have soundBetween := sound.after admits
    have newRest : ∀ id ∈ drawn rest,
        (doc.after (call.edit editor owner slot)).contains id = false := by
      intro id later
      have absent := sound.lacks_of_absent (new id (List.mem_append_right _ later))
      have still := first.lacks sound absent fun here => apart id here id later rfl
      exact (Table.not_contains_iff _ _).mpr still.1
    obtain ⟨answers, second⟩ :=
      inductionHypothesis soundBetween first.contains_owner.2 newRest distinctRest
    rw [first.collection] at answers second
    refine ⟨?_, first.trans sound soundBetween second new distinct⟩
    exact congrArg₂ List.cons (congrArg call.answer answered) answers

/-- Every call is refused where the owner is missing. -/
theorem run_of_absent (editor : CollectionEditor) (slot : String) (calls : List Call)
    (absent : doc.contains owner = false) :
    editor.run owner slot calls doc = (calls.map (Call.answer false), doc) := by
  have noNode : doc.node? owner = none := (doc.nodes.not_contains_iff owner).mp absent
  have refused (call : Call) : (call.edit editor owner slot).result? doc = none := by
    cases call with
    | insert fresh =>
      rw [Call.edit, Edit.result?, CollectionEditor.insert, Document.append, noNode]
      rfl
    | remove item => rw [Call.edit, Edit.result?, CollectionEditor.remove, Document.removeChild, noNode]
    | move item offset =>
      rw [Call.edit, Edit.result?, CollectionEditor.move, Document.moveChild, noNode]
  induction calls with
  | nil => rfl
  | cons call rest inductionHypothesis =>
    rw [run] at inductionHypothesis ⊢
    simp only [drive, refused, Option.getD_none, inductionHypothesis]
    rfl

/-- A collection editor is a list machine. Called any number of times on a slot of a node that is
there, with identifiers for new items that are new, it answers what the list machine answers and
leaves the document with that list as its collection. A document without the node is left as it is,
and every call on it is refused. -/
theorem run_as_list (editor : CollectionEditor) {schema : Schema} {doc : Document} (owner : NodeId)
    (slot : String) (calls : List Call) (arises : Document.Arises schema doc)
    (new : ∀ id ∈ drawn calls, doc.contains id = false) (distinct : (drawn calls).Nodup) :
    (doc.contains owner = false →
      editor.run owner slot calls doc = (calls.map (Call.answer false), doc)) ∧
    (doc.contains owner = true →
      (editor.run owner slot calls doc).1 = (runOnList calls (items doc owner slot)).1 ∧
      doc.Collected editor.itemType owner slot (drawn calls)
        (runOnList calls (items doc owner slot)).2 (editor.run owner slot calls doc).2) :=
  ⟨run_of_absent editor slot calls, fun held => collected_run editor slot arises.sound held new distinct⟩

/-- The folder holds a cell and, behind it, one that was resolved. A new cell is put in front and the
resolved one is taken out, which takes its target with it. The root is no item, the other cell is too
far behind to be moved, and a second new cell goes as it came. Where there is no folder, there is no
collection. -/
theorem run_as_list_folder :
    let editor : CollectionEditor := ⟨"Cell", ⟨2⟩⟩
    let calls : List Call := [.insert (Uuid.ofNat 6), .move (Uuid.ofNat 6) (-2),
      .remove (Uuid.ofNat 4), .remove (Uuid.ofNat 2), .move (Uuid.ofNat 5) 1,
      .insert (Uuid.ofNat 7), .remove (Uuid.ofNat 7)]
    let done := editor.run (Uuid.ofNat 3) "cell" calls Document.foldedLevel
    done.1 = [.inserted (some (Uuid.ofNat 6)), .moved true, .removed true, .removed false,
        .moved false, .inserted (some (Uuid.ofNat 7)), .removed true] ∧
      items done.2 (Uuid.ofNat 3) "cell" = [Uuid.ofNat 6, Uuid.ofNat 5] ∧
      done.2.node? (Uuid.ofNat 6) = some (Node.bare ⟨2⟩ (some (Uuid.ofNat 3))) ∧
      done.2.Lacks (Uuid.ofNat 4) ∧ done.2.Lacks (Uuid.ofNat 7) ∧
      (editor.run (Uuid.ofNat 8) "cell" calls Document.foldedLevel).2 = Document.foldedLevel := by
  intro editor calls done
  have onSlot (owner : NodeId) := run_as_list editor owner "cell" calls Document.arises_foldedLevel
    (by decide +kernel) (by decide +kernel)
  obtain ⟨answers, collected⟩ := (onSlot (Uuid.ofNat 3)).2 (by decide +kernel)
  have list : runOnList calls (items Document.foldedLevel (Uuid.ofNat 3) "cell") =
      ([.inserted (some (Uuid.ofNat 6)), .moved true, .removed true, .removed false,
        .moved false, .inserted (some (Uuid.ofNat 7)), .removed true],
        [Uuid.ofNat 6, Uuid.ofNat 5]) := by
    decide +kernel
  rw [list] at answers collected
  refine ⟨answers, collected.collection, ?_, ?_, ?_, ?_⟩
  · exact (collected.inserted _ (by decide +kernel) (by decide +kernel)).1
  · exact collected.removed _ (by decide +kernel) (by decide +kernel) _ .refl
  · exact collected.withdrawn _ (by decide +kernel) (by decide +kernel)
  · rw [(onSlot (Uuid.ofNat 8)).1 (by decide +kernel)]

end CollectionEditor

end LevelGraph
