import LevelGraph.Proofs.Document.LayOut

/-!
# Documents through their history

A document begins as a bare root or is laid out from a record, and then undergoes edits in
any order and with any arguments. Whatever its history, its two ways of keeping the tree
agree: parents and slots tell the same story, everything hangs on the root, and only nodes
of the tree have targets. So gathering the document's record never meets a missing node and
counts every node once.

The only thing asked of an edit is that an identifier given to a new node is not yet one of
the document's.
-/

namespace LevelGraph

namespace Document

/-- The documents that can come about under a schema. -/
inductive Arises (schema : Schema) : Document → Prop where
  /-- A new document with a bare root. -/
  | created (id : DocumentId) (root : NodeId) (location : String) (rootType : TypeId) :
      Arises schema (create id root location rootType)
  /-- A document laid out from a record. -/
  | laidOut {id : DocumentId} {location : String} {record : NodeRecord} {doc : Document}
      (ordered : record.Ordered) (done : ofRecord id location record schema = .ok doc) :
      Arises schema doc
  /-- A document after an edit, applicable or not. -/
  | edited {doc : Document} {edit : Edit} (arises : Arises schema doc) (admits : doc.Admits edit) :
      Arises schema (doc.after edit)

/-- The entries of all slots of all nodes. -/
def listed (doc : Document) : List NodeId := doc.nodes.entries.flatMap fun entry => entry.2.childIds

/-- A document whose tree is told alike by parents and by slots. -/
structure WellFormed (doc : Document) : Prop where
  /-- The root is there and has no parent. -/
  rootHeld : ∃ node, doc.node? doc.root = some node ∧ node.parent = none
  /-- The root is in no slot. -/
  rootUnlisted : doc.root ∉ doc.listed
  /-- Any other node names a parent that is there, and stands in a slot of that parent. -/
  parentLists : ∀ {id node}, doc.node? id = some node → id ≠ doc.root →
    ∃ parent above, node.parent = some parent ∧ doc.node? parent = some above ∧
      id ∈ above.childIds
  /-- Any other node stands in all slots together exactly once. -/
  listedOnce : ∀ {id}, doc.contains id = true → id ≠ doc.root → doc.listed.count id = 1
  /-- What stands in a slot is there. -/
  listedHeld : ∀ {id}, id ∈ doc.listed → doc.contains id = true
  /-- Every node is reached from the root. -/
  reached : ∀ {id}, doc.contains id = true → Below doc.nodes doc.root id
  /-- No node is below itself. -/
  acyclic : ∀ id, ¬ Relation.TransGen (Lists doc.nodes) id id
  /-- What has a target is a node. -/
  targetsHeld : ∀ {id target}, doc.target? id = some target → doc.contains id = true

/-- An edit leaves a sound document sound. -/
theorem Sound.after {doc : Document} {edit : Edit} (sound : doc.Sound) (admits : doc.Admits edit) :
    (doc.after edit).Sound := by
  unfold Document.after
  cases applied : edit.result? doc with
  | none => exact sound
  | some changed => exact sound.change (change_of_result? sound admits applied)

/-- Every document that comes about is sound, by induction on its history. -/
theorem Arises.sound {schema : Schema} {doc : Document} (arises : Arises schema doc) :
    doc.Sound := by
  induction arises with
  | created id root location rootType =>
    refine ⟨isTree_single rfl rfl, ?_⟩
    intro node target held
    cases held
  | laidOut ordered done => exact sound_of_ofRecord ordered done
  | edited _ admits inductionHypothesis => exact inductionHypothesis.after admits

/-- An entry of a slot is a link from the node that has the slot. -/
theorem mem_listed_iff {doc : Document} {id : NodeId} :
    id ∈ doc.listed ↔ ∃ parent, Lists doc.nodes parent id := by
  constructor
  · intro member
    obtain ⟨⟨parent, node⟩, held, inside⟩ := List.mem_flatMap.mp member
    exact ⟨parent, node, (doc.nodes.mem_entries_iff parent node).mp held, inside⟩
  · rintro ⟨parent, node, found, inside⟩
    exact List.mem_flatMap.mpr
      ⟨(parent, node), (doc.nodes.mem_entries_iff parent node).mpr found, inside⟩

/-- In a tree no node stands in two slots or twice in one: a slot's node has one parent, and
no parent lists it twice. -/
theorem Sound.nodup_listed {doc : Document} (sound : doc.Sound) : doc.listed.Nodup := by
  have found : ∀ entry ∈ doc.nodes.entries, doc.nodes.find? entry.1 = some entry.2 :=
    fun entry member => (doc.nodes.mem_entries_iff entry.1 entry.2).mp member
  rw [listed, List.nodup_flatMap]
  refine ⟨fun entry member => sound.tree.listedOnce (found entry member), ?_⟩
  have distinct : doc.nodes.entries.Pairwise fun left right => left.1 ≠ right.1 :=
    List.pairwise_map.mp doc.nodes.nodup_keys
  refine distinct.imp_of_mem ?_
  intro left right leftMember rightMember different id inLeft inRight
  exact different (sound.tree.parent_unique ⟨left.2, found left leftMember, inLeft⟩
    ⟨right.2, found right rightMember, inRight⟩)

/-- A sound document is well formed. -/
theorem Sound.wellFormed {doc : Document} (sound : doc.Sound) : doc.WellFormed := by
  have held : ∀ {id}, doc.contains id = true ↔ ∃ node, doc.nodes.find? id = some node :=
    doc.nodes.contains_iff _
  refine ⟨sound.tree.rootHeld, ?rootUnlisted, ?parentLists, ?listedOnce, ?listedHeld, ?reached,
    sound.tree.acyclic, ?targetsHeld⟩
  case rootUnlisted =>
    intro member
    obtain ⟨parent, link⟩ := mem_listed_iff.mp member
    exact sound.tree.root_unlisted parent link
  case parentLists =>
    intro id node found different
    obtain ⟨parent, named, above, aboveFound, inside⟩ := sound.tree.parentLists found different
    exact ⟨parent, above, named, aboveFound, inside⟩
  case listedOnce =>
    intro id contained different
    obtain ⟨node, found⟩ := held.mp contained
    obtain ⟨parent, _, link⟩ := sound.tree.parentLists found different
    exact List.count_eq_one_of_mem sound.nodup_listed (mem_listed_iff.mpr ⟨parent, link⟩)
  case listedHeld =>
    intro id member
    obtain ⟨parent, link⟩ := mem_listed_iff.mp member
    obtain ⟨node, found, _⟩ := sound.tree.listedHeld link
    exact held.mpr ⟨node, found⟩
  case reached =>
    intro id contained
    obtain ⟨node, found⟩ := held.mp contained
    exact sound.tree.reached found
  case targetsHeld =>
    intro id target targeted
    exact held.mpr (sound.targetsHeld targeted)

/-- Whatever its history, a document is well formed, and its record is complete: gathered
with any schema and with as many levels as there are nodes, or more, it is one and the same
record, which has as many nodes as the document. -/
theorem wellFormed_of_arises {schema : Schema} {doc : Document} (arises : Arises schema doc) :
    doc.WellFormed ∧ ∀ reader : Schema,
      (∀ levels, doc.size ≤ levels →
        gather? reader doc.nodes levels doc.root = some (doc.toRecord reader)) ∧
      (doc.toRecord reader).nodeCount = doc.size := by
  refine ⟨arises.sound.wellFormed, fun reader => ?_⟩
  obtain ⟨_, _, _, _, _, _, counted, gathered⟩ := arises.sound.record reader
  exact ⟨gathered, counted⟩

/-- A game with a folder of two cells, one of them resolved and moved to the end, before the
folder is removed. -/
def foldedLevel : Document :=
  (((((create (Uuid.ofNat 1) (Uuid.ofNat 2) "level.game" ⟨0⟩).after
    (.append (Uuid.ofNat 2) "placementsFolder" ⟨1⟩ (Uuid.ofNat 3))).after
    (.append (Uuid.ofNat 3) "cell" ⟨2⟩ (Uuid.ofNat 4))).after
    (.insertItem ⟨"Cell", ⟨2⟩⟩ (Uuid.ofNat 3) "cell" (Uuid.ofNat 5))).after
    (.setTarget (Uuid.ofNat 4) (Uuid.ofNat 9))).after
    (.moveItem ⟨"Cell", ⟨2⟩⟩ (Uuid.ofNat 3) "cell" (Uuid.ofNat 4) 1)

/-- The level arises by the edits that its definition writes down, with a new identifier for each node.
-/
theorem arises_foldedLevel :
    Arises (⟨"gap", [], ⟨⟨0⟩, ⟨1⟩, ⟨2⟩, ⟨3⟩, ⟨4⟩, ⟨5⟩⟩⟩ : Schema) foldedLevel :=
  .edited (.edited (.edited (.edited (.edited (.created _ _ _ _) (by decide +kernel))
    (by decide +kernel)) (by decide +kernel)) (by decide +kernel)) (by decide +kernel)

/-- Without its folder the level is well formed, and its record is complete by any schema. -/
theorem wellFormed_of_removed_folder :
    (foldedLevel.after (.removeNode (Uuid.ofNat 3))).WellFormed ∧
      ∀ reader : Schema,
        (∀ levels, (foldedLevel.after (.removeNode (Uuid.ofNat 3))).size ≤ levels →
          gather? reader (foldedLevel.after (.removeNode (Uuid.ofNat 3))).nodes levels
              (foldedLevel.after (.removeNode (Uuid.ofNat 3))).root =
            some ((foldedLevel.after (.removeNode (Uuid.ofNat 3))).toRecord reader)) ∧
        ((foldedLevel.after (.removeNode (Uuid.ofNat 3))).toRecord reader).nodeCount =
          (foldedLevel.after (.removeNode (Uuid.ofNat 3))).size :=
  wellFormed_of_arises (.edited arises_foldedLevel (by decide +kernel))

end Document

end LevelGraph
