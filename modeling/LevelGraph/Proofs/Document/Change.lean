import LevelGraph.Editor.Collection
import LevelGraph.Proofs.Document.TreeEdit
import LevelGraph.Proofs.Reorder

/-!
# What an edit does to a document

`Edit` names every edit that a document can undergo, by its own operations, by the
collection editor's, or by being saved. `Change` says what a successful edit can amount to;
it is shown once for each edit, and whatever every change keeps is kept by every edit. The
first thing kept is that a document is sound: its nodes form a tree, and only nodes of that
tree have targets.
-/

namespace LevelGraph

/-- An edit of a document, with all it is given. -/
inductive Edit where
  /-- Set an attribute. -/
  | setAttribute (node : NodeId) (name value : String)
  /-- Append a new node to a slot. -/
  | append (parent : NodeId) (slot : String) (type : TypeId) (fresh : NodeId)
  /-- Remove a node from a slot. -/
  | removeChild (parent : NodeId) (slot : String) (child : NodeId)
  /-- Remove a node wherever it is. -/
  | removeNode (node : NodeId)
  /-- Let a node stand for a document. -/
  | setTarget (node : NodeId) (target : DocumentId)
  /-- Insert a new item through an editor. -/
  | insertItem (editor : CollectionEditor) (owner : NodeId) (slot : String) (fresh : NodeId)
  /-- Remove an item through an editor. -/
  | removeItem (editor : CollectionEditor) (owner : NodeId) (slot : String) (item : NodeId)
  /-- Move an item through an editor. -/
  | moveItem (editor : CollectionEditor) (owner : NodeId) (slot : String) (item : NodeId)
      (offset : Int)
  /-- Declare the document stored. -/
  | markClean
  deriving DecidableEq

namespace Edit

/-- The document that an edit makes of another, if it applies. -/
def result? (doc : Document) : Edit → Option Document
  | setAttribute node name value => (doc.setAttribute node name value).toOption
  | append parent slot type fresh => (doc.append parent slot type fresh).toOption
  | removeChild parent slot child => doc.removeChild parent slot child
  | removeNode node => (doc.removeNode node).toOption
  | setTarget node target => (doc.setTarget node target).toOption
  | insertItem editor owner slot fresh => editor.insert doc owner slot fresh
  | removeItem editor owner slot item => editor.remove doc owner slot item
  | moveItem editor owner slot item offset => editor.move doc owner slot item offset
  | markClean => some doc.markClean

/-- Whether an edit lets a node stand for a document. -/
def links : Edit → Bool
  | setTarget _ _ => true
  | _ => false

/-- The identifier that an edit gives to a new node. -/
def fresh? : Edit → Option NodeId
  | append _ _ _ fresh => some fresh
  | insertItem _ _ _ fresh => some fresh
  | _ => none

end Edit

namespace Document

/-- The document after an edit; an edit that does not apply leaves it as it is. -/
def after (doc : Document) (edit : Edit) : Document := (edit.result? doc).getD doc

/-- The identifier of a new node is none of the document's. -/
def Admits (doc : Document) (edit : Edit) : Prop :=
  ∀ fresh, edit.fresh? = some fresh → doc.contains fresh = false

instance (doc : Document) (edit : Edit) : Decidable (doc.Admits edit) :=
  match given : edit.fresh? with
  | none => isTrue fun fresh same => by rw [given] at same; cases same
  | some fresh =>
    decidable_of_iff (doc.contains fresh = false)
      ⟨fun new other same => by rw [given, Option.some.injEq] at same; exact same ▸ new,
        fun admits => admits fresh given⟩

/-- The nodes form a tree, and only nodes of that tree have targets. -/
structure Sound (doc : Document) : Prop where
  /-- The nodes form a tree below the root. -/
  tree : IsTree doc.nodes doc.root
  /-- What has a target is a node. -/
  targetsHeld : ∀ {id target}, doc.targets.find? id = some target →
    ∃ node, doc.nodes.find? id = some node

/-- The items of a slot are distinct. -/
theorem Sound.nodup_children {doc : Document} (sound : doc.Sound) (id : NodeId) (slot : String) :
    (doc.children id slot).Nodup := by
  unfold children
  cases found : doc.node? id with
  | none => exact List.nodup_nil
  | some node => exact Node.nodup_slot (sound.tree.listedOnce found) slot

/-- What becomes of a document in an edit. -/
inductive Change (doc : Document) : Document → Prop where
  /-- One node has another look: other attributes, or its children in another order. -/
  | touched {id : NodeId} {node changed : Node} (found : doc.nodes.find? id = some node)
      (sameType : changed.type = node.type) (sameParent : changed.parent = node.parent)
      (sameChildren : changed.childIds.Perm node.childIds) :
      Change doc { doc with nodes := doc.nodes.insert id changed, dirty := true }
  /-- A new node stands last in a slot. -/
  | grown {parent fresh : NodeId} {node extended : Node} {type : TypeId}
      (found : doc.nodes.find? parent = some node) (new : doc.nodes.find? fresh = none)
      (sameType : extended.type = node.type) (sameParent : extended.parent = node.parent)
      (oneMore : extended.childIds.Perm (fresh :: node.childIds)) :
      Change doc { doc with
        nodes := (doc.nodes.insert parent extended).insert fresh (Node.bare type (some parent))
        dirty := true }
  /-- A node other than the root is gone with all that was below it. -/
  | shrunk {struck : Table NodeId Node} {gone : NodeId} (strike : Struck doc.nodes struck gone)
      (notRoot : gone ≠ doc.root) : Change doc (doc.withoutSubtree struck gone)
  /-- A node stands for a document. -/
  | targeted {id : NodeId} {node : Node} {target : DocumentId}
      (found : doc.nodes.find? id = some node) :
      Change doc { doc with targets := doc.targets.insert id target }
  /-- The document counts as stored. -/
  | cleaned : Change doc doc.markClean

variable {doc changed : Document}

/-- To set an attribute rewrites the node and moves none. -/
theorem change_of_setAttribute {id : NodeId} {name value : String}
    (done : doc.setAttribute id name value = .ok changed) : Change doc changed := by
  unfold setAttribute at done
  split at done
  · cases done
  · next node found =>
    cases done
    exact .touched found rfl rfl (List.Perm.refl _)

/-- A node that is appended under a new identifier grows the tree by a leaf. -/
theorem change_of_append {parent fresh : NodeId} {slot : String} {type : TypeId}
    (new : doc.contains fresh = false) (done : doc.append parent slot type fresh = .ok changed) :
    Change doc changed := by
  have absent : doc.nodes.find? fresh = none := (doc.nodes.not_contains_iff fresh).mp new
  unfold append at done
  split at done
  · cases done
  · next node found =>
    cases done
    refine .grown found absent rfl rfl ?_
    obtain ⟨others, before, afterwards⟩ :=
      node.childIds_write_slot slot (node.slot slot ++ [fresh])
    refine afterwards.trans ?_
    have moved : (node.slot slot ++ [fresh] ++ others).Perm (fresh :: (node.slot slot ++ others)) := by
      rw [List.append_assoc]
      exact List.perm_middle
    exact moved.trans (before.symm.cons fresh)

/-- A target is given to a node that is there, and the tree stays as it is. -/
theorem change_of_setTarget {id : NodeId} {target : DocumentId}
    (done : doc.setTarget id target = .ok changed) : Change doc changed := by
  unfold setTarget at done
  split at done
  · next held =>
    cases done
    obtain ⟨node, found⟩ := (doc.nodes.contains_iff id).mp held
    exact .targeted found
  · cases done

/-- A move gives a slot another order of the nodes that it lists. -/
theorem change_of_moveChild {parent child : NodeId} {slot : String} {offset : Int}
    (done : doc.moveChild parent slot child offset = some changed) : Change doc changed := by
  unfold moveChild at done
  split at done
  · cases done
  · next node found =>
    split at done
    · cases done
    · next moved move =>
      cases done
      refine .touched found rfl rfl ?_
      obtain ⟨others, before, afterwards⟩ := node.childIds_write_slot slot moved
      exact afterwards.trans (((perm_of_moveByOffset move).append_right others).trans before.symm)

/-- In a tree, a node taken out of the slots of the node that lists it is struck off. -/
theorem struck_of_shortened {nodes : Table NodeId Node} {root parent gone : NodeId} {node : Node}
    {slots : Table String (List NodeId)} (tree : IsTree nodes root)
    (found : nodes.find? parent = some node) (listed : gone ∈ node.childIds)
    (distinct : ({ node with children := slots } : Node).childIds.Nodup)
    (shortened : ∀ child, child ∈ ({ node with children := slots } : Node).childIds ↔
      child ∈ node.childIds ∧ child ≠ gone) :
    Struck nodes (nodes.insert parent { node with children := slots }) gone := by
  constructor
  · intro id held heldFound
    by_cases same : id = parent
    · subst same
      rw [found, Option.some.injEq] at heldFound
      subst heldFound
      exact ⟨slots, by rw [Table.find?_insert, if_pos rfl], distinct, shortened⟩
    · refine ⟨held.children, by rw [Table.find?_insert, if_neg same, heldFound],
        tree.listedOnce heldFound, ?_⟩
      intro child
      refine ⟨fun member => ⟨member, ?_⟩, fun both => both.1⟩
      intro isGone
      subst isGone
      exact same (tree.parent_unique ⟨held, heldFound, member⟩ ⟨node, found, listed⟩)
  · intro id absent
    have different : id ≠ parent := by
      intro same
      rw [same, found] at absent
      cases absent
    rw [Table.find?_insert, if_neg different, absent]

/-- In a tree, a node taken out of a slot is struck off. -/
theorem struck_of_erased {nodes : Table NodeId Node} {root parent gone : NodeId} {node : Node}
    {slot : String} (tree : IsTree nodes root) (found : nodes.find? parent = some node)
    (inSlot : gone ∈ node.slot slot) :
    Struck nodes (nodes.insert parent
      { node with children := node.children.insert slot ((node.slot slot).erase gone) }) gone := by
  have listed : gone ∈ node.childIds := Node.mem_childIds_of_mem_slot inSlot
  obtain ⟨others, before, afterwards⟩ :=
    node.childIds_write_slot slot ((node.slot slot).erase gone)
  have oneLess : node.childIds.Perm (gone ::
      ({ node with children := node.children.insert slot ((node.slot slot).erase gone) } :
        Node).childIds) :=
    before.trans (((List.perm_cons_erase inSlot).append_right others).trans
      (afterwards.symm.cons gone))
  have distinct := oneLess.nodup_iff.mp (tree.listedOnce found)
  obtain ⟨absent, distinctLeft⟩ := List.nodup_cons.mp distinct
  refine struck_of_shortened tree found listed distinctLeft fun other => ?_
  rw [oneLess.mem_iff, List.mem_cons]
  constructor
  · intro member
    exact ⟨Or.inr member, fun same => absent (same ▸ member)⟩
  · rintro ⟨same | member, different⟩
    · exact absurd same different
    · exact member

/-- A node removed from a slot is struck off the tree and dropped. -/
theorem struck_of_removeChild {parent child : NodeId} {slot : String} (sound : doc.Sound)
    (done : doc.removeChild parent slot child = some changed) :
    ∃ struck, Struck doc.nodes struck child ∧ child ≠ doc.root ∧
      changed = doc.withoutSubtree struck child := by
  unfold removeChild at done
  split at done
  · cases done
  · next node found =>
    split at done
    · next contained =>
      cases done
      have inSlot : child ∈ node.slot slot := List.contains_iff_mem.mp contained
      have listed : child ∈ node.childIds := Node.mem_childIds_of_mem_slot inSlot
      have notRoot : child ≠ doc.root := by
        intro same
        exact sound.tree.root_unlisted parent (same ▸ ⟨node, found, listed⟩)
      exact ⟨_, struck_of_erased sound.tree found inSlot, notRoot, rfl⟩
    · cases done

/-- A child that is removed from its slot is struck off the tree with all below it. -/
theorem change_of_removeChild {parent child : NodeId} {slot : String} (sound : doc.Sound)
    (done : doc.removeChild parent slot child = some changed) : Change doc changed := by
  obtain ⟨struck, strike, notRoot, rfl⟩ := struck_of_removeChild sound done
  exact .shrunk strike notRoot

/-- Filtering all slots filters the children. -/
theorem childIds_filter_slots (node : Node) (keep : NodeId → Bool) :
    ({ node with children := node.children.map fun list => list.filter keep } : Node).childIds =
      node.childIds.filter keep := by
  simp only [Node.childIds, Table.map, List.flatMap_map, List.filter_flatMap]

/-- To detach a node from a parent is to write the parent without it. -/
theorem detach_some {nodes : Table NodeId Node} {parent id : NodeId} {above : Node}
    (found : nodes.find? parent = some above) :
    detach nodes (some parent) id = nodes.insert parent
      { above with children := above.children.map fun list => list.filter fun held => held ≠ id } :=
  Table.modify_eq_insert found _

/-- A node removed wherever it is is struck off the tree and dropped. -/
theorem struck_of_removeNode {id : NodeId} (sound : doc.Sound)
    (done : doc.removeNode id = .ok changed) :
    ∃ struck, Struck doc.nodes struck id ∧ id ≠ doc.root ∧
      changed = doc.withoutSubtree struck id := by
  unfold removeNode at done
  split at done
  · cases done
  · next notRoot =>
    split at done
    · cases done
    · next node found =>
      cases done
      obtain ⟨parent, named, above, aboveFound, listed⟩ := sound.tree.parentLists found notRoot
      refine ⟨_, ?_, notRoot, rfl⟩
      rw [named, detach_some aboveFound]
      refine struck_of_shortened sound.tree aboveFound listed ?_ ?_
      · rw [childIds_filter_slots]
        exact (sound.tree.listedOnce aboveFound).filter _
      · intro child
        rw [childIds_filter_slots, List.mem_filter]
        simp

/-- So is a node that is removed wherever it is. -/
theorem change_of_removeNode {id : NodeId} (sound : doc.Sound)
    (done : doc.removeNode id = .ok changed) : Change doc changed := by
  obtain ⟨struck, strike, notRoot, rfl⟩ := struck_of_removeNode sound done
  exact .shrunk strike notRoot

/-- What is left of an edit as a document is the document that it yields. -/
theorem ok_of_toOption {result : Except DocumentError Document}
    (done : result.toOption = some changed) : result = .ok changed := by
  cases result with
  | error => cases done
  | ok value => exact congrArg Except.ok (Option.some.inj done)

/-- Every edit that applies to a sound document is one of the changes. -/
theorem change_of_result? {edit : Edit} (sound : doc.Sound) (admits : doc.Admits edit)
    (done : edit.result? doc = some changed) : Change doc changed := by
  cases edit with
  | setAttribute node name value => exact change_of_setAttribute (ok_of_toOption done)
  | append parent slot type fresh => exact change_of_append (admits fresh rfl) (ok_of_toOption done)
  | removeChild parent slot child => exact change_of_removeChild sound done
  | removeNode node => exact change_of_removeNode sound (ok_of_toOption done)
  | setTarget node target => exact change_of_setTarget (ok_of_toOption done)
  | insertItem editor owner slot fresh => exact change_of_append (admits fresh rfl) (ok_of_toOption done)
  | removeItem editor owner slot item => exact change_of_removeChild sound done
  | moveItem editor owner slot item offset => exact change_of_moveChild done
  | markClean =>
    cases done
    exact .cleaned

/-- A change leaves a sound document sound. Targets go only with the nodes that hold them. -/
theorem Sound.change (sound : doc.Sound) (change : Change doc changed) : changed.Sound := by
  cases change with
  | @touched id node changed found sameType sameParent sameChildren =>
    refine ⟨sound.tree.update found sameParent sameChildren, ?_⟩
    intro other target held
    obtain ⟨old, oldFound⟩ := sound.targetsHeld held
    by_cases same : other = id
    · exact ⟨changed, by rw [Table.find?_insert, if_pos same]⟩
    · exact ⟨old, by rw [Table.find?_insert, if_neg same, oldFound]⟩
  | @grown parent fresh node extended type found new sameType sameParent oneMore =>
    refine ⟨sound.tree.append found new sameParent oneMore rfl rfl, ?_⟩
    intro other target held
    obtain ⟨old, oldFound⟩ := sound.targetsHeld held
    rw [← Table.contains_iff, Table.contains_insert, Table.contains_insert,
      (Table.contains_iff _ _).mpr ⟨old, oldFound⟩, Bool.or_true, Bool.or_true]
  | @shrunk struck gone strike notRoot =>
    refine ⟨sound.tree.dropped strike notRoot doc.targets, ?_⟩
    intro other target held
    obtain ⟨dropped, kept⟩ := find?_dropSubtrees struck doc.targets [gone] other
    by_cases below : BelowAny struck [gone] other
    · change (dropSubtrees struck doc.targets [gone]).2.find? other = some target at held
      rw [(dropped below).2] at held
      cases held
    · change (dropSubtrees struck doc.targets [gone]).2.find? other = some target at held
      rw [(kept below).2] at held
      obtain ⟨node, found⟩ := sound.targetsHeld held
      obtain ⟨slots, changed, _⟩ := strike.slots found
      exact ⟨_, (kept below).1.trans changed⟩
  | @targeted id node target found =>
    refine ⟨sound.tree, ?_⟩
    intro other held heldFound
    by_cases same : other = id
    · exact ⟨node, same ▸ found⟩
    · change (doc.targets.insert id target).find? other = some held at heldFound
      rw [Table.find?_insert, if_neg same] at heldFound
      exact sound.targetsHeld heldFound
  | cleaned => exact ⟨sound.tree, sound.targetsHeld⟩

/-- A change keeps which document it is, where it is stored and which node is its root. -/
theorem Change.same_place (change : Change doc changed) :
    changed.id = doc.id ∧ changed.location = doc.location ∧ changed.root = doc.root := by
  cases change <;> exact ⟨rfl, rfl, rfl⟩

/-- A node put in the place of one of its type leaves every node its type. -/
theorem type_of_find?_insert {nodes : Table NodeId Node} {other id : NodeId}
    {held changed before node : Node} (heldFound : nodes.find? other = some held)
    (sameType : changed.type = held.type) (found : nodes.find? id = some before)
    (foundAfter : (nodes.insert other changed).find? id = some node) : node.type = before.type := by
  rw [Table.find?_insert] at foundAfter
  split at foundAfter
  · next same =>
    subst same
    rw [found, Option.some.injEq] at heldFound
    rw [Option.some.injEq] at foundAfter
    rw [← foundAfter, sameType, heldFound]
  · rw [found, Option.some.injEq] at foundAfter
    rw [foundAfter]

/-- A change gives no node another type: what is there afterwards and was there before has
the type that it had. -/
theorem Change.same_type (change : Change doc changed) {id : NodeId} {before node : Node}
    (found : doc.nodes.find? id = some before) (foundAfter : changed.nodes.find? id = some node) :
    node.type = before.type := by
  cases change with
  | @touched other held changed heldFound sameType =>
    exact type_of_find?_insert heldFound sameType found foundAfter
  | @grown parent fresh held extended type heldFound new sameType =>
    rw [Table.find?_insert] at foundAfter
    split at foundAfter
    · next same =>
      rw [same, new] at found
      cases found
    · exact type_of_find?_insert heldFound sameType found foundAfter
  | @shrunk struck gone strike notRoot =>
    obtain ⟨dropped, kept⟩ := find?_dropSubtrees struck doc.targets [gone] id
    change (dropSubtrees struck doc.targets [gone]).1.find? id = some node at foundAfter
    by_cases below : BelowAny struck [gone] id
    · rw [(dropped below).1] at foundAfter
      cases foundAfter
    · obtain ⟨slots, changed, _⟩ := strike.slots found
      rw [(kept below).1, changed, Option.some.injEq] at foundAfter
      rw [← foundAfter]
  | targeted => exact congrArg Node.type (Option.some.inj (foundAfter.symm.trans found))
  | cleaned => exact congrArg Node.type (Option.some.inj (foundAfter.symm.trans found))

/-- A change keeps the type of a sound document's root. -/
theorem Change.same_rootType (change : Change doc changed) (sound : doc.Sound) :
    changed.rootType? = doc.rootType? := by
  obtain ⟨before, found, _⟩ := sound.tree.rootHeld
  obtain ⟨node, foundAfter, _⟩ := (sound.change change).tree.rootHeld
  have same := change.same_type found (change.same_place.2.2 ▸ foundAfter)
  simp only [rootType?, node?, found, foundAfter, Option.map_some, same]

end Document

end LevelGraph
