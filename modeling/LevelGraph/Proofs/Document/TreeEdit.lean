import LevelGraph.Proofs.Document.Tree

/-!
# Changes that keep a tree a tree

What an edit does to a table of nodes is one of three things: one node gets other
attributes or its children in another order, a node that was not there is listed by one that
was, or a node is struck off all slots and dropped with what is below it. Each has one law
here, and the edits of a document are instances of them.
-/

namespace LevelGraph

namespace Node

/-- Writing one slot exchanges the children of that slot and keeps those of the others. -/
theorem childIds_write_slot (node : Node) (name : String) (items : List NodeId) :
    ∃ others, node.childIds.Perm (node.slot name ++ others) ∧
      ({ node with children := node.children.insert name items } : Node).childIds.Perm
        (items ++ others) := by
  refine ⟨(Entries.erase name node.children.entries).flatMap (·.2), ?_, ?_⟩
  · cases found : node.children.find? name with
    | none =>
      have kept : Entries.erase name node.children.entries = node.children.entries :=
        Entries.erase_eq_self found
      simp [slot, found, kept, childIds]
    | some held =>
      have moved := Entries.perm_cons_erase node.children.ascending found
      simpa [slot, found, childIds] using moved.flatMap_right (·.2)
  · have moved := Entries.insert_perm_cons_erase name items node.children.ascending
    simpa [childIds, Table.insert] using moved.flatMap_right (·.2)

/-- A slot lists children of its node. -/
theorem mem_childIds_of_mem_slot {node : Node} {name : String} {id : NodeId}
    (listed : id ∈ node.slot name) : id ∈ node.childIds := by
  obtain ⟨others, before, _⟩ := node.childIds_write_slot name []
  exact before.mem_iff.mpr (List.mem_append_left _ listed)

/-- So a node that lists no child twice has none twice in a slot. -/
theorem nodup_slot {node : Node} (distinct : node.childIds.Nodup) (name : String) :
    (node.slot name).Nodup := by
  obtain ⟨others, before, -⟩ := node.childIds_write_slot name []
  exact (List.nodup_append.mp (before.nodup_iff.mp distinct)).1

end Node

namespace Document

variable {nodes : Table NodeId Node} {root : NodeId}

namespace IsTree

/-- Another look of one node, with the same parent and the same children in any order. -/
theorem update (tree : IsTree nodes root) {id : NodeId} {node changed : Node}
    (found : nodes.find? id = some node) (sameParent : changed.parent = node.parent)
    (sameChildren : changed.childIds.Perm node.childIds) :
    IsTree (nodes.insert id changed) root := by
  have looks : ∀ {other held}, (nodes.insert id changed).find? other = some held →
      ∃ old, nodes.find? other = some old ∧ held.parent = old.parent ∧
        held.childIds.Perm old.childIds := by
    intro other held heldFound
    rw [Table.find?_insert] at heldFound
    split at heldFound
    · next same =>
      subst same
      rw [Option.some.injEq] at heldFound
      subst heldFound
      exact ⟨node, found, sameParent, sameChildren⟩
    · exact ⟨held, heldFound, rfl, List.Perm.refl _⟩
  have looked : ∀ {other old}, nodes.find? other = some old →
      ∃ held, (nodes.insert id changed).find? other = some held ∧ held.parent = old.parent ∧
        held.childIds.Perm old.childIds := by
    intro other old oldFound
    rw [Table.find?_insert]
    split
    · next same =>
      subst same
      rw [found, Option.some.injEq] at oldFound
      subst oldFound
      exact ⟨changed, rfl, sameParent, sameChildren⟩
    · exact ⟨old, oldFound, rfl, List.Perm.refl _⟩
  have sameLinks : Lists (nodes.insert id changed) = Lists nodes := by
    funext parent child
    refine propext ⟨?_, ?_⟩
    · rintro ⟨held, heldFound, listed⟩
      obtain ⟨old, oldFound, _, children⟩ := looks heldFound
      exact ⟨old, oldFound, children.mem_iff.mp listed⟩
    · rintro ⟨old, oldFound, listed⟩
      obtain ⟨held, heldFound, _, children⟩ := looked oldFound
      exact ⟨held, heldFound, children.mem_iff.mpr listed⟩
  refine ⟨?rootHeld, ?listedHeld, ?parentLists, ?listedOnce, ?reached⟩
  case rootHeld =>
    obtain ⟨rootNode, rootFound, parentless⟩ := tree.rootHeld
    obtain ⟨held, heldFound, parents, _⟩ := looked rootFound
    exact ⟨held, heldFound, parents.trans parentless⟩
  case listedHeld =>
    intro parent child listed
    rw [sameLinks] at listed
    obtain ⟨old, oldFound, named⟩ := tree.listedHeld listed
    obtain ⟨held, heldFound, parents, _⟩ := looked oldFound
    exact ⟨held, heldFound, parents.trans named⟩
  case parentLists =>
    intro other held heldFound different
    obtain ⟨old, oldFound, parents, _⟩ := looks heldFound
    rw [parents, sameLinks]
    exact tree.parentLists oldFound different
  case listedOnce =>
    intro other held heldFound
    obtain ⟨old, oldFound, _, children⟩ := looks heldFound
    exact children.nodup_iff.mpr (tree.listedOnce oldFound)
  case reached =>
    intro other held heldFound
    obtain ⟨old, oldFound, _, _⟩ := looks heldFound
    rw [Below, sameLinks]
    exact tree.reached oldFound

end IsTree

/-- A leaf hangs under a node that was there, and nothing else has changed. -/
structure Grown (nodes grown : Table NodeId Node) (parent fresh : NodeId) : Prop where
  /-- The leaf is new. -/
  new : nodes.find? fresh = none
  /-- It names the node that it hangs under and lists nothing. -/
  leaf : ∃ leaf, grown.find? fresh = some leaf ∧ leaf.parent = some parent ∧ leaf.childIds = []
  /-- That node lists one child more. -/
  extended : ∃ node extended, nodes.find? parent = some node ∧
    grown.find? parent = some extended ∧ extended.parent = node.parent ∧
    extended.childIds.Perm (fresh :: node.childIds)
  /-- The others are what they were. -/
  others : ∀ {id}, id ≠ parent → id ≠ fresh → grown.find? id = nodes.find? id

namespace Grown

variable {grown : Table NodeId Node} {parent fresh : NodeId}

/-- There is one link more. -/
theorem lists_iff (growth : Grown nodes grown parent fresh) {upper lower : NodeId} :
    Lists grown upper lower ↔ Lists nodes upper lower ∨ (upper = parent ∧ lower = fresh) := by
  obtain ⟨leaf, leafFound, _, childless⟩ := growth.leaf
  obtain ⟨node, extended, found, extendedFound, _, oneMore⟩ := growth.extended
  by_cases isParent : upper = parent
  · subst isParent
    simp [Lists, extendedFound, found, oneMore.mem_iff, or_comm]
  · by_cases isFresh : upper = fresh
    · subst isFresh
      simp [Lists, leafFound, growth.new, childless, isParent]
    · simp [Lists, growth.others isParent isFresh, isParent]

/-- Everything is still below what it was below. -/
theorem below (growth : Grown nodes grown parent fresh) {top id : NodeId}
    (below : Below nodes top id) : Below grown top id := by
  have more : Lists nodes ≤ Lists grown := fun _ _ listed => growth.lists_iff.mpr (Or.inl listed)
  exact Relation.ReflTransGen.mono more _ _ below

/-- A node that was there is there with the same parent. -/
theorem looked (growth : Grown nodes grown parent fresh) {id : NodeId} {old : Node}
    (oldFound : nodes.find? id = some old) :
    ∃ held, grown.find? id = some held ∧ held.parent = old.parent := by
  by_cases isParent : id = parent
  · subst isParent
    obtain ⟨node, extended, found, extendedFound, sameParent, _⟩ := growth.extended
    rw [found, Option.some.injEq] at oldFound
    subst oldFound
    exact ⟨extended, extendedFound, sameParent⟩
  · have notFresh : id ≠ fresh := by
      intro same
      rw [same, growth.new] at oldFound
      cases oldFound
    exact ⟨old, (growth.others isParent notFresh).trans oldFound, rfl⟩

/-- A node is the leaf or was there with the same parent. It lists what it listed, and the
leaf as well if it is the one that the leaf hangs under. -/
theorem looks (growth : Grown nodes grown parent fresh) {id : NodeId} {held : Node}
    (heldFound : grown.find? id = some held) :
    (id = fresh ∧ held.parent = some parent ∧ held.childIds = []) ∨
      ∃ old, nodes.find? id = some old ∧ held.parent = old.parent ∧
        (held.childIds = old.childIds ∨
          id = parent ∧ held.childIds.Perm (fresh :: old.childIds)) := by
  by_cases isFresh : id = fresh
  · obtain ⟨leaf, leafFound, named, childless⟩ := growth.leaf
    rw [isFresh, leafFound, Option.some.injEq] at heldFound
    subst heldFound
    exact Or.inl ⟨isFresh, named, childless⟩
  · refine Or.inr ?_
    by_cases isParent : id = parent
    · obtain ⟨node, extended, found, extendedFound, sameParent, oneMore⟩ := growth.extended
      rw [isParent, extendedFound, Option.some.injEq] at heldFound
      subst heldFound
      exact ⟨node, isParent ▸ found, sameParent, Or.inr ⟨isParent, oneMore⟩⟩
    · exact ⟨held, (growth.others isParent isFresh).symm.trans heldFound, rfl, Or.inl rfl⟩

end Grown

namespace IsTree

/-- A tree with a leaf more is a tree. -/
theorem grown {grown : Table NodeId Node} {parent fresh : NodeId} (tree : IsTree nodes root)
    (growth : Grown nodes grown parent fresh) : IsTree grown root := by
  have links := @Grown.lists_iff nodes grown parent fresh growth
  refine ⟨?rootHeld, ?listedHeld, ?parentLists, ?listedOnce, ?reached⟩
  case rootHeld =>
    obtain ⟨rootNode, rootFound, parentless⟩ := tree.rootHeld
    obtain ⟨held, heldFound, parents⟩ := growth.looked rootFound
    exact ⟨held, heldFound, parents.trans parentless⟩
  case listedHeld =>
    intro upper lower listed
    rcases links.mp listed with old | ⟨isParent, isFresh⟩
    · obtain ⟨child, childFound, parents⟩ := tree.listedHeld old
      obtain ⟨held, heldFound, same⟩ := growth.looked childFound
      exact ⟨held, heldFound, same.trans parents⟩
    · subst isParent isFresh
      obtain ⟨leaf, leafFound, named, _⟩ := growth.leaf
      exact ⟨leaf, leafFound, named⟩
  case parentLists =>
    intro id held heldFound notRoot
    rcases growth.looks heldFound with ⟨isFresh, named, _⟩ | ⟨old, oldFound, sameParent, _⟩
    · exact ⟨parent, named, links.mpr (Or.inr ⟨rfl, isFresh⟩)⟩
    · obtain ⟨above, parents, listed⟩ := tree.parentLists oldFound notRoot
      exact ⟨above, sameParent.trans parents, links.mpr (Or.inl listed)⟩
  case listedOnce =>
    intro id held heldFound
    rcases growth.looks heldFound with ⟨_, _, childless⟩ | ⟨old, oldFound, _, children⟩
    · rw [childless]
      exact List.nodup_nil
    · have distinct := tree.listedOnce oldFound
      rcases children with same | ⟨_, oneMore⟩
      · exact same ▸ distinct
      · rw [oneMore.nodup_iff, List.nodup_cons]
        refine ⟨fun listed => ?_, distinct⟩
        obtain ⟨child, childFound, _⟩ := tree.listedHeld ⟨old, oldFound, listed⟩
        rw [growth.new] at childFound
        cases childFound
  case reached =>
    intro id held heldFound
    rcases growth.looks heldFound with ⟨isFresh, _⟩ | ⟨old, oldFound, _⟩
    · obtain ⟨node, _, found, _⟩ := growth.extended
      exact (growth.below (tree.reached found)).tail (links.mpr (Or.inr ⟨rfl, isFresh⟩))
    · exact growth.below (tree.reached oldFound)

/-- A new node without children, listed by a node that is there. -/
theorem append (tree : IsTree nodes root) {parent fresh : NodeId} {node extended leaf : Node}
    (found : nodes.find? parent = some node) (new : nodes.find? fresh = none)
    (sameParent : extended.parent = node.parent)
    (oneMore : extended.childIds.Perm (fresh :: node.childIds))
    (named : leaf.parent = some parent) (childless : leaf.childIds = []) :
    IsTree ((nodes.insert parent extended).insert fresh leaf) root := by
  have different : parent ≠ fresh := by
    intro same
    rw [same, new] at found
    cases found
  have growth : Grown nodes ((nodes.insert parent extended).insert fresh leaf) parent fresh := by
    refine ⟨new, ⟨leaf, ?_, named, childless⟩,
      ⟨node, extended, found, ?_, sameParent, oneMore⟩, fun notParent notFresh => ?_⟩
    · rw [Table.find?_insert, if_pos rfl]
    · rw [Table.find?_insert, if_neg different, Table.find?_insert, if_pos rfl]
    · rw [Table.find?_insert, if_neg notFresh, Table.find?_insert, if_neg notParent]
  exact tree.grown growth

end IsTree

/-- A node has been struck off all slots, and nothing else has changed. -/
structure Struck (nodes struck : Table NodeId Node) (gone : NodeId) : Prop where
  /-- Every node keeps all but its slots, and these lose the one child. -/
  slots : ∀ {id node}, nodes.find? id = some node → ∃ slots,
    struck.find? id = some { node with children := slots } ∧
      ({ node with children := slots } : Node).childIds.Nodup ∧
      ∀ child, child ∈ ({ node with children := slots } : Node).childIds ↔
        child ∈ node.childIds ∧ child ≠ gone
  /-- No node is new. -/
  old : ∀ {id}, nodes.find? id = none → struck.find? id = none

namespace Struck

variable {struck : Table NodeId Node} {gone : NodeId}

/-- A node that is left was there with the same parent. -/
theorem looks (strike : Struck nodes struck gone) {id : NodeId} {held : Node}
    (found : struck.find? id = some held) :
    ∃ node, nodes.find? id = some node ∧ held.parent = node.parent ∧ held.childIds.Nodup := by
  cases oldFound : nodes.find? id with
  | none =>
    rw [strike.old oldFound] at found
    cases found
  | some node =>
    obtain ⟨slots, changed, distinct, _⟩ := strike.slots oldFound
    rw [changed, Option.some.injEq] at found
    subst found
    exact ⟨node, rfl, rfl, distinct⟩

/-- The links left are those to other nodes. -/
theorem lists_iff (strike : Struck nodes struck gone) {parent child : NodeId} :
    Lists struck parent child ↔ Lists nodes parent child ∧ child ≠ gone := by
  constructor
  · rintro ⟨held, found, listed⟩
    obtain ⟨node, oldFound, _⟩ := strike.looks found
    obtain ⟨slots, changed, _, children⟩ := strike.slots oldFound
    rw [changed, Option.some.injEq] at found
    subst found
    obtain ⟨before, different⟩ := (children child).mp listed
    exact ⟨⟨node, oldFound, before⟩, different⟩
  · rintro ⟨⟨node, oldFound, listed⟩, different⟩
    obtain ⟨slots, changed, _, children⟩ := strike.slots oldFound
    exact ⟨_, changed, (children child).mpr ⟨listed, different⟩⟩

/-- In a tree, striking a node off takes nothing away from what is below it: no way down
from the node comes back to it. -/
theorem below_iff (strike : Struck nodes struck gone) (tree : IsTree nodes root) {id : NodeId} :
    Below struck gone id ↔ Below nodes gone id := by
  constructor
  · intro below
    have fewer : Lists struck ≤ Lists nodes := fun _ _ listed => (strike.lists_iff.mp listed).1
    exact Relation.ReflTransGen.mono fewer _ _ below
  · intro below
    induction below with
    | refl => exact .refl
    | tail above step inductionHypothesis =>
      refine inductionHypothesis.tail (strike.lists_iff.mpr ⟨step, ?_⟩)
      intro same
      exact tree.acyclic gone (Relation.TransGen.tail' above (same ▸ step))

end Struck

namespace IsTree

variable {struck : Table NodeId Node} {gone : NodeId}

/-- After a node is struck off and dropped, the nodes left are those that were not below it,
each as the strike left it. -/
theorem find?_dropped (tree : IsTree nodes root) (strike : Struck nodes struck gone)
    (targets : Table NodeId DocumentId) {id : NodeId} {held : Node} :
    (dropSubtrees struck targets [gone]).1.find? id = some held ↔
      ¬ Below nodes gone id ∧ struck.find? id = some held := by
  have only : BelowAny struck [gone] id ↔ Below nodes gone id := by
    rw [← strike.below_iff tree]
    simp [BelowAny]
  obtain ⟨dropped, kept⟩ := find?_dropSubtrees struck targets [gone] id
  rw [only] at dropped kept
  by_cases below : Below nodes gone id
  · simp [below, (dropped below).1]
  · simp [below, (kept below).1]

/-- What is left of a tree when a node other than the root is struck off and dropped is a
tree. A node that stays has its parent stay, because all that is below a dropped node is
dropped with it. -/
theorem dropped (tree : IsTree nodes root) (strike : Struck nodes struck gone)
    (notRoot : gone ≠ root) (targets : Table NodeId DocumentId) :
    IsTree (dropSubtrees struck targets [gone]).1 root := by
  have keptLook := @find?_dropped nodes root struck gone tree strike targets
  have links : ∀ {parent child}, Lists (dropSubtrees struck targets [gone]).1 parent child ↔
      ¬ Below nodes gone parent ∧ Lists nodes parent child ∧ child ≠ gone := by
    intro parent child
    rw [← strike.lists_iff]
    constructor
    · rintro ⟨held, found, listed⟩
      exact ⟨(keptLook.mp found).1, held, (keptLook.mp found).2, listed⟩
    · rintro ⟨apart, held, found, listed⟩
      exact ⟨held, keptLook.mpr ⟨apart, found⟩, listed⟩
  have childStays : ∀ {parent child}, Lists nodes parent child → child ≠ gone →
      ¬ Below nodes gone parent → ¬ Below nodes gone child := by
    intro parent child listed different apart below
    rcases below.cases_tail with same | ⟨last, toLast, step⟩
    · exact different same
    · exact apart (tree.parent_unique step listed ▸ toLast)
  have parentStays : ∀ {parent child}, Lists nodes parent child → ¬ Below nodes gone child →
      ¬ Below nodes gone parent := fun listed apart below => apart (below.tail listed)
  refine ⟨?rootHeld, ?listedHeld, ?parentLists, ?listedOnce, ?reached⟩
  case rootHeld =>
    obtain ⟨rootNode, rootFound, parentless⟩ := tree.rootHeld
    obtain ⟨slots, changed, _⟩ := strike.slots rootFound
    have rootStays : ¬ Below nodes gone root := by
      intro below
      rcases below.cases_tail with same | ⟨last, _, step⟩
      · exact notRoot same.symm
      · exact tree.root_unlisted last step
    exact ⟨_, keptLook.mpr ⟨rootStays, changed⟩, parentless⟩
  case listedHeld =>
    intro parent child listed
    obtain ⟨apart, before, different⟩ := links.mp listed
    obtain ⟨node, found, named⟩ := tree.listedHeld before
    obtain ⟨slots, changed, _⟩ := strike.slots found
    exact ⟨_, keptLook.mpr ⟨childStays before different apart, changed⟩, named⟩
  case parentLists =>
    intro id held found different
    obtain ⟨apart, left⟩ := keptLook.mp found
    obtain ⟨node, oldFound, sameParent, _⟩ := strike.looks left
    obtain ⟨parent, named, listed⟩ := tree.parentLists oldFound different
    have notGone : id ≠ gone := fun same => apart (same ▸ .refl)
    exact ⟨parent, sameParent.trans named,
      links.mpr ⟨parentStays listed apart, listed, notGone⟩⟩
  case listedOnce =>
    intro id held found
    obtain ⟨_, _, _, distinct⟩ := strike.looks (keptLook.mp found).2
    exact distinct
  case reached =>
    intro id held found
    obtain ⟨apart, left⟩ := keptLook.mp found
    obtain ⟨node, oldFound, _⟩ := strike.looks left
    have below := tree.reached oldFound
    clear found left oldFound
    induction below with
    | refl => exact .refl
    | @tail parent child above step inductionHypothesis =>
      have parentApart := parentStays step apart
      have notGone : child ≠ gone := fun same => apart (same ▸ .refl)
      exact (inductionHypothesis parentApart).tail (links.mpr ⟨parentApart, step, notGone⟩)

end IsTree

end Document

end LevelGraph
