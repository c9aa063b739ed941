import LevelGraph.Document.Edit
import LevelGraph.Proofs.Tables
import Mathlib.Logic.Relation

/-!
# What is below a node

A node lists another when it has it in one of its slots, and what is reached from a node by
going down such links is below it. Dropping works through pending nodes and takes nodes out
of the table as it goes, so the links it follows get fewer on the way. Still it drops exactly
what was below the pending nodes at the start: a way down that would lead through a node
already gone starts afresh at one of that node's children, and those became pending when it
went. This holds of every table, also where links run in circles or lead nowhere.
-/

namespace LevelGraph

namespace Document

/-- One node has another in one of its slots. -/
def Lists (nodes : Table NodeId Node) (parent child : NodeId) : Prop :=
  ∃ node, nodes.find? parent = some node ∧ child ∈ node.childIds

/-- The second node is the first or below it. -/
abbrev Below (nodes : Table NodeId Node) : NodeId → NodeId → Prop :=
  Relation.ReflTransGen (Lists nodes)

/-- A node is below one of several. -/
def BelowAny (nodes : Table NodeId Node) (pending : List NodeId) (id : NodeId) : Prop :=
  ∃ top ∈ pending, Below nodes top id

variable {nodes : Table NodeId Node}

/-- With a node taken out, the links left are those of the other nodes. -/
theorem lists_erase {gone parent child : NodeId} :
    Lists (nodes.erase gone) parent child ↔ parent ≠ gone ∧ Lists nodes parent child := by
  by_cases same : parent = gone
  · simp [Lists, Table.find?_erase, same]
  · simp [Lists, Table.find?_erase, same]

/-- A way down that avoids a node leads down without that node's entry, and any other way
passes the node or starts afresh at one of its children. Induct along the way: a step from
the node itself goes to a child of it, and a step from elsewhere is still there. -/
theorem below_erase_of_below {gone top id : NodeId} {node : Node}
    (found : nodes.find? gone = some node) (below : Below nodes top id) :
    id = gone ∨ Below (nodes.erase gone) top id ∨ BelowAny (nodes.erase gone) node.childIds id := by
  induction below with
  | refl => exact Or.inr (Or.inl .refl)
  | @tail middle last _ step inductionHypothesis =>
    by_cases here : middle = gone
    · subst here
      obtain ⟨held, same, listed⟩ := step
      rw [found, Option.some.injEq] at same
      exact Or.inr (Or.inr ⟨last, same ▸ listed, .refl⟩)
    · have still : Lists (nodes.erase gone) middle last := lists_erase.mpr ⟨here, step⟩
      rcases inductionHypothesis with same | straight | ⟨child, listed, afresh⟩
      · exact absurd same here
      · exact Or.inr (Or.inl (straight.tail still))
      · exact Or.inr (Or.inr ⟨child, listed, afresh.tail still⟩)

/-- Fewer links lead to fewer nodes. -/
theorem below_of_below_erase {gone top id : NodeId} (below : Below (nodes.erase gone) top id) :
    Below nodes top id := by
  have fewer : Lists (nodes.erase gone) ≤ Lists nodes := fun _ _ step => (lists_erase.mp step).2
  exact Relation.ReflTransGen.mono fewer _ _ below

/-- Below a node that is not there is only itself. -/
theorem eq_of_below_absent {top id : NodeId} (absent : nodes.find? top = none)
    (below : Below nodes top id) : id = top := by
  rcases below.cases_head with same | ⟨child, ⟨node, found, _⟩, _⟩
  · exact same.symm
  · rw [absent] at found
    cases found

/-- Two tables that hold the same below a node have the same below it. -/
theorem below_congr {other : Table NodeId Node} {top : NodeId}
    (same : ∀ {id}, Below nodes top id → other.find? id = nodes.find? id) {id : NodeId} :
    Below other top id ↔ Below nodes top id := by
  constructor
  · intro below
    induction below with
    | refl => exact .refl
    | tail _ step above =>
      obtain ⟨node, found, listed⟩ := step
      exact above.tail ⟨node, (same above).symm.trans found, listed⟩
  · intro below
    induction below with
    | refl => exact .refl
    | tail above step inductionHypothesis =>
      obtain ⟨node, found, listed⟩ := step
      exact inductionHypothesis.tail ⟨node, (same above).trans found, listed⟩

/-- Below a node without children is only itself. -/
theorem eq_of_below_childless {top id : NodeId} {node : Node} (found : nodes.find? top = some node)
    (childless : node.childIds = []) (below : Below nodes top id) : id = top := by
  rcases below.cases_head with same | ⟨child, ⟨held, heldFound, listed⟩, _⟩
  · exact same.symm
  · rw [found, Option.some.injEq] at heldFound
    rw [← heldFound, childless] at listed
    exact absurd listed List.not_mem_nil

/-- What is below pending nodes of which the first is there: that first one, and what is
below its children or the others without it. -/
theorem belowAny_cons {gone : NodeId} {node : Node} {rest : List NodeId} {id : NodeId}
    (found : nodes.find? gone = some node) :
    BelowAny nodes (gone :: rest) id ↔
      id = gone ∨ BelowAny (nodes.erase gone) (node.childIds ++ rest) id := by
  constructor
  · rintro ⟨top, pending, below⟩
    rcases below_erase_of_below found below with same | straight | ⟨child, listed, afresh⟩
    · exact Or.inl same
    · rcases List.mem_cons.mp pending with first | later
      · subst first
        have absent : (nodes.erase top).find? top = none := by rw [Table.find?_erase, if_pos rfl]
        exact Or.inl (eq_of_below_absent absent straight)
      · exact Or.inr ⟨top, List.mem_append_right _ later, straight⟩
    · exact Or.inr ⟨child, List.mem_append_left _ listed, afresh⟩
  · rintro (same | ⟨top, pending, below⟩)
    · exact ⟨gone, List.mem_cons_self, same ▸ .refl⟩
    · rcases List.mem_append.mp pending with listed | later
      · exact ⟨gone, List.mem_cons_self, .head ⟨node, found, listed⟩ (below_of_below_erase below)⟩
      · exact ⟨top, List.mem_cons_of_mem _ later, below_of_below_erase below⟩

/-- Pending nodes of which the first is not there. -/
theorem belowAny_cons_absent {gone : NodeId} {rest : List NodeId} {id : NodeId}
    (absent : nodes.find? gone = none) :
    BelowAny nodes (gone :: rest) id ↔ id = gone ∨ BelowAny nodes rest id := by
  constructor
  · rintro ⟨top, pending, below⟩
    rcases List.mem_cons.mp pending with first | later
    · subst first
      exact Or.inl (eq_of_below_absent absent below)
    · exact Or.inr ⟨top, later, below⟩
  · rintro (same | ⟨top, later, below⟩)
    · exact ⟨gone, List.mem_cons_self, same ▸ .refl⟩
    · exact ⟨top, List.mem_cons_of_mem _ later, below⟩

/-- Dropping takes away nodes and targets exactly below the pending nodes. The induction is
that of the drop itself, and each step trades what is below the pending nodes in the table
at hand for what is below the new pending nodes in the smaller table. -/
theorem find?_dropSubtrees (nodes : Table NodeId Node) (targets : Table NodeId DocumentId)
    (pending : List NodeId) (id : NodeId) :
    (BelowAny nodes pending id →
      (dropSubtrees nodes targets pending).1.find? id = none ∧
        (dropSubtrees nodes targets pending).2.find? id = none) ∧
    (¬ BelowAny nodes pending id →
      (dropSubtrees nodes targets pending).1.find? id = nodes.find? id ∧
        (dropSubtrees nodes targets pending).2.find? id = targets.find? id) := by
  fun_induction dropSubtrees nodes targets pending with
  | case1 nodes targets =>
    refine ⟨?_, fun _ => ⟨rfl, rfl⟩⟩
    rintro ⟨top, none, _⟩
    exact absurd none List.not_mem_nil
  | case2 nodes targets gone rest absent inductionHypothesis =>
    rw [belowAny_cons_absent absent]
    obtain ⟨dropped, kept⟩ := inductionHypothesis
    constructor
    · intro below
      by_cases later : BelowAny nodes rest id
      · exact dropped later
      · have same : id = gone := below.resolve_right later
        rw [(kept later).1, (kept later).2, Table.find?_erase, if_pos same, same]
        exact ⟨absent, rfl⟩
    · intro apart
      obtain ⟨different, notLater⟩ := not_or.mp apart
      rw [(kept notLater).1, (kept notLater).2, Table.find?_erase, if_neg different]
      exact ⟨rfl, rfl⟩
  | case3 nodes targets gone rest node found inductionHypothesis =>
    rw [belowAny_cons found]
    obtain ⟨dropped, kept⟩ := inductionHypothesis
    constructor
    · intro below
      by_cases later : BelowAny (nodes.erase gone) (node.childIds ++ rest) id
      · exact dropped later
      · have same : id = gone := below.resolve_right later
        rw [(kept later).1, (kept later).2, Table.find?_erase, Table.find?_erase, if_pos same,
          if_pos same]
        exact ⟨rfl, rfl⟩
    · intro apart
      obtain ⟨different, notLater⟩ := not_or.mp apart
      rw [(kept notLater).1, (kept notLater).2, Table.find?_erase, Table.find?_erase,
        if_neg different, if_neg different]
      exact ⟨rfl, rfl⟩

end Document

end LevelGraph
