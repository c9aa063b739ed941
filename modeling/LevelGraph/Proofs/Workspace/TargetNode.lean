import LevelGraph.Proofs.Schema.Hierarchy
import LevelGraph.Proofs.Workspace.Links

/-!
# The node that a node leads to

A cell reference that stands for an open document leads to the root of that document, and any other
node leads to itself. In a session the root that is led to is one of a cell document, whatever became
of the document since the reference was resolved.

One look-up is enough, unless a node can be a cell reference and the root of a cell document at the
same time. Since a type has one base, it is enough to ask that neither of the two types derives from
the other.
-/

namespace LevelGraph

namespace Workspace

variable {ws : Workspace} {reference : NodeRef} {target : DocumentId} {cell : Document}

/-- The reference is a cell reference of an open document and stands for a document, which is open. -/
def StandsFor (ws : Workspace) (reference : NodeRef) (target : DocumentId) (cell : Document) : Prop :=
  (∃ doc, ws.document? reference.document = some doc ∧
    doc.adaptsTo ws.schema reference.node ws.schema.tags.placementsCellReference = true) ∧
  ws.liveTarget? reference = some target ∧ ws.document? target = some cell

/-- A node is a cell reference when its document is open and has it as one. -/
theorem isCellReference_iff :
    ws.isCellReference reference = true ↔
      ∃ doc, ws.document? reference.document = some doc ∧
        doc.adaptsTo ws.schema reference.node ws.schema.tags.placementsCellReference = true := by
  unfold isCellReference Document.cellReference?
  cases ws.document? reference.document with
  | none => simp
  | some doc => simp

/-- A reference that stands for a document leads to the root of that document. -/
theorem targetNode_of_standsFor (sound : ws.Sound) (stands : ws.StandsFor reference target cell) :
    ws.targetNode reference = ⟨target, cell.root⟩ := by
  obtain ⟨isReference, live, found⟩ := stands
  have bound : (ws.liveTarget? reference).bind ws.document? = some cell := by
    rw [live, Option.bind_some, found]
  simp only [targetNode, if_pos (isCellReference_iff.mpr isReference), bound, (sound.filed found).1]

/-- Any other node leads to itself. -/
theorem targetNode_of_not_standsFor (idle : ∀ target cell, ¬ ws.StandsFor reference target cell) :
    ws.targetNode reference = reference := by
  unfold targetNode
  split
  · next isReference =>
    split
    · next cell bound =>
      obtain ⟨target, live, found⟩ := Option.bind_eq_some_iff.mp bound
      exact absurd ⟨isCellReference_iff.mp isReference, live, found⟩ (idle target cell)
    · rfl
  · rfl

/-- Which of the two it is. -/
theorem targetNode_cases (sound : ws.Sound) (reference : NodeRef) :
    (∃ target cell, ws.StandsFor reference target cell ∧
        ws.targetNode reference = ⟨target, cell.root⟩) ∨
      (∀ target cell, ¬ ws.StandsFor reference target cell) ∧ ws.targetNode reference = reference := by
  by_cases stands : ∃ target cell, ws.StandsFor reference target cell
  · obtain ⟨target, cell, stands⟩ := stands
    exact .inl ⟨target, cell, stands, targetNode_of_standsFor sound stands⟩
  · have idle : ∀ target cell, ¬ ws.StandsFor reference target cell :=
      fun target cell here => stands ⟨target, cell, here⟩
    exact .inr ⟨idle, targetNode_of_not_standsFor idle⟩

/-- What a reference stands for in a session is a cell document. -/
theorem StandsFor.isCell (sound : ws.Sound) (stands : ws.StandsFor reference target cell) :
    cell.IsCell ws.schema := by
  obtain ⟨-, live, found⟩ := stands
  obtain ⟨doc, docFound, targeted, -⟩ := liveTarget?_eq_some_iff.mp live
  exact sound.targetCell docFound targeted found

/-- The root of a cell document stands for nothing where cell references are no cell documents. -/
theorem not_standsFor_root
    (apart : ∀ type, ¬ (ws.schema.isAssignableFrom ws.schema.tags.placementsCellReference type = true ∧
      ws.schema.isAssignableFrom ws.schema.tags.placementsDocument type = true))
    (found : ws.document? target = some cell) (isCell : cell.IsCell ws.schema) :
    ∀ further last, ¬ ws.StandsFor ⟨target, cell.root⟩ further last := by
  rintro further last ⟨⟨doc, docFound, adapts⟩, -⟩
  rw [found, Option.some.injEq] at docFound
  subst docFound
  obtain ⟨type, rooted, derives⟩ := isCell
  obtain ⟨node, nodeFound, rfl⟩ := Option.map_eq_some_iff.mp rooted
  rw [Document.adaptsTo, nodeFound] at adapts
  exact apart node.type ⟨adapts, derives⟩

/-- The schema of a session is one that was built. -/
theorem Reachable.grounded (reachable : ws.Reachable) : ws.schema.Grounded := by
  induction reachable with
  | start declared repository issue => exact Schema.grounded_of_ofCollection declared
  | performed _ action admits _ inductionHypothesis =>
    rw [(Steps.keeps (perform_steps admits)).1]
    exact inductionHypothesis

/-- Where a node leads in any session. It leads to itself or to the root of an open cell document. It
leads elsewhere exactly when it is a cell reference that stands for an open document of which it is not
itself the root, and then to that root. Where no type derives both from the one for cell references
and from the one for cell documents, that is where neither of them derives from the other, what a node
leads to leads to itself. -/
theorem targetNode_leads (reachable : ws.Reachable) :
    (∀ reference, ws.targetNode reference = reference ∨
      ∃ target cell, ws.document? target = some cell ∧ cell.IsCell ws.schema ∧
        ws.targetNode reference = ⟨target, cell.root⟩) ∧
    (∀ reference, ws.targetNode reference ≠ reference ↔
      ∃ target cell, ws.StandsFor reference target cell ∧ ⟨target, cell.root⟩ ≠ reference) ∧
    (∀ reference target cell, ws.StandsFor reference target cell →
      ws.targetNode reference = ⟨target, cell.root⟩) ∧
    ((∀ type, ¬ (ws.schema.isAssignableFrom ws.schema.tags.placementsCellReference type = true ∧
        ws.schema.isAssignableFrom ws.schema.tags.placementsDocument type = true)) ↔
      ws.schema.isAssignableFrom ws.schema.tags.placementsCellReference
          ws.schema.tags.placementsDocument = false ∧
        ws.schema.isAssignableFrom ws.schema.tags.placementsDocument
          ws.schema.tags.placementsCellReference = false) ∧
    ((∀ type, ¬ (ws.schema.isAssignableFrom ws.schema.tags.placementsCellReference type = true ∧
        ws.schema.isAssignableFrom ws.schema.tags.placementsDocument type = true)) →
      ∀ reference, ws.targetNode (ws.targetNode reference) = ws.targetNode reference) := by
  have sound := reachable.sound
  refine ⟨?leads, ?elsewhere, fun _ _ _ => targetNode_of_standsFor sound,
    Schema.no_common_iff reachable.grounded _ _, ?again⟩
  case leads =>
    intro reference
    rcases targetNode_cases sound reference with ⟨target, cell, stands, root⟩ | ⟨-, itself⟩
    · exact .inr ⟨target, cell, stands.2.2, stands.isCell sound, root⟩
    · exact .inl itself
  case elsewhere =>
    intro reference
    constructor
    · intro moved
      rcases targetNode_cases sound reference with ⟨target, cell, stands, root⟩ | ⟨-, itself⟩
      · exact ⟨target, cell, stands, root ▸ moved⟩
      · exact absurd itself moved
    · rintro ⟨target, cell, stands, other⟩
      rw [targetNode_of_standsFor sound stands]
      exact other
  case again =>
    intro apart reference
    rcases targetNode_cases sound reference with ⟨target, cell, stands, root⟩ | ⟨-, itself⟩
    · rw [root]
      apply targetNode_of_not_standsFor
      exact not_standsFor_root apart stands.2.2 (stands.isCell sound)
    · rw [itself, itself]

/-- The reference of the game leads to the root of the cell, which leads to itself. When the cell is
closed, the reference leads to itself as well. -/
theorem targetNode_leads_referring :
    (blank.run (referringActions ++ [.resolve referring])).targetNode referring =
        ⟨Uuid.ofNat 1, Uuid.ofNat 0⟩ ∧
      (blank.run (referringActions ++ [.resolve referring])).targetNode
          ⟨Uuid.ofNat 1, Uuid.ofNat 0⟩ = ⟨Uuid.ofNat 1, Uuid.ofNat 0⟩ ∧
      (blank.run (referringActions ++ [.resolve referring, .close (Uuid.ofNat 1)])).targetNode
          referring = referring := by
  have resolved : (blank.run (referringActions ++ [.resolve referring])).Reachable :=
    reachable_blank.run (by decide +kernel)
  have dangling :
      (blank.run (referringActions ++ [.resolve referring, .close (Uuid.ofNat 1)])).Reachable :=
    reachable_blank.run (by decide +kernel)
  obtain ⟨-, -, root, apart, again⟩ := targetNode_leads resolved
  have live : (blank.run (referringActions ++ [.resolve referring])).liveTarget? referring =
      some (Uuid.ofNat 1) := by
    decide +kernel
  obtain ⟨doc, found, targeted, cell, cellFound⟩ := liveTarget?_eq_some_iff.mp live
  have adapts := resolved.typed found targeted
  have leads := root referring _ cell ⟨⟨doc, found, adapts⟩, live, cellFound⟩
  have rooted : cell.root = Uuid.ofNat 0 := by
    have roots : ((blank.run (referringActions ++ [.resolve referring])).document?
        (Uuid.ofNat 1)).map (·.root) = some (Uuid.ofNat 0) := by
      decide +kernel
    rw [cellFound] at roots
    exact Option.some.inj roots
  rw [rooted] at leads
  refine ⟨leads, ?_, ?_⟩
  · rw [← leads]
    exact again (apart.mpr (by decide +kernel)) referring
  · obtain ⟨-, elsewhere, -⟩ := targetNode_leads dangling
    by_contra moved
    obtain ⟨target, -, ⟨-, still, -⟩, -⟩ := (elsewhere referring).mp moved
    have idle : (blank.run (referringActions ++
        [.resolve referring, .close (Uuid.ofNat 1)])).liveTarget? referring = none := by
      decide +kernel
    exact nomatch idle.symm.trans still

end Workspace

end LevelGraph
