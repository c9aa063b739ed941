import LevelGraph.Proofs.Workspace.LiveTarget

/-!
# Saving as a series of writes

A write puts an open document into the store at a location. Whatever is saved, by itself or in a
sweep, comes down to writes in a fixed order, and a write is refused or not for its location alone.
So a series of writes has an effect that can be told without going through it: which documents are
clean afterwards depends on the set of writes, and what is stored on the last one to each location.
-/

namespace LevelGraph

namespace Workspace

variable (ws : Workspace)

/-- The workspace after several writes in order. -/
def afterWrites (writes : List (String × DocumentId)) : Workspace :=
  writes.foldl (fun ws write => (ws.saveTo write.2 write.1).after) ws

/-- The first write is made in the workspace that is there, and the others in the one that it leaves. -/
theorem afterWrites_cons (write : String × DocumentId) (rest : List (String × DocumentId)) :
    ws.afterWrites (write :: rest) = (ws.saveTo write.2 write.1).after.afterWrites rest := rfl

/-- A save fails when the document is not open or the store refuses. -/
theorem result_saveTo (id : DocumentId) (location : String) :
    (ws.saveTo id location).result =
      match ws.document? id with
      | none => .error (.documentNotOpen id)
      | some _ =>
        match ws.repository.refusal? location with
        | some error => .error (.repository error)
        | none => .ok () := by
  unfold saveTo
  cases ws.document? id with
  | none => rfl
  | some doc =>
    dsimp only
    rw [Repository.save_eq]
    cases ws.repository.refusal? location <;> rfl

/-- A save changes no refusal. -/
theorem refusal?_saveTo (id : DocumentId) (location other : String) :
    (ws.saveTo id location).after.repository.refusal? other = ws.repository.refusal? other := by
  cases found : ws.document? id with
  | none => simp only [saveTo, found, fail]
  | some doc =>
    obtain ⟨succeeds, refused⟩ := saveTo_spec found location
    by_cases writable : ws.repository.Writable location
    · rw [(succeeds writable).2.1, Repository.refusal?_put]
    · rw [(refused writable).2]

/-- A save marks the document clean that it writes to its own location, and no other. -/
theorem document?_saveTo {other : DocumentId} {held : Document}
    (open_ : ws.document? other = some held) (id : DocumentId) (location : String) :
    (ws.saveTo id location).after.document? other =
      some (if (held.location, other) = (location, id) ∧ ws.repository.Writable held.location then
        held.markClean else held) := by
  cases found : ws.document? id with
  | none =>
    have foreign : ¬ ((held.location, other) = (location, id) ∧
        ws.repository.Writable held.location) := by
      rintro ⟨same, -⟩
      rw [(Prod.mk.inj same).2, found] at open_
      cases open_
    rw [if_neg foreign]
    simp only [saveTo, found, fail]
    exact open_
  | some doc =>
    by_cases writable : ws.repository.Writable location
    · have saved := Repository.save_of_writable writable (doc.toRecord ws.schema)
      simp only [saveTo, found, saved]
      by_cases own : doc.location = location
      · rw [if_pos own, document?_replace]
        by_cases same : other = id
        · rw [same, found, Option.some.injEq] at open_
          subst open_
          rw [if_pos same, if_pos ⟨by rw [own, same], own ▸ writable⟩]
          change (ws.document? other).map _ = _
          rw [same, found, Option.map_some]
        · rw [if_neg same, if_neg fun both => same (Prod.mk.inj both.1).2]
          exact open_
      · have foreign : ¬ ((held.location, other) = (location, id) ∧
            ws.repository.Writable held.location) := by
          rintro ⟨same, -⟩
          obtain ⟨located, sameId⟩ := Prod.mk.inj same
          rw [sameId, found, Option.some.injEq] at open_
          exact own (open_ ▸ located)
        rw [if_neg own, if_neg foreign]
        exact open_
    · rw [((saveTo_spec found location).2 writable).2, open_, if_neg]
      rintro ⟨same, writableThere⟩
      exact writable ((Prod.mk.inj same).1 ▸ writableThere)

/-- Writes change no refusal. -/
theorem refusal?_afterWrites (writes : List (String × DocumentId)) (location : String) :
    (ws.afterWrites writes).repository.refusal? location = ws.repository.refusal? location := by
  induction writes generalizing ws with
  | nil => rfl
  | cons write rest inductionHypothesis =>
    rw [afterWrites_cons, inductionHypothesis, refusal?_saveTo]

variable {ws} in
/-- After several writes a document is clean if one of them put it into the store at its own
location, and as it was otherwise. -/
theorem document?_afterWrites {writes : List (String × DocumentId)} {id : DocumentId}
    {doc : Document} (found : ws.document? id = some doc) :
    (ws.afterWrites writes).document? id =
      some (if (doc.location, id) ∈ writes ∧ ws.repository.Writable doc.location then
        doc.markClean else doc) := by
  induction writes generalizing ws doc with
  | nil =>
    rw [if_neg fun both => List.not_mem_nil both.1]
    exact found
  | cons write rest inductionHypothesis =>
    have first := document?_saveTo ws found write.2 write.1
    have sameWritable : (ws.saveTo write.2 write.1).after.repository.Writable doc.location ↔
        ws.repository.Writable doc.location := by
      rw [Repository.writable_iff, Repository.writable_iff, refusal?_saveTo]
    rw [afterWrites_cons]
    by_cases own : (doc.location, id) = (write.1, write.2) ∧ ws.repository.Writable doc.location
    · have written : (doc.location, id) ∈ write :: rest ∧ ws.repository.Writable doc.location :=
        ⟨List.mem_cons.mpr (.inl own.1), own.2⟩
      rw [if_pos own] at first
      rw [inductionHypothesis first, if_pos written]
      split <;> rfl
    · rw [if_neg own] at first
      rw [inductionHypothesis first]
      by_cases writable : ws.repository.Writable doc.location
      · have notFirst : (doc.location, id) ≠ write := fun same => own ⟨same, writable⟩
        simp only [sameWritable, writable, and_true, List.mem_cons, notFirst, false_or]
      · rw [if_neg fun both => writable (sameWritable.mp both.2), if_neg fun both => writable both.2]

variable {ws} in
/-- What is stored after several writes of open documents. -/
theorem swept_afterWrites {writes : List (String × DocumentId)}
    (open_ : ∀ write ∈ writes, ∃ doc, ws.document? write.2 = some doc) :
    ∃ locations, Swept ws (ws.afterWrites writes) writes locations := by
  induction writes generalizing ws with
  | nil => exact ⟨[], .refl ws⟩
  | cons write rest inductionHypothesis =>
    obtain ⟨doc, found⟩ := open_ write List.mem_cons_self
    have later : ∀ other ∈ rest, ∃ held,
        (ws.saveTo write.2 write.1).after.document? other.2 = some held := by
      intro other listed
      obtain ⟨held, heldFound⟩ := open_ other (List.mem_cons_of_mem write listed)
      exact ⟨_, document?_saveTo ws heldFound write.2 write.1⟩
    obtain ⟨locations, after⟩ := inductionHypothesis later
    cases done : (ws.saveTo write.2 write.1).result with
    | ok _ => exact ⟨_, (swept_of_saveTo found done).append after⟩
    | error error => exact ⟨_, (swept_of_refused found done).append after⟩

/-- A save sweep makes the writes of its references. -/
theorem after_saveEach (document : DocumentId) (cells : List (NodeId × Option String)) :
    (saveEach document cells ws).after =
      ws.afterWrites (cells.filterMap (ws.cellWrite? document)) := by
  induction cells generalizing ws with
  | nil => rfl
  | cons cell rest inductionHypothesis =>
    obtain ⟨cell, declared⟩ := cell
    rw [saveEach, List.filterMap_cons]
    cases live : ws.liveTarget? ⟨document, cell⟩ with
    | none =>
      simp only [cellWrite?, live]
      exact inductionHypothesis ws
    | some target =>
      cases usable : usableLocation? declared with
      | none =>
        simp only [cellWrite?, live, usable]
        exact inductionHypothesis ws
      | some location =>
        have later := inductionHypothesis (ws.saveTo target location).after
        rw [(ws.sameDocuments_saveTo target location).cellWrite?] at later
        simp only [cellWrite?, live, usable, afterWrites_cons]
        rw [← later]
        split <;> rfl

/-- The writes that an action makes, in order. A game save makes none unless its own document is
saved first. -/
def writes (ws : Workspace) : Action → List (String × DocumentId)
  | .save id => ((ws.document? id).map fun doc => (doc.location, id)).toList
  | .saveTo id location => ((ws.document? id).map fun _ => (location, id)).toList
  | .saveSweep game => ((ws.cellsOf? game).getD []).filterMap (ws.cellWrite? game.document)
  | .saveGame game =>
    match (ws.saveGame game).result with
    | .ok _ => ws.gameWrites game
    | .error _ => []
  | _ => []

variable {ws}

/-- References write open documents. -/
theorem open_of_mem_cellWrites {document : DocumentId} {cells : List (NodeId × Option String)}
    {write : String × DocumentId} (listed : write ∈ cells.filterMap (ws.cellWrite? document)) :
    ∃ doc, ws.document? write.2 = some doc := by
  obtain ⟨cell, -, written⟩ := List.mem_filterMap.mp listed
  unfold cellWrite? at written
  split at written
  · next target place live usable =>
    cases written
    obtain ⟨-, -, -, open_⟩ := liveTarget?_eq_some_iff.mp live
    exact open_
  · cases written

/-- What is written is open. -/
theorem open_of_mem_writes {action : Action} {write : String × DocumentId}
    (listed : write ∈ ws.writes action) : ∃ doc, ws.document? write.2 = some doc := by
  have own {id : DocumentId} (place : Document → String)
      (member : write ∈ ((ws.document? id).map fun doc => (place doc, id)).toList) :
      ∃ doc, ws.document? write.2 = some doc := by
    obtain ⟨doc, found, rfl⟩ := Option.map_eq_some_iff.mp (Option.mem_toList.mp member)
    exact ⟨doc, found⟩
  cases action with
  | save id => exact own Document.location listed
  | saveTo id location => exact own (fun _ => location) listed
  | saveSweep game => exact open_of_mem_cellWrites listed
  | saveGame game =>
    simp only [writes] at listed
    split at listed
    · rcases List.mem_append.mp listed with first | later
      · exact own Document.location first
      · exact open_of_mem_cellWrites later
    · cases listed
  | _ => cases listed

/-- Saving a document makes its write. -/
theorem after_save (id : DocumentId) : (ws.save id).after = ws.afterWrites (ws.writes (.save id)) := by
  cases found : ws.document? id with
  | none =>
    simp only [save, writes, found]
    rfl
  | some doc =>
    rw [save_eq_saveTo found]
    simp only [writes, found]
    rfl

/-- Saving to a location makes that write, if the document is open. -/
theorem after_saveTo (id : DocumentId) (location : String) :
    (ws.saveTo id location).after = ws.afterWrites (ws.writes (.saveTo id location)) := by
  cases found : ws.document? id with
  | none =>
    simp only [saveTo, writes, found]
    rfl
  | some doc =>
    simp only [writes, found]
    rfl

/-- A save sweep makes the writes of the references that it finds. -/
theorem after_saveSweep (game : NodeRef) :
    (ws.saveSweep game).after = ws.afterWrites (ws.writes (.saveSweep game)) := by
  cases listed : ws.cellsOf? game with
  | none =>
    simp only [saveSweep, writes, listed]
    rfl
  | some cells =>
    simp only [saveSweep, writes, listed]
    exact ws.after_saveEach game.document cells

/-- A game save makes the game's writes, or none. -/
theorem after_saveGame (game : DocumentId) :
    (ws.saveGame game).after = ws.afterWrites (ws.writes (.saveGame game)) := by
  cases done : (ws.saveGame game).result with
  | error error =>
    simp only [writes, done]
    exact after_of_saveGame_error done
  | ok report =>
    obtain ⟨doc, found⟩ : ∃ doc, ws.document? game = some doc := by
      cases found : ws.document? game with
      | some doc => exact ⟨doc, rfl⟩
      | none =>
        simp only [saveGame, save, found, fail] at done
        cases done
    obtain ⟨-, -, left⟩ := saveGame_ok found done
    rw [after_saveEach, (ws.sameDocuments_saveTo game doc.location).cellWrite?] at left
    simp only [← left, writes, done, gameWrites, found]
    rfl

end Workspace

end LevelGraph
