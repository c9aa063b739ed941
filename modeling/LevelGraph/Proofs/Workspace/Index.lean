import LevelGraph.Proofs.Workspace.Reachable

/-!
# The index of open documents

Two tables are kept side by side: the open documents by identifier, and the identifiers by
location. Opening, creating and closing each update both, and a resolve that fails inside a
sweep opens and closes on its way. Whatever a session does, the tables stay inverse to each
other, so no location has two open documents and none leads to a closed one.

An identifier is issued once. One that names no open document after it was issued, because the
document was closed, names none ever after.
-/

namespace LevelGraph

namespace Workspace

variable {ws next : Workspace}

/-- In every reachable workspace the index and the open documents are inverse to each other.
A location leads to an identifier exactly when the document that is open under it is the one
with that identifier and that location. So no two open documents share a location, no
location leads to a closed document, and both tables have as many entries. -/
theorem index_inverse (reachable : ws.Reachable) :
    (∀ location id, ws.documentAt? location = some id ↔
      ∃ doc, ws.document? id = some doc ∧ doc.id = id ∧ doc.location = location) ∧
    (∀ id doc, ws.document? id = some doc → doc.id = id ∧ ws.documentAt? doc.location = some id) ∧
    (∀ first second doc other, ws.document? first = some doc → ws.document? second = some other →
      doc.location = other.location → first = second) ∧
    (∀ location id, ws.documentAt? location = some id → ws.documents.contains id = true) ∧
    ws.locations.size = ws.documents.size := by
  have sound := reachable.sound
  refine ⟨?inverse, fun id doc found => sound.filed found, ?alone, ?open_, ?size⟩
  case inverse =>
    intro location id
    constructor
    · intro placed
      obtain ⟨doc, found, located⟩ := sound.indexed placed
      exact ⟨doc, found, (sound.filed found).1, located⟩
    · rintro ⟨doc, found, -, rfl⟩
      exact (sound.filed found).2
  case alone =>
    intro first second doc other found otherFound same
    exact sound.eq_of_location found otherFound same
  case open_ =>
    intro location id placed
    obtain ⟨doc, found, -⟩ := sound.indexed placed
    exact (Table.contains_iff _ _).mpr ⟨doc, found⟩
  case size =>
    exact Table.size_eq_of_index (fun found => (sound.filed found).2) sound.indexed

/-- A cell document is open when a sweep over a game's two references opens a second document,
closes it again because it is no cell document, and resolves the other reference. -/
def refusedActions : List Action :=
  [.create "other.game" ⟨0⟩, .save (Uuid.ofNat 1), .close (Uuid.ofNat 1),
    .create "a.cell" ⟨3⟩, .create "level.game" ⟨0⟩,
    .edit (Uuid.ofNat 5) (.append (Uuid.ofNat 4) Names.placementsFolderChild ⟨1⟩ (Uuid.ofNat 10)),
    .edit (Uuid.ofNat 5) (.append (Uuid.ofNat 10) Names.cellChild ⟨2⟩ (Uuid.ofNat 11)),
    .edit (Uuid.ofNat 5) (.append (Uuid.ofNat 10) Names.cellChild ⟨2⟩ (Uuid.ofNat 12)),
    .edit (Uuid.ofNat 5) (.setAttribute (Uuid.ofNat 11) Names.uriAttribute "other.game"),
    .edit (Uuid.ofNat 5) (.setAttribute (Uuid.ofNat 12) Names.uriAttribute "a.cell"),
    .loadSweep ⟨Uuid.ofNat 5, Uuid.ofNat 4⟩]

/-- What was opened and closed again has left both tables. -/
theorem index_inverse_refused :
    (blank.run refusedActions).Reachable ∧
    (blank.run refusedActions).documentAt? "other.game" = none ∧
    (∃ doc, (blank.run refusedActions).document? (Uuid.ofNat 3) = some doc ∧
      doc.id = Uuid.ofNat 3 ∧ doc.location = "a.cell") ∧
    (blank.run refusedActions).locations.size = (blank.run refusedActions).documents.size := by
  have reachable : (blank.run refusedActions).Reachable := reachable_blank.run (by decide +kernel)
  obtain ⟨inverse, -, -, -, size⟩ := index_inverse reachable
  exact ⟨reachable, by decide +kernel, (inverse "a.cell" (Uuid.ofNat 3)).mp (by decide +kernel),
    size⟩

/-- A step opens no document under an identifier that was issued before. -/
theorem Step.stays_closed (step : Step ws next) (distinct : next.supply.Distinct) {id : DocumentId}
    (issued : ws.supply.Issued id) (closed : ws.document? id = none) : next.document? id = none := by
  cases step with
  | issued => exact closed
  | stored => exact closed
  | @opened doc identified =>
    have different : id ≠ doc.id := by
      intro same
      rw [same, identified] at issued
      exact IdSupply.Distinct.not_issued_next distinct issued
    rw [document?_register, if_neg different]
    exact closed
  | edited | linked =>
    rw [document?_replace, closed]
    split <;> rfl
  | closed found =>
    rw [document?_close found, closed]
    split <;> rfl

/-- Steps open no document under an identifier that was issued before. -/
theorem Steps.stays_closed (steps : Steps ws next) (distinct : next.supply.Distinct)
    {id : DocumentId} (issued : ws.supply.Issued id) (closed : ws.document? id = none) :
    next.document? id = none := by
  induction steps with
  | refl => exact closed
  | tail earlier step inductionHypothesis =>
    exact step.stays_closed distinct (issued.later (Steps.keeps earlier).2)
      (inductionHypothesis (distinct.earlier step.keeps.2))

/-- A session opens no document under an identifier that was issued before. -/
theorem run_stays_closed {actions : List Action} (admits : ws.AdmitsAll actions) {id : DocumentId}
    (issued : ws.supply.Issued id) (closed : ws.document? id = none) :
    (ws.run actions).document? id = none := by
  induction actions generalizing ws with
  | nil => exact closed
  | cons action rest inductionHypothesis =>
    obtain ⟨admitted, distinct, later⟩ := admits
    have steps := perform_steps admitted
    exact inductionHypothesis later (issued.later (Steps.keeps steps).2)
      (Steps.stays_closed steps distinct issued closed)

end Workspace

end LevelGraph
