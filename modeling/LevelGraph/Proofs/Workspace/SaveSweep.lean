import LevelGraph.Proofs.Workspace.LoadSweep
import LevelGraph.Proofs.Workspace.Writes

/-!
# What a save sweep reports and stores

A save sweep goes on whatever happens to a single reference, so its saves and its failures are
interleaved. A write changes neither what a reference stands for nor which locations are refused,
so what becomes of a reference is settled by the workspace before the sweep. `saveOutcome` says what,
by saving its target alone, and the three lists of the report are read off the outcomes.

The store is settled by the references whose write is accepted: the last one that declares a location
decides what is stored there. A document becomes clean when an accepted write stores it where it
belongs, which may be the write of any of its references, and stays as it is otherwise.
-/

namespace LevelGraph

/-- What becomes of a reference in a save sweep. -/
inductive SaveOutcome where
  /-- Its target was written to a location. -/
  | saved (location : String)
  /-- It stands for no open document. -/
  | skipped (cell : NodeId)
  /-- Its target could not be saved. -/
  | failed (failure : ReferenceFailure)
  deriving DecidableEq

namespace SaveOutcome

/-- The location written. -/
def saved? : SaveOutcome → Option String
  | saved location => some location
  | _ => none

/-- The reference skipped. -/
def skipped? : SaveOutcome → Option NodeId
  | skipped cell => some cell
  | _ => none

/-- The failure. -/
def failed? : SaveOutcome → Option ReferenceFailure
  | failed failure => some failure
  | _ => none

end SaveOutcome

namespace Workspace

variable {ws after : Workspace} {document : DocumentId}

/-- What a save sweep does with a reference: what saving its target alone comes to. -/
def saveOutcome (ws : Workspace) (document : DocumentId) (cell : NodeId × Option String) :
    SaveOutcome :=
  match ws.liveTarget? ⟨document, cell.1⟩ with
  | none => .skipped cell.1
  | some target =>
    match usableLocation? cell.2 with
    | none => .failed (withoutLocation cell.1)
    | some location =>
      match (ws.saveTo target location).result with
      | .ok () => .saved location
      | .error error => .failed ⟨cell.1, some location, error.message⟩

/-- Earlier writes change no outcome. -/
theorem saveOutcome_saveTo (id : DocumentId) (location : String) :
    (ws.saveTo id location).after.saveOutcome document = ws.saveOutcome document := by
  have same := ws.sameDocuments_saveTo id location
  funext cell
  -- Whether a save succeeds depends on what is open and refused, and not on what is stored.
  have results (target : DocumentId) (place : String) :
      ((ws.saveTo id location).after.saveTo target place).result =
        (ws.saveTo target place).result := by
    rw [result_saveTo, result_saveTo, refusal?_saveTo]
    have agree := same.documents target
    cases before : ws.document? target with
    | none =>
      rw [before, Option.map_none, Option.map_eq_none_iff] at agree
      rw [agree]
    | some doc =>
      obtain ⟨held, heldFound, -⟩ := same.document? before
      rw [heldFound]
  simp only [saveOutcome, same.liveTarget?, results]

/-- A sweep reports of every reference what saving its target alone comes to. -/
theorem report_saveEach (document : DocumentId) (cells : List (NodeId × Option String))
    (ws : Workspace) :
    (saveEach document cells ws).result =
      ⟨(cells.map (ws.saveOutcome document)).filterMap SaveOutcome.saved?,
        (cells.map (ws.saveOutcome document)).filterMap SaveOutcome.skipped?,
        (cells.map (ws.saveOutcome document)).filterMap SaveOutcome.failed?⟩ := by
  induction cells generalizing ws with
  | nil => rfl
  | cons cell rest inductionHypothesis =>
    obtain ⟨cell, declared⟩ := cell
    rw [saveEach, List.map_cons]
    cases live : ws.liveTarget? ⟨document, cell⟩ with
    | none =>
      have outcome : ws.saveOutcome document (cell, declared) = .skipped cell := by
        simp only [saveOutcome, live]
      rw [outcome]
      dsimp only
      rw [inductionHypothesis]
      rfl
    | some target =>
      cases usable : usableLocation? declared with
      | none =>
        have outcome : ws.saveOutcome document (cell, declared) =
            .failed (withoutLocation cell) := by
          simp only [saveOutcome, live, usable]
        rw [outcome]
        dsimp only
        rw [inductionHypothesis]
        rfl
      | some location =>
        have later := inductionHypothesis (ws.saveTo target location).after
        rw [saveOutcome_saveTo] at later
        dsimp only
        cases done : (ws.saveTo target location).result with
        | ok _ =>
          have outcome : ws.saveOutcome document (cell, declared) = .saved location := by
            simp only [saveOutcome, live, usable, done]
          rw [outcome, later]
          rfl
        | error error =>
          have outcome : ws.saveOutcome document (cell, declared) =
              .failed ⟨cell, some location, error.message⟩ := by
            simp only [saveOutcome, live, usable, done]
          rw [outcome, later]
          rfl

/-- The write of a reference is accepted: it stands for an open document and declares a location that
is not blank, and saving the document there is not refused. -/
structure Accepts (ws : Workspace) (document : DocumentId) (doc : Document) (cell : NodeId)
    (location : String) (target : DocumentId) : Prop where
  /-- The reference stands for the document. -/
  live : ws.liveTarget? ⟨document, cell⟩ = some target
  /-- It declares the location as it is. -/
  declares : doc.attribute? cell Names.uriAttribute = some location
  /-- That is not blank. -/
  visible : Text.isBlankText location = false
  /-- The save succeeds. -/
  accepted : (ws.saveTo target location).result = .ok ()

/-- Accepted writes are the writes of references at locations where documents can be saved. -/
theorem accepts_iff {doc : Document} {cell : NodeId} {location : String} {target : DocumentId} :
    ws.Accepts document doc cell location target ↔
      ws.cellWrite? document (doc.declaration cell) = some (location, target) ∧
        ws.repository.Writable location := by
  unfold cellWrite? usableLocation? Document.declaration
  dsimp only
  constructor
  · rintro ⟨live, declares, visible, accepted⟩
    obtain ⟨held, found, writable⟩ := saveTo_ok accepted
    rw [live, declares]
    simp only [Option.filter_some, visible, Bool.not_false, if_true]
    exact ⟨trivial, writable⟩
  · rintro ⟨write, writable⟩
    split at write
    · next target place live usable =>
      cases write
      obtain ⟨declares, -⟩ := Option.filter_eq_some_iff.mp usable
      obtain ⟨-, -, -, held, found⟩ := liveTarget?_eq_some_iff.mp live
      exact ⟨live, declares, writable.visible, ((saveTo_spec found location).1 writable).1⟩
    · cases write

/-- What a save sweep over the listed references of a document reports and leaves behind. -/
structure SaveSwept (ws : Workspace) (document : DocumentId) (doc : Document) (cells : List NodeId)
    (outcome : Outcome SaveReport) : Prop where
  /-- The three lists of the report are the outcomes of the references, in order. -/
  report : outcome.result =
    ⟨((cells.map doc.declaration).map (ws.saveOutcome document)).filterMap SaveOutcome.saved?,
      ((cells.map doc.declaration).map (ws.saveOutcome document)).filterMap SaveOutcome.skipped?,
      ((cells.map doc.declaration).map (ws.saveOutcome document)).filterMap SaveOutcome.failed?⟩
  /-- Skipped are the references that stand for no open document. -/
  skipped : outcome.result.skipped = cells.filter fun cell =>
    (ws.liveTarget? ⟨document, cell⟩).isNone
  /-- Saved is a reference when its write is accepted. -/
  saved : ∀ {cell location}, cell ∈ cells →
    (ws.saveOutcome document (doc.declaration cell) = .saved location ↔
      ∃ target, ws.Accepts document doc cell location target)
  /-- The last accepted write to a location decides what is stored there. -/
  body : ∀ {earlier cell later location target}, cells = earlier ++ cell :: later →
    ws.Accepts document doc cell location target →
    (∀ other ∈ later, ∀ otherTarget, ¬ ws.Accepts document doc other location otherTarget) →
    ∃ held, ws.document? target = some held ∧
      outcome.after.repository.database.readBody location =
        .ok (some (held.toRecord ws.schema).stored)
  /-- Every other location keeps what is stored there. -/
  frame : ∀ {location},
    (∀ cell ∈ cells, ∀ target, ¬ ws.Accepts document doc cell location target) →
    outcome.after.repository.database.readBody location =
      ws.repository.database.readBody location
  /-- A document that an accepted write stores at its own location is clean afterwards. -/
  cleaned : ∀ {id held}, ws.document? id = some held →
    (∃ cell ∈ cells, ws.Accepts document doc cell held.location id) →
    outcome.after.document? id = some { held with dirty := false }
  /-- A document that none stores there is as it was. -/
  kept : ∀ {id held}, ws.document? id = some held →
    (∀ cell ∈ cells, ¬ ws.Accepts document doc cell held.location id) →
    outcome.after.document? id = some held
  /-- No document was opened. -/
  closed : ∀ {id}, ws.document? id = none → outcome.after.document? id = none
  /-- The same documents are at the same locations. -/
  locations : outcome.after.locations = ws.locations
  /-- The same locations are refused. -/
  refusals : ∀ location, outcome.after.repository.refusal? location =
    ws.repository.refusal? location

/-- A save sweep from a node that is no game with a folder does nothing. -/
theorem saveSweep_of_missing {game : NodeRef}
    (missing : ∀ doc, ws.document? game.document = some doc →
      doc.folder? ws.schema game.node = none) :
    ws.saveSweep game = ⟨SaveReport.empty, ws, []⟩ := by
  simp only [saveSweep, cellsOf?_eq_none missing]

/-- A save sweep over a folder saves its references. -/
theorem saveSweep_of_folder {game : NodeRef} {doc : Document} {folder : NodeId}
    (found : ws.document? game.document = some doc)
    (first : doc.folder? ws.schema game.node = some folder) :
    (ws.saveSweep game).result = (saveEach game.document
        ((doc.folderCells ws.schema folder).map doc.declaration) ws).result ∧
      (ws.saveSweep game).after = (saveEach game.document
        ((doc.folderCells ws.schema folder).map doc.declaration) ws).after := by
  simp only [saveSweep, cellsOf?_of_folder found first, and_self]

/-- The outcome of a reference is a save exactly when its write is accepted. -/
theorem saveOutcome_eq_saved_iff {doc : Document} {cell : NodeId} {location : String} :
    ws.saveOutcome document (doc.declaration cell) = .saved location ↔
      ∃ target, ws.Accepts document doc cell location target := by
  constructor
  · intro outcome
    unfold saveOutcome Document.declaration at outcome
    dsimp only at outcome
    split at outcome
    · cases outcome
    · next target live =>
      split at outcome
      · cases outcome
      · next place usable =>
        split at outcome
        · next accepted =>
          cases outcome
          obtain ⟨declares, visible⟩ := Option.filter_eq_some_iff.mp usable
          rw [Bool.not_eq_true'] at visible
          exact ⟨target, live, declares, visible, accepted⟩
        · cases outcome
  · rintro ⟨target, live, declares, visible, accepted⟩
    have usable : usableLocation? (some location) = some location := by
      simp only [usableLocation?, Option.filter_some, visible, Bool.not_false, if_true]
    simp only [saveOutcome, Document.declaration, live, declares, usable, accepted]

/-- Skipped are the references that stand for no open document. -/
theorem skipped_of_outcomes (doc : Document) (cells : List NodeId) :
    ((cells.map doc.declaration).map (ws.saveOutcome document)).filterMap SaveOutcome.skipped? =
      cells.filter fun cell => (ws.liveTarget? ⟨document, cell⟩).isNone := by
  rw [List.filterMap_map, List.filterMap_map, ← List.filterMap_eq_filter]
  refine List.filterMap_congr fun cell _ => ?_
  cases live : ws.liveTarget? ⟨document, cell⟩ with
  | none =>
    simp only [Function.comp, saveOutcome, Document.declaration, Option.guard, live,
      Option.isNone_none, if_true]
    rfl
  | some target =>
    simp only [Function.comp, saveOutcome, Document.declaration, Option.guard, live,
      Option.isNone_some, Bool.false_eq_true, if_false]
    split
    · rfl
    · split <;> rfl

/-- References without an accepted write to a location have no last writer there. -/
theorem lastWriter?_of_unaccepted {doc : Document} {location : String}
    (writable : ws.repository.Writable location) {cells : List NodeId}
    (unaccepted : ∀ cell ∈ cells, ∀ target, ¬ ws.Accepts document doc cell location target) :
    lastWriter? ((cells.map doc.declaration).filterMap (ws.cellWrite? document)) location =
      none := by
  refine Option.eq_none_iff_forall_ne_some.mpr fun target last => ?_
  obtain ⟨declared, listed, write⟩ := List.mem_filterMap.mp (mem_of_lastWriter? last)
  obtain ⟨cell, member, rfl⟩ := List.mem_map.mp listed
  exact unaccepted cell member target (accepts_iff.mpr ⟨write, writable⟩)

/-- The last reference with an accepted write to a location is the last writer there. -/
theorem lastWriter?_of_accepts {doc : Document} {location : String} {target : DocumentId}
    {earlier later : List NodeId} {cell : NodeId}
    (accepts : ws.Accepts document doc cell location target)
    (last : ∀ other ∈ later, ∀ otherTarget,
      ¬ ws.Accepts document doc other location otherTarget) :
    lastWriter? (((earlier ++ cell :: later).map doc.declaration).filterMap
      (ws.cellWrite? document)) location = some target := by
  obtain ⟨write, writable⟩ := accepts_iff.mp accepts
  have own : lastWriter? [(location, target)] location = some target := by
    simp only [lastWriter?, List.reverse_singleton, List.find?_singleton, decide_true, if_true,
      Option.map_some]
  have writes : ((earlier ++ cell :: later).map doc.declaration).filterMap
      (ws.cellWrite? document) =
        (earlier.map doc.declaration).filterMap (ws.cellWrite? document) ++
          ([(location, target)] ++
            (later.map doc.declaration).filterMap (ws.cellWrite? document)) := by
    simp only [List.map_append, List.map_cons, List.filterMap_append, List.filterMap_cons, write,
      List.singleton_append]
  rw [writes, lastWriter?_append, lastWriter?_append, lastWriter?_of_unaccepted writable last, own]
  rfl

/-- What a save sweep does, in any workspace and with any locations refused. A node that is no game
with a folder makes a sweep that does nothing. Otherwise every reference in the folder is saved,
skipped or failed, as saving its target alone would come to; the last accepted write to a location
decides what is stored there; and a document becomes clean exactly if an accepted write stores it at
its own location. -/
theorem saveSwept_of_saveSweep (ws : Workspace) (game : NodeRef) :
    ((∀ doc, ws.document? game.document = some doc → doc.folder? ws.schema game.node = none) →
      ws.saveSweep game = ⟨SaveReport.empty, ws, []⟩) ∧
    ∀ doc folder, ws.document? game.document = some doc →
      doc.folder? ws.schema game.node = some folder →
      ws.SaveSwept game.document doc (doc.folderCells ws.schema folder) (ws.saveSweep game) := by
  refine ⟨saveSweep_of_missing, ?_⟩
  intro doc folder found first
  obtain ⟨reported, left⟩ := saveSweep_of_folder found first
  have swept := swept_saveEach game.document
    ((doc.folderCells ws.schema folder).map doc.declaration) ws
  rw [report_saveEach] at reported
  rw [← left] at swept
  rw [after_saveEach] at left
  generalize doc.folderCells ws.schema folder = cells at *
  generalize ws.saveSweep game = outcome at *
  refine ⟨reported, ?skipped, fun _ => saveOutcome_eq_saved_iff, ?body, ?frame, ?cleaned, ?kept,
    ?closed, swept.same.locations, ?refusals⟩
  case skipped =>
    rw [reported]
    exact skipped_of_outcomes doc cells
  case body =>
    rintro earlier cell later location target rfl accepts last
    exact swept.body (accepts_iff.mp accepts).2 (lastWriter?_of_accepts accepts last)
  case frame =>
    intro location unaccepted
    refine swept.frame fun saved => ?_
    obtain ⟨writable, isWritten⟩ := (swept.saved location).mp saved
    rw [lastWriter?_of_unaccepted writable unaccepted] at isWritten
    cases isWritten
  case cleaned =>
    rintro id held heldFound ⟨cell, member, accepts⟩
    obtain ⟨write, writable⟩ := accepts_iff.mp accepts
    have written := List.mem_filterMap.mpr ⟨_, List.mem_map_of_mem member, write⟩
    rw [left, document?_afterWrites heldFound, if_pos ⟨written, writable⟩]
    rfl
  case kept =>
    intro id held heldFound unaccepted
    rw [left, document?_afterWrites heldFound, if_neg]
    rintro ⟨written, writable⟩
    obtain ⟨declared, listed, write⟩ := List.mem_filterMap.mp written
    obtain ⟨cell, member, rfl⟩ := List.mem_map.mp listed
    exact unaccepted cell member (accepts_iff.mpr ⟨write, writable⟩)
  case closed =>
    intro id absent
    have agree := swept.same.documents id
    rw [absent, Option.map_none, Option.map_eq_none_iff] at agree
    exact agree
  case refusals =>
    intro location
    rw [left, refusal?_afterWrites]

/-- The mixed folder after a load sweep, with its second reference to the cell document redirected to
another location. -/
def mixedRedirected : Workspace :=
  mixed.run [.loadSweep mixedGame,
    .edit mixedGame.document (.setAttribute (Uuid.ofNat 13) Names.uriAttribute "shut.cell")]

/-- That session when saving to the other location is refused. -/
def shut : Workspace :=
  mixedRedirected.perform (.changeStore { mixedRedirected.repository with
    closed := fun location => location == "shut.cell" })

/-- In that session the game has its folder, and the sweep saves one reference and fails with the one
that is refused. The folder itself is no game with a folder. -/
theorem run_shut :
    ((shut.document? mixedGame.document).bind fun doc =>
      doc.folder? shut.schema mixedGame.node) = some (Uuid.ofNat 10) ∧
    ((shut.document? mixedGame.document).bind fun doc =>
      doc.folder? shut.schema (Uuid.ofNat 10)) = none ∧
    (shut.saveSweep mixedGame).result =
      ⟨["a.cell"], [Uuid.ofNat 12, Uuid.ofNat 14],
        [⟨Uuid.ofNat 13, some "shut.cell",
          (WorkspaceError.repository (.invalidLocation "shut.cell")).message⟩]⟩ := by
  decide +kernel

/-- One reference is saved, two are skipped and one fails, and a sweep from the folder itself does
nothing. -/
theorem saveSwept_shut :
    (shut.saveSweep mixedGame).result =
      ⟨["a.cell"], [Uuid.ofNat 12, Uuid.ofNat 14],
        [⟨Uuid.ofNat 13, some "shut.cell",
          (WorkspaceError.repository (.invalidLocation "shut.cell")).message⟩]⟩ ∧
    (∃ doc, shut.document? mixedGame.document = some doc ∧
      doc.folder? shut.schema mixedGame.node = some (Uuid.ofNat 10) ∧
      shut.SaveSwept mixedGame.document doc (doc.folderCells shut.schema (Uuid.ofNat 10))
        (shut.saveSweep mixedGame)) ∧
    shut.saveSweep ⟨mixedGame.document, Uuid.ofNat 10⟩ = ⟨SaveReport.empty, shut, []⟩ := by
  obtain ⟨folder, noGame, report⟩ := run_shut
  obtain ⟨doc, found, first⟩ := Option.bind_eq_some_iff.mp folder
  refine ⟨report,
    ⟨doc, found, first, (saveSwept_of_saveSweep shut mixedGame).2 doc (Uuid.ofNat 10) found first⟩,
    (saveSwept_of_saveSweep shut ⟨mixedGame.document, Uuid.ofNat 10⟩).1 fun other otherFound => ?_⟩
  rw [otherFound, Option.bind_some] at noGame
  exact noGame

end Workspace

end LevelGraph
