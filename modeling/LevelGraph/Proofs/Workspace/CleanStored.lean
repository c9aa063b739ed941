import LevelGraph.Proofs.Document.DirtyMark
import LevelGraph.Proofs.Workspace.LoadSweep
import LevelGraph.Proofs.Workspace.Writes

/-!
# Clean documents are stored

A document that counts as clean is in the store. That is so when it was opened from the store or
saved where it belongs, and it remains so because every edit that changes something makes it dirty.
What is stored is the record of the document as it is, or the text of a record that has empty slots
besides: opening drops these, and the text stays as somebody wrote it.

Three things break this, and the sessions considered here are without them: somebody else writes to
the store, a document is declared stored from outside, or a save writes one document over the place
of another open one. The last is about every write that a sweep makes, unless the store refuses it.
-/

namespace LevelGraph

namespace Document

/-- The document is in a database: the text stored at its location is that of its record, or is read
as a record that is the document's up to empty slots. -/
def StoredIn (db : Database) (schema : Schema) (doc : Document) : Prop :=
  ∃ body, db.readBody doc.location = .ok (some body) ∧
    (body = (doc.toRecord schema).stored ∨
      ∃ record, NodeRecord.ofStored body = .ok record ∧ record.pruned = doc.toRecord schema)

end Document

namespace Workspace

/-- Every clean document is in the store. -/
def CleanStored (ws : Workspace) : Prop :=
  ∀ id doc, ws.document? id = some doc → doc.dirty = false →
    doc.StoredIn ws.repository.database ws.schema

/-- Whether a document is open and clean. -/
def holdsClean (ws : Workspace) (id : DocumentId) : Bool :=
  (ws.document? id).any fun doc => !doc.dirty

/-- A write that is not refused goes to no location where another document is open. -/
def Confined (ws : Workspace) (writes : List (String × DocumentId)) : Prop :=
  ∀ write ∈ writes, ws.repository.Writable write.1 →
    ∀ other ∈ ws.documentAt? write.1, other = write.2

instance (ws : Workspace) (writes : List (String × DocumentId)) : Decidable (ws.Confined writes) :=
  inferInstanceAs (Decidable (∀ write ∈ writes, _))

/-- Nobody else writes to the store, no document is declared stored, and no save writes a document
to the location of another open one. -/
def Undisturbed (ws : Workspace) (action : Action) : Prop :=
  match action with
  | .changeStore repository => repository.database = ws.repository.database
  | .edit _ edit => edit ≠ .markClean
  | action => ws.Confined (ws.writes action)

instance (ws : Workspace) (action : Action) : Decidable (ws.Undisturbed action) :=
  match action with
  | .changeStore repository => decEq repository.database ws.repository.database
  | .edit _ edit => inferInstanceAs (Decidable (edit ≠ .markClean))
  | .create _ _ | .openAt _ | .save _ | .saveTo _ _ | .close _ | .resolve _ | .loadSweep _
  | .saveSweep _ | .saveGame _ => inferInstanceAs (Decidable (ws.Confined _))

variable {ws after : Workspace}

/-- A clean document is open and not dirty. -/
theorem holdsClean_iff {id : DocumentId} :
    ws.holdsClean id = true ↔ ∃ doc, ws.document? id = some doc ∧ doc.dirty = false := by
  simp only [holdsClean, Option.any_eq_true, Bool.not_eq_true']

/-- The last confined write to the location of an open document is that document's own. -/
theorem Confined.writer (sound : ws.Sound) {writes : List (String × DocumentId)}
    (confined : ws.Confined writes) {id : DocumentId} {doc : Document}
    (found : ws.document? id = some doc) (writable : ws.repository.Writable doc.location)
    {writer : DocumentId} (last : lastWriter? writes doc.location = some writer) : writer = id :=
  (confined _ (mem_of_lastWriter? last) writable id (sound.filed found).2).symm

/-- Confined writes keep clean documents stored.

Proof: a document that a write made clean is the last one written to its location. Of another one
nothing was written there, because its location is nobody else's. -/
theorem CleanStored.afterWrites (stored : ws.CleanStored) (sound : ws.Sound)
    {writes : List (String × DocumentId)}
    (open_ : ∀ write ∈ writes, ∃ doc, ws.document? write.2 = some doc)
    (confined : ws.Confined writes) : (ws.afterWrites writes).CleanStored := by
  intro id held heldFound clean
  obtain ⟨locations, swept⟩ := swept_afterWrites open_
  obtain ⟨doc, found, -⟩ := swept.same.symm.document? heldFound
  rw [document?_afterWrites found, Option.some.injEq] at heldFound
  by_cases written : (doc.location, id) ∈ writes ∧ ws.repository.Writable doc.location
  · obtain ⟨listed, writable⟩ := written
    rw [if_pos ⟨listed, writable⟩] at heldFound
    have isWritten := lastWriter?_isSome.mpr (List.mem_map.mpr ⟨_, listed, rfl⟩)
    obtain ⟨writer, last⟩ := Option.isSome_iff_exists.mp isWritten
    obtain ⟨source, sourceFound, body⟩ := swept.body writable last
    rw [confined.writer sound found writable last, found, Option.some.injEq] at sourceFound
    rw [← heldFound, swept.same.schema]
    exact ⟨_, body, .inl (by rw [sourceFound]; rfl)⟩
  · rw [if_neg written] at heldFound
    subst heldFound
    obtain ⟨body, read, agrees⟩ := stored _ _ found clean
    -- A write to the place of this document would be its own and would have been counted above.
    have elsewhere : doc.location ∉ locations := by
      intro saved
      obtain ⟨writable, isWritten⟩ := (swept.saved _).mp saved
      obtain ⟨writer, last⟩ := Option.isSome_iff_exists.mp isWritten
      have own := confined.writer sound found writable last
      exact written ⟨own ▸ mem_of_lastWriter? last, writable⟩
    rw [swept.same.schema]
    exact ⟨body, (swept.frame elsewhere).trans read, agrees⟩

/-- Nothing was stored, and a clean document that is open was open with the same tree or has been
read from the store. -/
structure Unwritten (ws after : Workspace) : Prop where
  /-- The schemas agree. -/
  schema : after.schema = ws.schema
  /-- The stores agree. -/
  repository : after.repository = ws.repository
  /-- A clean document was open, but for its targets, or is the stored one. -/
  clean : ∀ {id doc}, after.document? id = some doc → doc.dirty = false →
    (∃ before targets, ws.document? id = some before ∧ doc = { before with targets := targets }) ∨
      ws.loadAt id doc.location = .ok doc

/-- Where nothing is done, nothing is stored. -/
theorem Unwritten.refl (ws : Workspace) : ws.Unwritten ws :=
  ⟨rfl, rfl, fun found _ => .inl ⟨_, _, found, rfl⟩⟩

/-- Creating a document opens a dirty one. -/
theorem unwritten_create (location : String) (rootType : TypeId) :
    ws.Unwritten (ws.create location rootType).after := by
  unfold create
  split
  · exact .refl ws
  · refine ⟨rfl, rfl, fun {id doc} found clean => ?_⟩
    rw [document?_register] at found
    split at found
    · cases found
      cases clean
    · exact .inl ⟨doc, doc.targets, found, rfl⟩

/-- Opening a location stores nothing, and what it opens was read from the store. -/
theorem Opened.unwritten {location : String} (opened : ws.Opened location after) :
    ws.Unwritten after := by
  refine ⟨opened.schema, opened.repository, fun {id doc} found _ => ?_⟩
  cases before : ws.document? id with
  | none =>
    obtain ⟨located, -, -, loaded⟩ := opened.opened found before
    exact .inr (located ▸ loaded)
  | some held =>
    have same := (opened.held before).symm.trans found
    rw [Option.some.injEq] at same
    exact .inl ⟨held, held.targets, rfl, same ▸ rfl⟩

/-- Joining references stores nothing: their document only gets targets, and others are read from the
store. -/
theorem Joined.unwritten {document : DocumentId} {cells : List NodeId}
    (joined : ws.Joined document cells after) : ws.Unwritten after := by
  refine ⟨joined.schema, joined.repository, fun {id doc} found _ => ?_⟩
  cases before : ws.document? id with
  | none =>
    obtain ⟨-, -, loaded, -⟩ := joined.opened found before
    exact .inr loaded
  | some held =>
    obtain ⟨targets, heldAfter⟩ := joined.held before
    rw [found, Option.some.injEq] at heldAfter
    exact .inl ⟨held, targets, rfl, heldAfter⟩

/-- Closing a document stores nothing. -/
theorem unwritten_close (id : DocumentId) : ws.Unwritten (ws.close id).after := by
  obtain ⟨schema, repository, -⟩ := ws.close_after id
  refine ⟨schema, repository, fun {other doc} found _ => ?_⟩
  cases gone : ws.document? id with
  | none =>
    simp only [close, gone] at found
    exact .inl ⟨doc, doc.targets, found, rfl⟩
  | some held =>
    rw [document?_close gone] at found
    split at found
    · cases found
    · exact .inl ⟨doc, doc.targets, found, rfl⟩

/-- Resolving a reference stores nothing. -/
theorem unwritten_resolve (sound : ws.Sound) {reference : NodeRef}
    (distinct : (ws.resolve reference).after.supply.Distinct) :
    ws.Unwritten (ws.resolve reference).after := by
  cases found : ws.document? reference.document with
  | none =>
    have idle : ws.liveTarget? reference = none := by
      simp only [liveTarget?, found, Option.bind_none, Option.filter_none]
    have undeclared : ws.declaredLocation reference =
        .error (.documentNotOpen reference.document) := by
      simp only [declaredLocation, found]
    simp only [resolve, idle, undeclared, fail]
    exact .refl ws
  | some doc => exact (joined_resolve sound found reference.node distinct).unwritten

/-- A load sweep stores nothing. -/
theorem unwritten_loadSweep (sound : ws.Sound) {game : NodeRef}
    (distinct : (ws.loadSweep game).after.supply.Distinct) :
    ws.Unwritten (ws.loadSweep game).after := by
  cases listed : ws.cellsOf? game with
  | none =>
    simp only [loadSweep, listed]
    exact .refl ws
  | some cells =>
    obtain ⟨doc, found, -⟩ := Option.bind_eq_some_iff.mp ((ws.cellsOf?_eq game).symm.trans listed)
    simp only [loadSweep, listed] at distinct ⊢
    exact (joined_resolveEach sound found cells distinct).unwritten

/-- What writes nothing keeps clean documents stored. -/
theorem CleanStored.unwritten (stored : ws.CleanStored) (unwritten : ws.Unwritten after) :
    after.CleanStored := by
  intro id doc found clean
  rw [unwritten.schema, unwritten.repository]
  rcases unwritten.clean found clean with ⟨before, targets, beforeFound, rfl⟩ | loaded
  · have beforeStored := stored id before beforeFound clean
    exact beforeStored
  · obtain ⟨-, -, -, -, body, record, read, decoded, pruned⟩ := loadAt_spec loaded
    exact ⟨body, read, .inr ⟨record, decoded, pruned⟩⟩

/-- An edit keeps clean documents stored: it leaves its document as it was or makes it dirty. -/
theorem CleanStored.edit (stored : ws.CleanStored) (id : DocumentId) {edit : Edit}
    (unlinked : edit.links = false) (own : edit ≠ .markClean) : (ws.edit id edit).CleanStored := by
  intro other doc found clean
  unfold Workspace.edit at found ⊢
  cases old : ws.document? id with
  | none =>
    rw [old] at found
    exact stored _ _ found clean
  | some before =>
    rw [old] at found
    rcases of_document?_replace found with ⟨-, isEdited⟩ | ⟨-, stays⟩
    · unfold Document.after at isEdited
      cases done : edit.result? before with
      | none =>
        rw [done, Option.getD_none] at isEdited
        subst isEdited
        exact stored _ _ old clean
      | some changed =>
        rw [done, Option.getD_some] at isEdited
        rw [isEdited, Document.dirty_of_result? unlinked own done] at clean
        cases clean
    · exact stored _ _ stays clean

/-- An undisturbed action keeps clean documents stored. -/
theorem CleanStored.perform (stored : ws.CleanStored) (sound : ws.Sound) {action : Action}
    (admits : ws.Admits action) (distinct : (ws.perform action).supply.Distinct)
    (undisturbed : ws.Undisturbed action) : (ws.perform action).CleanStored := by
  have saved {action : Action} (confined : ws.Confined (ws.writes action)) :
      (ws.afterWrites (ws.writes action)).CleanStored :=
    stored.afterWrites sound (fun _ => open_of_mem_writes) confined
  cases action with
  | create location rootType => exact stored.unwritten (unwritten_create location rootType)
  | openAt location => exact stored.unwritten (opened_openAt sound location distinct).unwritten
  | close id => exact stored.unwritten (unwritten_close id)
  | resolve reference => exact stored.unwritten (unwritten_resolve sound distinct)
  | loadSweep game => exact stored.unwritten (unwritten_loadSweep sound distinct)
  | save id =>
    change (ws.save id).after.CleanStored
    rw [after_save]
    exact saved undisturbed
  | saveTo id location =>
    change (ws.saveTo id location).after.CleanStored
    rw [after_saveTo]
    exact saved undisturbed
  | saveSweep game =>
    change (ws.saveSweep game).after.CleanStored
    rw [after_saveSweep]
    exact saved undisturbed
  | saveGame game =>
    change (ws.saveGame game).after.CleanStored
    rw [after_saveGame]
    exact saved undisturbed
  | edit id edit => exact stored.edit id admits.1 undisturbed
  | changeStore repository =>
    intro id doc found clean
    obtain ⟨body, read, agrees⟩ := stored _ _ found clean
    exact ⟨body, (congrArg (fun db : Database => db.readBody doc.location) undisturbed).trans read,
      agrees⟩

/-- In an undisturbed session clean documents are stored, by induction on the session. -/
theorem ReachableBy.cleanStored (reachable : ReachableBy Undisturbed ws) : ws.CleanStored := by
  induction reachable with
  | start declared repository issue => exact fun id doc open_ => nomatch open_
  | performed reachable action admits distinct undisturbed inductionHypothesis =>
    exact inductionHypothesis.perform reachable.reachable.sound admits distinct undisturbed

/-- In a session over a store that nobody else writes to, in which no document is declared stored
and no save writes one over the place of another open document, every clean document is in the
store. -/
theorem stored_of_clean (reachable : ReachableBy Undisturbed ws) {id : DocumentId} {doc : Document}
    (found : ws.document? id = some doc) (clean : doc.dirty = false) :
    doc.StoredIn ws.repository.database ws.schema :=
  reachable.cleanStored id doc found clean

/-- The mixed folder is swept, its cell document is copied to a free location, and the game is saved
with its cells. -/
def copiedActions : List Action :=
  mixedActions ++ [.loadSweep mixedGame, .saveTo (Uuid.ofNat 6) "copy.cell",
    .saveGame mixedGame.document]

/-- The session in which that is done. -/
def copied : Workspace := blank.run copiedActions

/-- All of this can be done, nothing of it disturbs the store, and both documents are clean afterwards.
-/
theorem run_copied :
    blank.AdmitsAll copiedActions ∧ AllowsAll Undisturbed blank copiedActions ∧
      copied.holdsClean mixedGame.document = true ∧ copied.holdsClean (Uuid.ofNat 6) = true := by
  decide +kernel

/-- The game and its cell document are open and clean, and stored. -/
theorem stored_of_clean_copied :
    (∃ game, copied.document? mixedGame.document = some game ∧ game.dirty = false ∧
      game.StoredIn copied.repository.database copied.schema) ∧
    ∃ cell, copied.document? (Uuid.ofNat 6) = some cell ∧ cell.dirty = false ∧
      cell.StoredIn copied.repository.database copied.schema := by
  obtain ⟨admits, allows, gameClean, cellClean⟩ := run_copied
  have reachable : ReachableBy Undisturbed copied :=
    ReachableBy.run (.start Schema.ofCollection_baseline _ _) admits allows
  obtain ⟨game, gameFound, gameClean⟩ := holdsClean_iff.mp gameClean
  obtain ⟨cell, cellFound, cellClean⟩ := holdsClean_iff.mp cellClean
  exact ⟨⟨game, gameFound, gameClean, stored_of_clean reachable gameFound gameClean⟩,
    cell, cellFound, cellClean, stored_of_clean reachable cellFound cellClean⟩

end Workspace

end LevelGraph
