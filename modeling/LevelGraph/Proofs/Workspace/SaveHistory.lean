import LevelGraph.Proofs.Workspace.LoadSweep
import LevelGraph.Proofs.Workspace.Writes

/-!
# The store is the history of saves

What a session does to its store are its accepted saves and nothing else. `history` lists them in
order, be they saves of their own, turns of a sweep, or parts of a game save, and each with the
record that its document had at that moment. So the store can be told from what it held at the
beginning: at every location there is the record saved there last, or what was there before. This
holds for any store, at every point between two writes, and whatever else the session does.

The list is no invention of this account. The events that a session reports tell of the same saves
in the same order.
-/

namespace LevelGraph

/-- A document as it was saved. -/
structure Saving where
  /-- Where it was stored. -/
  location : String
  /-- The document. -/
  document : DocumentId
  /-- The document's record at that moment. -/
  record : NodeRecord

/-- The row that a saving leaves in the store. -/
def Saving.row (saving : Saving) : Row := ⟨saving.record.typeName, .text saving.record.stored⟩

/-- The event that tells of a saving. -/
def Saving.event (saving : Saving) : Event :=
  .documentSaved saving.location saving.record.nodeCount

/-- Whether an event tells of a saving. -/
def Event.isSaving : Event → Bool
  | documentSaved .. => true
  | _ => false

/-- Whether an action is one that saves. -/
def Action.saves : Action → Bool
  | save _ | saveTo _ _ | saveSweep _ | saveGame _ => true
  | _ => false

/-- The last saving at a location. -/
def lastSaving? (savings : List Saving) (location : String) : Option Saving :=
  savings.reverse.find? fun saving => decide (saving.location = location)

/-- A later saving at a location supersedes an earlier one. -/
theorem lastSaving?_append (front back : List Saving) (location : String) :
    lastSaving? (front ++ back) location =
      (lastSaving? back location).or (lastSaving? front location) := by
  rw [lastSaving?, List.reverse_append, List.find?_append]
  rfl

/-- What savings make of a database. -/
structure Recorded (before after : Database) (savings : List Saving) : Prop where
  /-- Where something was saved, the last saving is stored. -/
  saved : ∀ {location saving}, lastSaving? savings location = some saving →
    after.rows.find? location = some saving.row ∧
      after.readBody location = .ok (some saving.record.stored)
  /-- Elsewhere there is what was there before. -/
  kept : ∀ {location}, lastSaving? savings location = none →
    after.rows.find? location = before.rows.find? location ∧
      after.readBody location = before.readBody location
  /-- The layout version stays. -/
  version : after.version = before.version
  /-- The table stays. -/
  documents : after.documents = before.documents
  /-- The index stays. -/
  index : after.index = before.index

namespace Recorded

variable {before middle after : Database} {front back : List Saving}

/-- Without savings a database stays as it is. -/
theorem refl (db : Database) : Recorded db db [] :=
  ⟨fun last => (nomatch last), fun _ => ⟨rfl, rfl⟩, rfl, rfl, rfl⟩

/-- Savings that are recorded one after the other are recorded together, the later ones over the
earlier. -/
theorem append (first : Recorded before middle front) (second : Recorded middle after back) :
    Recorded before after (front ++ back) := by
  refine ⟨?saved, ?kept, second.version.trans first.version,
    second.documents.trans first.documents, second.index.trans first.index⟩
  case saved =>
    intro location saving last
    rw [lastSaving?_append] at last
    cases later : lastSaving? back location with
    | some other =>
      rw [later, Option.some_or, Option.some.injEq] at last
      exact second.saved (last ▸ later)
    | none =>
      rw [later, Option.none_or] at last
      obtain ⟨row, body⟩ := second.kept later
      exact ⟨row.trans (first.saved last).1, body.trans (first.saved last).2⟩
  case kept =>
    intro location unsaved
    rw [lastSaving?_append, Option.or_eq_none_iff] at unsaved
    obtain ⟨row, body⟩ := second.kept unsaved.1
    exact ⟨row.trans (first.kept unsaved.2).1, body.trans (first.kept unsaved.2).2⟩

/-- A record that is put into a repository with a table of documents is recorded. -/
theorem put {repository : Repository} (table : repository.database.documents = some .table)
    (saving : Saving) :
    Recorded repository.database (repository.put saving.location saving.record).database
      [saving] := by
  have last (location : String) : lastSaving? [saving] location =
      if saving.location = location then some saving else none := by
    simp [lastSaving?, List.find?_singleton]
  refine ⟨?saved, ?kept, rfl, rfl, rfl⟩
  case saved =>
    intro location other isLast
    rw [last] at isLast
    split at isLast
    · next same =>
      cases isLast
      subst same
      exact ⟨by rw [Repository.put, Table.find?_insert, if_pos rfl]; rfl,
        by rw [Repository.readBody_put table, if_pos rfl]⟩
    · cases isLast
  case kept =>
    intro location unsaved
    rw [last] at unsaved
    split at unsaved
    · cases unsaved
    · next different =>
      have elsewhere : location ≠ saving.location := Ne.symm different
      exact ⟨by rw [Repository.put, Table.find?_insert, if_neg elsewhere],
        by rw [Repository.readBody_put table, if_neg elsewhere]⟩

end Recorded

namespace Workspace

variable {ws : Workspace}

/-- What a write saves, if it is accepted. -/
def saving? (ws : Workspace) (write : String × DocumentId) : Option Saving :=
  match (ws.saveTo write.2 write.1).result with
  | .error _ => none
  | .ok _ => (ws.document? write.2).map fun doc => ⟨write.1, write.2, doc.toRecord ws.schema⟩

/-- What several writes save, each in its turn. -/
def accepted (ws : Workspace) : List (String × DocumentId) → List Saving
  | [] => []
  | write :: rest => (ws.saving? write).toList ++ (ws.saveTo write.2 write.1).after.accepted rest

/-- Of two rows of writes the second is accepted or not after all of the first was made. -/
theorem accepted_append (front back : List (String × DocumentId)) :
    ws.accepted (front ++ back) = ws.accepted front ++ (ws.afterWrites front).accepted back := by
  induction front generalizing ws with
  | nil => rfl
  | cons write rest inductionHypothesis =>
    rw [List.cons_append, accepted, accepted, inductionHypothesis, List.append_assoc,
      afterWrites_cons]

/-- A refused write saves nothing. -/
theorem saving?_of_error {id : DocumentId} {location : String} {error : WorkspaceError}
    (failed : (ws.saveTo id location).result = .error error) : ws.saving? (location, id) = none := by
  simp only [saving?, failed]

/-- An accepted write saves the record of its document. -/
theorem saving?_of_ok {id : DocumentId} {location : String} {doc : Document}
    (found : ws.document? id = some doc) (done : (ws.saveTo id location).result = .ok ()) :
    ws.saving? (location, id) = some ⟨location, id, doc.toRecord ws.schema⟩ := by
  simp only [saving?, done, found, Option.map_some]

/-- A save is recorded. -/
theorem recorded_saveTo (write : String × DocumentId) :
    Recorded ws.repository.database (ws.saveTo write.2 write.1).after.repository.database
      (ws.saving? write).toList := by
  obtain ⟨location, id⟩ := write
  cases done : (ws.saveTo id location).result with
  | error error =>
    rw [saving?_of_error done, after_of_saveTo_error done]
    exact .refl _
  | ok _ =>
    obtain ⟨doc, found, writable⟩ := saveTo_ok done
    rw [saving?_of_ok found done, ((saveTo_spec found location).1 writable).2.1]
    exact .put writable.table ⟨location, id, doc.toRecord ws.schema⟩

/-- Several writes are recorded. -/
theorem recorded_afterWrites (writes : List (String × DocumentId)) :
    Recorded ws.repository.database (ws.afterWrites writes).repository.database
      (ws.accepted writes) := by
  induction writes generalizing ws with
  | nil => exact .refl _
  | cons write rest inductionHypothesis =>
    rw [afterWrites_cons, accepted]
    exact (recorded_saveTo write).append inductionHypothesis

/-- The store is as it was, and no event tells of a saving. -/
structure Quiet {α : Type} (ws : Workspace) (outcome : Outcome α) : Prop where
  /-- The repository is the same. -/
  repository : outcome.after.repository = ws.repository
  /-- No event tells of a saving. -/
  events : outcome.events.filter Event.isSaving = []

/-- Creating a document leaves the store alone. -/
theorem quiet_create (location : String) (rootType : TypeId) :
    ws.Quiet (ws.create location rootType) := by
  unfold create
  split <;> exact ⟨rfl, rfl⟩

/-- Opening a location only reads from the store. -/
theorem quiet_openAt (location : String) : ws.Quiet (ws.openAt location) := by
  unfold openAt
  split
  · exact ⟨rfl, rfl⟩
  · split
    · exact ⟨rfl, rfl⟩
    · exact ⟨rfl, rfl⟩
    · split <;> exact ⟨rfl, rfl⟩

/-- Closing a document leaves the store alone, also where the document is dirty. -/
theorem quiet_close (id : DocumentId) : ws.Quiet (ws.close id) := by
  unfold close
  split <;> exact ⟨rfl, rfl⟩

/-- Giving a reference its target stores nothing. -/
theorem repository_of_link {linked : Workspace} {reference : NodeRef} {target : DocumentId}
    (done : ws.link reference target = .ok linked) : linked.repository = ws.repository := by
  obtain ⟨doc, found, rfl⟩ := exists_document_of_link done
  rfl

/-- Resolving at a location only reads from the store. -/
theorem quiet_resolveAt (reference : NodeRef) (location : String) :
    ws.Quiet (ws.resolveAt reference location) := by
  have opening := ws.quiet_openAt location
  unfold resolveAt
  dsimp only
  split
  · exact ⟨opening.repository, opening.events⟩
  · next target _ =>
    split
    · split
      · exact ⟨opening.repository, opening.events⟩
      · next linked done =>
        refine ⟨(repository_of_link done).trans opening.repository, ?_⟩
        rw [List.filter_append, opening.events]
        rfl
    · split
      · exact ⟨opening.repository, opening.events⟩
      · have closing := (ws.openAt location).after.quiet_close target
        refine ⟨closing.repository.trans opening.repository, ?_⟩
        rw [List.filter_append, opening.events, closing.events]
        rfl

/-- Resolving a reference only reads from the store. -/
theorem quiet_resolve (reference : NodeRef) : ws.Quiet (ws.resolve reference) := by
  unfold resolve
  split
  · exact ⟨rfl, rfl⟩
  · split
    · exact ⟨rfl, rfl⟩
    · exact quiet_resolveAt reference _

/-- Resolving references only reads from the store. -/
theorem quiet_resolveEach (document : DocumentId) (cells : List (NodeId × Option String)) :
    ws.Quiet (resolveEach document cells ws) := by
  induction cells generalizing ws with
  | nil => exact ⟨rfl, rfl⟩
  | cons cell rest inductionHypothesis =>
    obtain ⟨cell, location⟩ := cell
    have here := ws.quiet_resolve ⟨document, cell⟩
    have later := @inductionHypothesis (ws.resolve ⟨document, cell⟩).after
    have repository := later.repository.trans here.repository
    rw [resolveEach]
    split
    · exact ⟨repository, by rw [List.filter_append, here.events, later.events]; rfl⟩
    · refine ⟨repository, ?_⟩
      rw [List.filter_append, here.events, List.nil_append, List.filter_cons_of_neg Bool.false_ne_true]
      exact later.events

/-- A load sweep only reads from the store, and its summary tells of no saving. -/
theorem quiet_loadSweep (game : NodeRef) : ws.Quiet (ws.loadSweep game) := by
  unfold loadSweep
  split
  · exact ⟨rfl, rfl⟩
  · next cells _ =>
    have sweep := ws.quiet_resolveEach game.document cells
    refine ⟨sweep.repository, ?_⟩
    dsimp only
    rw [List.filter_append, sweep.events]
    rfl

/-- A save tells of what it saves. -/
theorem events_saveTo (id : DocumentId) (location : String) :
    (ws.saveTo id location).events.filter Event.isSaving =
      (ws.accepted [(location, id)]).map Saving.event := by
  cases found : ws.document? id with
  | none =>
    simp only [accepted, saving?, saveTo, found, fail]
    rfl
  | some doc =>
    cases stored : ws.repository.save location (doc.toRecord ws.schema) with
    | error error =>
      simp only [accepted, saving?, saveTo, found, stored]
      rfl
    | ok repository =>
      simp only [accepted, saving?, saveTo, found, stored]
      rfl

/-- A save sweep tells of what its references save. -/
theorem events_saveEach (document : DocumentId) (cells : List (NodeId × Option String)) :
    (saveEach document cells ws).events.filter Event.isSaving =
      (ws.accepted (cells.filterMap (ws.cellWrite? document))).map Saving.event := by
  induction cells generalizing ws with
  | nil => rfl
  | cons cell rest inductionHypothesis =>
    obtain ⟨cell, declared⟩ := cell
    rw [saveEach, List.filterMap_cons]
    cases live : ws.liveTarget? ⟨document, cell⟩ with
    | none =>
      simp only [cellWrite?, live]
      exact inductionHypothesis
    | some target =>
      cases usable : usableLocation? declared with
      | none =>
        simp only [cellWrite?, live, usable]
        exact inductionHypothesis
      | some location =>
        -- The writes were taken down before the sweep, and a save changes none of those to come.
        have later := @inductionHypothesis (ws.saveTo target location).after
        rw [(ws.sameDocuments_saveTo target location).cellWrite?] at later
        have split : ((ws.saveTo target location).events ++
              (saveEach document rest (ws.saveTo target location).after).events).filter
              Event.isSaving =
            (ws.accepted ((location, target) :: rest.filterMap (ws.cellWrite? document))).map
              Saving.event := by
          rw [List.filter_append, events_saveTo, later, ← List.map_append, accepted, accepted,
            List.append_nil, accepted]
        simp only [cellWrite?, live, usable]
        split <;> exact split

/-- The savings that a save tells of are those that were accepted. -/
theorem events_save (id : DocumentId) :
    (ws.save id).events.filter Event.isSaving =
      (ws.accepted (ws.writes (.save id))).map Saving.event := by
  cases found : ws.document? id with
  | none =>
    simp only [save, writes, found]
    rfl
  | some doc =>
    rw [save_eq_saveTo found, events_saveTo]
    simp only [writes, found]
    rfl

/-- The savings that a save sweep tells of are those that were accepted, in order. -/
theorem events_saveSweep (game : NodeRef) :
    (ws.saveSweep game).events.filter Event.isSaving =
      (ws.accepted (ws.writes (.saveSweep game))).map Saving.event := by
  cases listed : ws.cellsOf? game with
  | none =>
    simp only [saveSweep, writes, listed]
    rfl
  | some cells =>
    simp only [saveSweep, writes, listed, List.filter_append, events_saveEach]
    exact List.append_nil _

/-- A save that fails tells of none. -/
theorem events_of_save_error {id : DocumentId} {error : WorkspaceError}
    (failed : (ws.save id).result = .error error) :
    (ws.save id).events.filter Event.isSaving = [] := by
  cases found : ws.document? id with
  | none =>
    simp only [save, found]
    rfl
  | some doc =>
    rw [save_eq_saveTo found] at failed ⊢
    rw [events_saveTo, accepted, accepted, saving?_of_error failed]
    rfl

/-- A game save fails with the save of its own document, or goes on with a sweep. -/
theorem saveGame_cases (game : DocumentId) :
    (∃ error, (ws.save game).result = .error error ∧ (ws.saveGame game).result = .error error ∧
        (ws.saveGame game).events = (ws.save game).events) ∨
      ∃ root, ws.writes (.saveGame game) = ws.writes (.save game) ++
          (ws.save game).after.writes (.saveSweep ⟨game, root⟩) ∧
        (ws.saveGame game).events = (ws.save game).events ++
          ((ws.save game).after.saveSweep ⟨game, root⟩).events := by
  cases own : (ws.save game).result with
  | error error => exact .inl ⟨error, rfl, by simp only [saveGame, own], by simp only [saveGame, own]⟩
  | ok _ =>
    obtain ⟨doc, found, -⟩ := save_ok own
    -- The sweep sees the workspace after the game's own save, in which the references are the same.
    have same := ws.sameDocuments_saveTo game doc.location
    obtain ⟨held, heldFound, sameDoc⟩ := same.document? found
    have root : held.root = doc.root := by
      have agree : held.markClean.root = doc.markClean.root := congrArg Document.root sameDoc
      exact agree
    refine .inr ⟨doc.root, ?_, ?_⟩
    · have saves : ∃ report, (ws.saveGame game).result = .ok report := by
        rw [save_eq_saveTo found] at own
        exact ⟨_, by simp only [saveGame, save_eq_saveTo found, own, heldFound]; rfl⟩
      obtain ⟨report, done⟩ := saves
      simp only [writes, done, gameWrites, gameCells, found, Option.bind_some,
        save_eq_saveTo found, same.cellsOf?, same.cellWrite?]
    · simp only [saveGame, own]
      simp only [save_eq_saveTo found, heldFound, root]

/-- A game save tells of what its writes save.

Proof: it has no writes if it fails, and otherwise those of a save and of a sweep after it. -/
theorem events_saveGame (game : DocumentId) :
    (ws.saveGame game).events.filter Event.isSaving =
      (ws.accepted (ws.writes (.saveGame game))).map Saving.event := by
  rcases @saveGame_cases ws game with ⟨error, failed, done, events⟩ | ⟨root, writes, events⟩
  · have idle : ws.writes (.saveGame game) = [] := by
      simp only [Workspace.writes, done]
    rw [events, idle, events_of_save_error failed]
    rfl
  · rw [events, writes, List.filter_append, events_save, events_saveSweep, accepted_append,
      List.map_append, after_save]

/-- The events that an action reports. An edit, and a change of the store by somebody else, report
none. -/
def eventsOf (ws : Workspace) : Action → List Event
  | .create location rootType => (ws.create location rootType).events
  | .openAt location => (ws.openAt location).events
  | .save id => (ws.save id).events
  | .saveTo id location => (ws.saveTo id location).events
  | .close id => (ws.close id).events
  | .resolve reference => (ws.resolve reference).events
  | .loadSweep game => (ws.loadSweep game).events
  | .saveSweep game => (ws.saveSweep game).events
  | .saveGame game => (ws.saveGame game).events
  | .edit _ _ | .changeStore _ => []

/-- Nobody else writes to the store. -/
def Exclusive (ws : Workspace) : Action → Prop
  | .changeStore repository => repository.database = ws.repository.database
  | _ => True

instance (ws : Workspace) (action : Action) : Decidable (ws.Exclusive action) :=
  match action with
  | .changeStore repository => decEq repository.database ws.repository.database
  | .create _ _ | .openAt _ | .save _ | .saveTo _ _ | .close _ | .resolve _ | .loadSweep _
  | .saveSweep _ | .saveGame _ | .edit _ _ => isTrue trivial

variable {action : Action} {actions : List Action}

/-- An action that saves is a series of writes. -/
theorem perform_of_saves (saves : action.saves = true) :
    ws.perform action = ws.afterWrites (ws.writes action) := by
  cases action with
  | save id => exact after_save id
  | saveTo id location => exact after_saveTo id location
  | saveSweep game => exact after_saveSweep game
  | saveGame game => exact after_saveGame game
  | create | openAt | close | resolve | loadSweep | edit | changeStore => cases saves

/-- An action that does not save leaves the store as it is. -/
theorem database_perform (idle : action.saves = false) (exclusive : ws.Exclusive action) :
    (ws.perform action).repository.database = ws.repository.database := by
  cases action with
  | create location rootType =>
    exact congrArg Repository.database (quiet_create location rootType).repository
  | openAt location => exact congrArg Repository.database (quiet_openAt location).repository
  | close id => exact congrArg Repository.database (quiet_close id).repository
  | resolve reference => exact congrArg Repository.database (quiet_resolve reference).repository
  | loadSweep game => exact congrArg Repository.database (quiet_loadSweep game).repository
  | edit id edit =>
    change (ws.edit id edit).repository.database = _
    unfold Workspace.edit
    split <;> rfl
  | changeStore repository => exact exclusive
  | save | saveTo | saveSweep | saveGame => cases idle

/-- An action is recorded. -/
theorem recorded_perform (exclusive : ws.Exclusive action) :
    Recorded ws.repository.database (ws.perform action).repository.database
      (ws.accepted (ws.writes action)) := by
  cases saves : action.saves with
  | true =>
    rw [perform_of_saves saves]
    exact recorded_afterWrites _
  | false =>
    have idle : ws.writes action = [] := by
      cases action with
      | create | openAt | close | resolve | loadSweep | edit | changeStore => rfl
      | save | saveTo | saveSweep | saveGame => cases saves
    rw [idle, database_perform saves exclusive]
    exact .refl _

/-- An action tells of what it saves. -/
theorem events_perform (action : Action) :
    (ws.eventsOf action).filter Event.isSaving =
      (ws.accepted (ws.writes action)).map Saving.event := by
  cases action with
  | create location rootType => exact (quiet_create location rootType).events
  | openAt location => exact (quiet_openAt location).events
  | close id => exact (quiet_close id).events
  | resolve reference => exact (quiet_resolve reference).events
  | loadSweep game => exact (quiet_loadSweep game).events
  | save id => exact events_save id
  | saveTo id location =>
    change (ws.saveTo id location).events.filter Event.isSaving = _
    rw [events_saveTo]
    cases found : ws.document? id with
    | none =>
      simp only [accepted, saving?, saveTo, writes, found, fail]
      rfl
    | some doc =>
      simp only [writes, found]
      rfl
  | saveSweep game => exact events_saveSweep game
  | saveGame game => exact events_saveGame game
  | edit | changeStore => rfl

/-- All savings of a session, in order. -/
def history (ws : Workspace) : List Action → List Saving
  | [] => []
  | action :: rest => ws.accepted (ws.writes action) ++ (ws.perform action).history rest

/-- All events of a session, in order. -/
def journal (ws : Workspace) : List Action → List Event
  | [] => []
  | action :: rest => ws.eventsOf action ++ (ws.perform action).journal rest

/-- A session is recorded. What its first action saves is superseded by what the others save later,
so the induction goes from the first action on and the two records are appended. -/
theorem recorded_run (exclusive : AllowsAll Exclusive ws actions) :
    Recorded ws.repository.database (ws.run actions).repository.database (ws.history actions) := by
  induction actions generalizing ws with
  | nil => exact .refl _
  | cons action rest inductionHypothesis =>
    exact (recorded_perform exclusive.1).append (inductionHypothesis exclusive.2)

/-- A session tells of what it saves. -/
theorem events_run (ws : Workspace) (actions : List Action) :
    (ws.journal actions).filter Event.isSaving = (ws.history actions).map Saving.event := by
  induction actions generalizing ws with
  | nil => rfl
  | cons action rest inductionHypothesis =>
    rw [journal, history, List.filter_append, List.map_append, events_perform,
      inductionHypothesis]

/-- The store changes by accepted saves only, if nobody else writes to it. After any actions from
any beginning, and also part of the way through a series of writes, every location has the record
that was saved there last, as it was at that moment, or what was there at the beginning. The events
tell of these savings and of no others. An action that saves is such a series of writes, any other
one leaves the store as it is, and a game save that fails leaves everything as it is. -/
theorem recorded_of_run (exclusive : AllowsAll Exclusive ws actions) :
    Recorded ws.repository.database (ws.run actions).repository.database (ws.history actions) ∧
    (∀ action made, made <+: (ws.run actions).writes action →
      Recorded ws.repository.database ((ws.run actions).afterWrites made).repository.database
        (ws.history actions ++ (ws.run actions).accepted made)) ∧
    (ws.journal actions).filter Event.isSaving = (ws.history actions).map Saving.event ∧
    (∀ action, (ws.run actions).Exclusive action →
      if action.saves then
        (ws.run actions).perform action =
          (ws.run actions).afterWrites ((ws.run actions).writes action)
      else ((ws.run actions).perform action).repository.database =
        (ws.run actions).repository.database) ∧
    ∀ game error, ((ws.run actions).saveGame game).result = .error error →
      ((ws.run actions).saveGame game).after = ws.run actions := by
  have recorded := recorded_run exclusive
  refine ⟨recorded, ?within, events_run ws actions, ?turns, ?refused⟩
  case within => exact fun _ made _ => recorded.append (recorded_afterWrites made)
  case turns =>
    intro action allowed
    cases saves : action.saves with
    | true => exact perform_of_saves saves
    | false => exact database_perform saves allowed
  case refused => exact fun game error failed => after_of_saveGame_error failed

/-- The mixed folder is swept, its first reference is redirected to a location that the store refuses,
and its cell document is saved to the location of the game before the game is saved. -/
def overwritingActions : List Action :=
  mixedActions ++ [.loadSweep mixedGame,
    .edit mixedGame.document (.setAttribute (Uuid.ofNat 11) Names.uriAttribute "\x00"),
    .saveTo (Uuid.ofNat 6) "level.game", .saveGame mixedGame.document]

/-- The game supersedes the cell document at its location, and the sweep goes on after the refusal. -/
theorem recorded_overwriting :
    AllowsAll Exclusive blank overwritingActions ∧
    (blank.history overwritingActions).map (fun saving => (saving.location, saving.document)) =
      [("a.cell", Uuid.ofNat 1), ("other.game", Uuid.ofNat 3), ("level.game", Uuid.ofNat 6),
        ("level.game", mixedGame.document), ("a.cell", Uuid.ofNat 6)] ∧
    Recorded blank.repository.database (blank.run overwritingActions).repository.database
      (blank.history overwritingActions) ∧
    (blank.journal overwritingActions).filter Event.isSaving =
      (blank.history overwritingActions).map Saving.event := by
  have exclusive : AllowsAll Exclusive blank overwritingActions := by decide +kernel
  obtain ⟨recorded, -, told, -⟩ := recorded_of_run exclusive
  exact ⟨exclusive, by decide +kernel, recorded, told⟩

end Workspace

end LevelGraph
