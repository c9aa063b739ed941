import LevelGraph.Proofs.Workspace.Agreement
import LevelGraph.Proofs.Workspace.SaveHistory

/-!
# The values of attributes stay out of the log

Two sessions are run side by side. They begin with workspaces that agree, and the same is done in
both, but for the values that are written into attributes other than the location. Then the
sessions log the same and answer alike, however long they go on.

Each operation is compared with itself in the other workspace. Its outcomes agree: the results are
the same, the events are the same and the workspaces afterwards agree, so that what is done next can
be compared again. This is how sweeps follow from single resolves and saves, and sessions from
single actions.
-/

namespace LevelGraph

/-- Two outcomes agree. -/
structure Outcome.Agrees {α : Type} (related : α → α → Prop) (outcome other : Outcome α) : Prop where
  /-- The results are related. -/
  result : related outcome.result other.result
  /-- The workspaces afterwards agree. -/
  after : outcome.after.Agrees other.after
  /-- The events are the same. -/
  events : other.events = outcome.events

namespace Workspace

variable {ws other : Workspace}

namespace Agrees

/-- Nothing was done in both, with the same result. -/
theorem unchanged {α : Type} (agrees : ws.Agrees other) (result : α) (events : List Event) :
    Outcome.Agrees Eq ⟨result, ws, events⟩ ⟨result, other, events⟩ := ⟨rfl, agrees, rfl⟩

section Operations

variable (agrees : ws.Agrees other)

include agrees

/-- A document is created under the same identifiers in both, or is refused in both. -/
theorem create (location : String) (rootType : TypeId) :
    (ws.create location rootType).Agrees Eq (other.create location rootType) := by
  have used : other.locations.contains location = ws.locations.contains location := by
    rw [agrees.locations]
  unfold Workspace.create
  rw [used]
  split
  · exact agrees.unchanged _ _
  · have supply := congrArg IdSupply.advance agrees.supply
    have created : Document.create other.supply.advance.next other.supply.next location rootType =
        Document.create ws.supply.advance.next ws.supply.next location rootType := by
      rw [agrees.supply]
    exact ⟨congrArg (fun doc => Except.ok doc.id) created.symm,
      (agrees.issue (congrArg IdSupply.advance supply)).register (congrArg Document.veiled created),
      rfl⟩

/-- Opening goes by what is open at the location, and else by the stored record, which has the same
number of nodes in both. -/
theorem openAt (location : String) :
    (ws.openAt location).Agrees Eq (other.openAt location) := by
  unfold Workspace.openAt
  rw [agrees.documentAt?]
  cases ws.documentAt? location with
  | some id => exact agrees.unchanged _ _
  | none =>
    obtain ⟨error, failed, otherFailed⟩ | ⟨loaded, otherLoaded, read, otherRead, records⟩ :=
      (agrees.repository.load location).inv
    · simp only [failed, otherFailed]
      exact agrees.unchanged _ _
    · simp only [read, otherRead]
      cases records with
      | none => exact agrees.unchanged _ _
      | @some record otherRecord veiled =>
        have counted : otherRecord.nodeCount = record.nodeCount := by
          rw [← otherRecord.nodeCount_veiled, veiled, record.nodeCount_veiled]
        have laid : ResultRel (fun doc other => other.veiled = doc.veiled)
            (Document.ofRecord ws.supply.next location record ws.schema)
            (Document.ofRecord other.supply.next location otherRecord other.schema) := by
          rw [agrees.supply, agrees.schema]
          exact Document.ofRecord_of_veiled_eq veiled _ _ _
        obtain ⟨error, failed, otherFailed⟩ | ⟨doc, held, done, otherDone, docs⟩ := laid.inv
        · simp only [failed, otherFailed]
          exact agrees.unchanged _ _
        · have issued := agrees.issue (congrArg IdSupply.advance agrees.supply)
          simp only [done, otherDone, counted, Document.id_of_veiled_eq docs]
          exact ⟨rfl, issued.register docs, rfl⟩

/-- Saving writes records that agree, of the same number of nodes. -/
theorem saveTo (id : DocumentId) (location : String) :
    (ws.saveTo id location).Agrees Eq (other.saveTo id location) := by
  unfold Workspace.saveTo
  obtain ⟨absent, otherAbsent⟩ | ⟨doc, held, found, otherFound, veiled⟩ := agrees.document? id
  · rw [absent, otherAbsent]
    exact agrees.unchanged _ _
  · have records := Document.toRecord_of_veiled_eq veiled ws.schema
    have counted : (held.toRecord ws.schema).nodeCount = (doc.toRecord ws.schema).nodeCount := by
      rw [← NodeRecord.nodeCount_veiled, records, NodeRecord.nodeCount_veiled]
    have located := Document.location_of_veiled_eq veiled
    have saves := agrees.repository.save location (doc.ordered_toRecord ws.schema)
      (held.ordered_toRecord ws.schema) records
    have sameSchema : held.toRecord other.schema = held.toRecord ws.schema := by rw [agrees.schema]
    simp only [found, otherFound, sameSchema, counted, located]
    obtain ⟨error, failed, otherFailed⟩ | ⟨stored, otherStored, done, otherDone, repositories⟩ :=
      saves.inv
    · simp only [failed, otherFailed]
      exact agrees.unchanged _ _
    · have stores := agrees.store repositories
      simp only [done, otherDone]
      refine ⟨rfl, ?_, rfl⟩
      dsimp only
      split
      · exact stores.replace id (Document.markClean_of_veiled_eq veiled)
      · exact stores

/-- Saving goes to the same location in both. -/
theorem save (id : DocumentId) : (ws.save id).Agrees Eq (other.save id) := by
  unfold Workspace.save
  obtain ⟨absent, otherAbsent⟩ | ⟨doc, held, found, otherFound, veiled⟩ := agrees.document? id
  · rw [absent, otherAbsent]
    exact agrees.unchanged _ _
  · have located := Document.location_of_veiled_eq veiled
    simp only [found, otherFound, located]
    exact agrees.saveTo id doc.location

/-- The documents handed out are the same under the veil. -/
theorem close (id : DocumentId) :
    (ws.close id).Agrees (fun doc other => other.map Document.veiled = doc.map Document.veiled)
      (other.close id) := by
  unfold Workspace.close
  obtain ⟨absent, otherAbsent⟩ | ⟨doc, held, found, otherFound, veiled⟩ := agrees.document? id
  · rw [absent, otherAbsent]
    exact ⟨rfl, agrees, rfl⟩
  · have located := Document.location_of_veiled_eq veiled
    simp only [found, otherFound, located]
    refine ⟨congrArg some veiled, ⟨agrees.schema, agrees.supply, ?_, ?_, agrees.repository⟩, rfl⟩
    · simp only [agrees.locations]
    · simp only [Table.map_erase, agrees.documents]

/-- A reference is linked in both or in none. -/
theorem link (reference : NodeRef) (target : DocumentId) :
    ResultRel Workspace.Agrees (ws.link reference target) (other.link reference target) := by
  unfold Workspace.link
  obtain ⟨absent, otherAbsent⟩ | ⟨doc, held, found, otherFound, veiled⟩ :=
    agrees.document? reference.document
  · rw [absent, otherAbsent]
    exact .error _
  · obtain ⟨error, failed, otherFailed⟩ | ⟨linked, otherLinked, done, otherDone, docs⟩ :=
      (Document.setTarget_of_veiled_eq veiled reference.node target).inv
    · simp only [found, otherFound, failed, otherFailed]
      exact .error _
    · simp only [found, otherFound, done, otherDone]
      exact .ok (agrees.replace _ docs)

/-- Resolving at a location opens the same document in both, and links it or closes it again in both. -/
theorem resolveAt (reference : NodeRef) (location : String) :
    (ws.resolveAt reference location).Agrees Eq (other.resolveAt reference location) := by
  have opening := agrees.openAt location
  unfold Workspace.resolveAt
  dsimp only
  rw [← opening.result, opening.events, agrees.documentAt?]
  cases (ws.openAt location).result with
  | error error => exact ⟨rfl, opening.after, rfl⟩
  | ok target =>
    dsimp only
    rw [opening.after.isCellDocument, opening.after.rootTypeName]
    split
    · obtain ⟨error, failed, otherFailed⟩ | ⟨linked, otherLinked, done, otherDone, after⟩ :=
        (opening.after.link reference target).inv
      · simp only [failed, otherFailed]
        exact ⟨rfl, opening.after, rfl⟩
      · simp only [done, otherDone]
        exact ⟨rfl, after, rfl⟩
    · split
      · exact ⟨rfl, opening.after, rfl⟩
      · have closing := opening.after.close target
        exact ⟨rfl, closing.after, by rw [closing.events]⟩

/-- Resolving goes by the declared location, which no veil hides. -/
theorem resolve (reference : NodeRef) :
    (ws.resolve reference).Agrees Eq (other.resolve reference) := by
  unfold Workspace.resolve
  rw [agrees.liveTarget?, agrees.declaredLocation]
  cases ws.liveTarget? reference with
  | some target => exact agrees.unchanged _ _
  | none =>
    cases ws.declaredLocation reference with
    | error error => exact agrees.unchanged _ _
    | ok location => exact agrees.resolveAt reference location

omit agrees in
/-- Resolving references one after the other, the workspaces agree before each. -/
theorem resolveEach (document : DocumentId) (cells : List (NodeId × Option String))
    {ws other : Workspace} (agrees : ws.Agrees other) :
    (Workspace.resolveEach document cells ws).Agrees Eq
      (Workspace.resolveEach document cells other) := by
  induction cells generalizing ws other with
  | nil => exact agrees.unchanged _ _
  | cons cell rest inductionHypothesis =>
    have here := agrees.resolve ⟨document, cell.1⟩
    have later := inductionHypothesis here.after
    rw [Workspace.resolveEach, Workspace.resolveEach, ← here.result, here.events, later.events,
      ← later.result]
    cases (ws.resolve ⟨document, cell.1⟩).result with
    | error error => exact ⟨rfl, later.after, rfl⟩
    | ok target => exact ⟨rfl, later.after, rfl⟩

/-- A load sweep goes over the same references in both. -/
theorem loadSweep (game : NodeRef) : (ws.loadSweep game).Agrees Eq (other.loadSweep game) := by
  unfold Workspace.loadSweep
  rw [agrees.cellsOf?]
  cases ws.cellsOf? game with
  | none => exact agrees.unchanged _ _
  | some cells =>
    have sweep := agrees.resolveEach game.document cells
    exact ⟨sweep.result, sweep.after, by simp only [sweep.events, ← sweep.result]⟩

omit agrees in
/-- Saving targets one after the other, the workspaces agree before each. -/
theorem saveEach (document : DocumentId) (cells : List (NodeId × Option String))
    {ws other : Workspace} (agrees : ws.Agrees other) :
    (Workspace.saveEach document cells ws).Agrees Eq
      (Workspace.saveEach document cells other) := by
  induction cells generalizing ws other with
  | nil => exact agrees.unchanged _ _
  | cons cell rest inductionHypothesis =>
    obtain ⟨cell, declared⟩ := cell
    rw [Workspace.saveEach, Workspace.saveEach, agrees.liveTarget?]
    cases ws.liveTarget? ⟨document, cell⟩ with
    | none =>
      have later := inductionHypothesis agrees
      exact ⟨congrArg (SaveReport.withSkipped · cell) later.result, later.after, later.events⟩
    | some target =>
      cases usableLocation? declared with
      | none =>
        have later := inductionHypothesis agrees
        exact ⟨congrArg (SaveReport.withFailure · _) later.result, later.after,
          congrArg (Event.cellWithoutLocation :: ·) later.events⟩
      | some location =>
        have here := agrees.saveTo target location
        have later := inductionHypothesis here.after
        dsimp only
        rw [← here.result, here.events, later.events, ← later.result]
        cases (ws.saveTo target location).result with
        | error error => exact ⟨rfl, later.after, rfl⟩
        | ok => exact ⟨rfl, later.after, rfl⟩

/-- A save sweep goes over the same references in both. -/
theorem saveSweep (game : NodeRef) : (ws.saveSweep game).Agrees Eq (other.saveSweep game) := by
  unfold Workspace.saveSweep
  rw [agrees.cellsOf?]
  cases ws.cellsOf? game with
  | none => exact agrees.unchanged _ _
  | some cells =>
    have sweep := agrees.saveEach game.document cells
    exact ⟨sweep.result, sweep.after, by simp only [sweep.events, ← sweep.result]⟩

/-- Saving a game saves it first in both, and sweeps where that was not refused. -/
theorem saveGame (game : DocumentId) : (ws.saveGame game).Agrees Eq (other.saveGame game) := by
  have own := agrees.save game
  unfold Workspace.saveGame
  dsimp only
  rw [← own.result, own.events]
  cases (ws.save game).result with
  | error error => exact ⟨rfl, own.after, rfl⟩
  | ok =>
    obtain ⟨absent, otherAbsent⟩ | ⟨doc, held, found, otherFound, veiled⟩ :=
      own.after.document? game
    · simp only [absent, otherAbsent]
      exact ⟨rfl, own.after, rfl⟩
    · have root := Document.root_of_veiled_eq veiled
      have sweep := own.after.saveSweep ⟨game, doc.root⟩
      simp only [found, otherFound, root]
      exact ⟨congrArg Except.ok sweep.result, sweep.after, by rw [sweep.events]⟩

/-- Edits that write other values at most change a document alike, or do not apply in both. -/
theorem edit (id : DocumentId) {edit otherEdit : Edit} (veiled : otherEdit.veiled = edit.veiled) :
    (ws.edit id edit).Agrees (other.edit id otherEdit) := by
  unfold Workspace.edit
  obtain ⟨absent, otherAbsent⟩ | ⟨doc, held, found, otherFound, same⟩ := agrees.document? id
  · rw [absent, otherAbsent]
    exact agrees
  · simp only [found, otherFound]
    apply agrees.replace id
    rw [← Document.after_veiled, veiled, same, Document.after_veiled]

/-- An edit applies in both or in none. -/
theorem applies (id : DocumentId) {edit otherEdit : Edit} (veiled : otherEdit.veiled = edit.veiled) :
    ((other.document? id).bind otherEdit.result?).isSome =
      ((ws.document? id).bind edit.result?).isSome := by
  obtain ⟨absent, otherAbsent⟩ | ⟨doc, held, found, otherFound, same⟩ := agrees.document? id
  · rw [absent, otherAbsent]
    rfl
  · have changed : (otherEdit.result? held).map Document.veiled =
        (edit.result? doc).map Document.veiled := by
      rw [← Edit.result?_veiled, veiled, same, Edit.result?_veiled]
    rw [found, otherFound, Option.bind_some, Option.bind_some]
    simpa only [Option.isSome_map] using congrArg Option.isSome changed

end Operations

end Agrees

end Workspace

/-- What an action answers. -/
inductive Answer where
  /-- A document was created, opened or found. -/
  | opened (result : Except WorkspaceError DocumentId)
  /-- A document was saved. -/
  | saved (result : Except WorkspaceError Unit)
  /-- A document was closed and handed out. -/
  | closed (doc : Option Document)
  /-- References were resolved. -/
  | loadSwept (report : LoadReport)
  /-- Targets were saved. -/
  | saveSwept (report : SaveReport)
  /-- A game was saved. -/
  | gameSaved (result : Except WorkspaceError SaveReport)
  /-- An edit applied or not. -/
  | edited (applied : Bool)
  /-- The store was changed by somebody else. -/
  | silent

/-- An answer without the values of attributes. -/
def Answer.veiled : Answer → Answer
  | closed doc => closed (doc.map Document.veiled)
  | answer => answer

/-- Two actions are the same but for values that an edit writes, or for stores that agree. -/
inductive Action.Agrees : Action → Action → Prop where
  /-- The actions are the same. -/
  | same (action : Action) : Agrees action action
  /-- They edit the same document and differ at most in the value of an attribute. -/
  | edited (id : DocumentId) {edit other : Edit} (veiled : other.veiled = edit.veiled) :
      Agrees (.edit id edit) (.edit id other)
  /-- Somebody else changes the store, and the stores agree. -/
  | storeChanged {repository other : Repository} (agrees : repository.Agrees other) :
      Agrees (.changeStore repository) (.changeStore other)

namespace Workspace

/-- What an action answers in a workspace. -/
def answer (ws : Workspace) : Action → Answer
  | .create location rootType => .opened (ws.create location rootType).result
  | .openAt location => .opened (ws.openAt location).result
  | .save id => .saved (ws.save id).result
  | .saveTo id location => .saved (ws.saveTo id location).result
  | .close id => .closed (ws.close id).result
  | .resolve reference => .opened (ws.resolve reference).result
  | .loadSweep game => .loadSwept (ws.loadSweep game).result
  | .saveSweep game => .saveSwept (ws.saveSweep game).result
  | .saveGame game => .gameSaved (ws.saveGame game).result
  | .edit id edit => .edited ((ws.document? id).bind edit.result?).isSome
  | .changeStore _ => .silent

/-- What a session answers and reports, action by action. -/
def transcript (ws : Workspace) : List Action → List (Answer × List Event)
  | [] => []
  | action :: rest => (ws.answer action, ws.eventsOf action) :: (ws.perform action).transcript rest

variable {ws other : Workspace}

/-- One action answers alike in workspaces that agree, reports the same and leaves workspaces that
agree. -/
theorem Agrees.perform (agrees : ws.Agrees other) {action otherAction : Action}
    (same : action.Agrees otherAction) :
    (other.answer otherAction).veiled = (ws.answer action).veiled ∧
      other.eventsOf otherAction = ws.eventsOf action ∧
      (ws.perform action).Agrees (other.perform otherAction) := by
  have told {α : Type} {outcome otherOutcome : Outcome α} (answer : α → Answer)
      (alike : outcome.Agrees Eq otherOutcome) :
      (answer otherOutcome.result).veiled = (answer outcome.result).veiled ∧
        otherOutcome.events = outcome.events ∧ outcome.after.Agrees otherOutcome.after :=
    ⟨by rw [alike.result], alike.events, alike.after⟩
  cases same with
  | edited id veiled =>
    exact ⟨congrArg Answer.edited (agrees.applies id veiled), rfl, agrees.edit id veiled⟩
  | storeChanged stores => exact ⟨rfl, rfl, agrees.store stores⟩
  | same =>
    cases action with
    | create location rootType => exact told .opened (agrees.create location rootType)
    | openAt location => exact told .opened (agrees.openAt location)
    | save id => exact told .saved (agrees.save id)
    | saveTo id location => exact told .saved (agrees.saveTo id location)
    | resolve reference => exact told .opened (agrees.resolve reference)
    | loadSweep game => exact told .loadSwept (agrees.loadSweep game)
    | saveSweep game => exact told .saveSwept (agrees.saveSweep game)
    | saveGame game => exact told .gameSaved (agrees.saveGame game)
    | close id =>
      have closing := agrees.close id
      exact ⟨congrArg Answer.closed closing.result, closing.events, closing.after⟩
    | edit id edit => exact ⟨congrArg Answer.edited (agrees.applies id rfl), rfl, agrees.edit id rfl⟩
    | changeStore repository => exact ⟨rfl, rfl, agrees.store (.refl repository)⟩

/-- Sessions that differ at most in the values of attributes tell the same. They begin with
workspaces that agree and do the same but for such values. Then each action of the one answers what
the action of the other answers, but for such values in a document that is handed out, and reports
the same events. So both write the same lines to the log, and the workspaces agree again.

Proof: induction on the session, one action at a time. -/
theorem run_conceals (agrees : ws.Agrees other) {actions otherActions : List Action}
    (same : List.Forall₂ Action.Agrees actions otherActions) :
    (other.transcript otherActions).map (Prod.map Answer.veiled id) =
        (ws.transcript actions).map (Prod.map Answer.veiled id) ∧
      (∀ elapsed, (other.journal otherActions).map (Event.line elapsed) =
        (ws.journal actions).map (Event.line elapsed)) ∧
      (ws.run actions).Agrees (other.run otherActions) := by
  induction same generalizing ws other with
  | nil => exact ⟨rfl, fun _ => rfl, agrees⟩
  | cons here _ inductionHypothesis =>
    obtain ⟨answers, events, after⟩ := agrees.perform here
    obtain ⟨transcripts, lines, final⟩ := inductionHypothesis after
    refine ⟨?_, fun elapsed => ?_, final⟩
    · rw [transcript, List.map_cons, transcripts, transcript, List.map_cons, Prod.map, answers,
        events]
      rfl
    · rw [journal, journal, List.map_append, List.map_append, events, lines elapsed]

/-- A cell document is given an object of some name. -/
def namingActions (name : String) : List Action :=
  referringActions ++
    [.edit (Uuid.ofNat 1) (.append (Uuid.ofNat 0) Names.placementChild ⟨4⟩ (Uuid.ofNat 20)),
      .edit (Uuid.ofNat 1) (.setAttribute (Uuid.ofNat 20) Names.nameAttribute name)]

/-- The document is linked, saved with its game, closed and opened again. -/
def retellingActions : List Action :=
  [.loadSweep ⟨Uuid.ofNat 3, Uuid.ofNat 2⟩, .saveGame (Uuid.ofNat 3), .close (Uuid.ofNat 1),
    .openAt "a.cell", .resolve referring]

/-- Whatever the name, the session is the same but for it. -/
theorem namingActions_agrees (name other : String) :
    List.Forall₂ Action.Agrees (namingActions name ++ retellingActions)
      (namingActions other ++ retellingActions) := by
  have unnamed (actions : List Action) : List.Forall₂ Action.Agrees actions actions :=
    List.forall₂_same.mpr fun action _ => .same action
  apply List.rel_append _ (unnamed retellingActions)
  apply List.rel_append (unnamed referringActions)
  exact .cons (.same _) (.cons (.edited _ rfl) .nil)

/-- The object is named in the document, and neither the log nor the answers tell its name. -/
theorem run_conceals_names :
    ((blank.run (namingActions "gold")).document? (Uuid.ofNat 1)).bind
        (·.attribute? (Uuid.ofNat 20) Names.nameAttribute) = some "gold" ∧
    (blank.transcript (namingActions "lead" ++ retellingActions)).map (Prod.map Answer.veiled id) =
      (blank.transcript (namingActions "gold" ++ retellingActions)).map
        (Prod.map Answer.veiled id) ∧
    (∀ elapsed, (blank.journal (namingActions "lead" ++ retellingActions)).map (Event.line elapsed) =
      (blank.journal (namingActions "gold" ++ retellingActions)).map (Event.line elapsed)) ∧
    (blank.run (namingActions "gold" ++ retellingActions)).Agrees
      (blank.run (namingActions "lead" ++ retellingActions)) :=
  ⟨by decide +kernel, run_conceals (.refl blank) (namingActions_agrees "gold" "lead")⟩

end Workspace

end LevelGraph
