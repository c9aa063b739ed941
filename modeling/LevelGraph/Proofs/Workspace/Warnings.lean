import LevelGraph.Proofs.Workspace.SaveSweep

/-!
# What sweeps log

A sweep visits references one after the other, and each visit reports events of its own. `Logged` says
how the events of a sweep come about from its visits: a visit that failed warns once, any other does not
warn at all, and behind all visits comes the only summary. So the warnings of a sweep are those of the
failures that it reports, one for each and in order.

In a load sweep the warning comes from the sweep itself, and what opening and closing documents reports
beside it is no warning. In a save sweep it comes from the refused save, or from the sweep for a
reference that declares no location. Saving a document that is not open would fail without a warning, but
a reference that stands for a document stands for an open one.
-/

namespace LevelGraph

namespace Event

/-- The event is a warning. -/
def isWarning (event : Event) : Bool := event.level == .warn

/-- The event sums up a sweep. -/
def isSummary : Event → Bool
  | loadSwept .. | saveSwept .. => true
  | _ => false

/-- The event tells of a document that was opened or closed, or that became a target. -/
def isMove : Event → Bool
  | documentOpened .. | documentClosed .. | cellResolved .. => true
  | _ => false

/-- A move is neither a warning nor a summary. -/
theorem of_isMove {event : Event} (move : event.isMove = true) :
    event.isWarning = false ∧ event.isSummary = false := by
  cases event
  case documentOpened | documentClosed | cellResolved => exact ⟨rfl, rfl⟩
  all_goals cases move

/-- Among moves there are no warnings and no summaries. -/
theorem filter_of_moves {events : List Event} (moves : events.all isMove = true) :
    events.filter isWarning = [] ∧ events.filter isSummary = [] := by
  rw [List.all_eq_true] at moves
  refine ⟨List.filter_eq_nil_iff.mpr fun event listed => ?_,
    List.filter_eq_nil_iff.mpr fun event listed => ?_⟩
  · rw [(of_isMove (moves event listed)).1]
    exact Bool.false_ne_true
  · rw [(of_isMove (moves event listed)).2]
    exact Bool.false_ne_true

end Event

namespace ReferenceFailure

/-- The warning of a reference that a load sweep could not resolve. -/
def loadWarning (failure : ReferenceFailure) : Event :=
  .cellUnresolved failure.location failure.message

/-- The warning of a reference that a save sweep could not save. -/
def saveWarning (failure : ReferenceFailure) : Event :=
  match failure.location with
  | some location => .documentSaveFailed location failure.message
  | none => .cellWithoutLocation

end ReferenceFailure

/-- The visit of a sweep to a reference. -/
structure Visit (α : Type) where
  /-- The reference, with the location that it declares. -/
  cell : NodeId × Option String
  /-- What came of it. -/
  outcome : α
  /-- What was reported meanwhile. -/
  events : List Event

namespace Visit

/-- The reference and its target, if it was resolved. -/
def resolved? (visit : Visit (Except WorkspaceError DocumentId)) : Option (NodeId × DocumentId) :=
  match visit.outcome with
  | .ok target => some (visit.cell.1, target)
  | .error _ => none

/-- The failure, if it was not. -/
def unresolved? (visit : Visit (Except WorkspaceError DocumentId)) : Option ReferenceFailure :=
  match visit.outcome with
  | .ok _ => none
  | .error error => some ⟨visit.cell.1, visit.cell.2, error.message⟩

end Visit

section Visits

variable {α : Type} {failed? : Visit α → Option ReferenceFailure}
  {warning : ReferenceFailure → Event} {summary : Event} {visits : List (Visit α)}

/-- A visit warns once if it failed, and does not warn otherwise. -/
structure Visit.Warns (failed? : Visit α → Option ReferenceFailure)
    (warning : ReferenceFailure → Event) (visit : Visit α) : Prop where
  /-- Its warnings. -/
  warnings : visit.events.filter Event.isWarning = (failed? visit).toList.map warning
  /-- It sums up no sweep. -/
  unsummed : visit.events.filter Event.isSummary = []

/-- The warnings of visits are those of their failures, in order. -/
theorem warnings_of_visits (warns : ∀ visit ∈ visits, visit.Warns failed? warning) :
    (visits.flatMap (·.events)).filter Event.isWarning = (visits.filterMap failed?).map warning := by
  induction visits with
  | nil => rfl
  | cons visit rest inductionHypothesis =>
    have later := inductionHypothesis fun other listed => warns other (List.mem_cons_of_mem visit listed)
    rw [List.flatMap_cons, List.filter_append, (warns visit List.mem_cons_self).warnings, later,
      List.filterMap_cons]
    cases failed? visit <;> rfl

/-- What a sweep over references logs, given its visits to them. -/
structure Logged (failed? : Visit α → Option ReferenceFailure) (warning : ReferenceFailure → Event)
    (cells : List (NodeId × Option String)) (failures : List ReferenceFailure) (summary : Event)
    (visits : List (Visit α)) (events : List Event) : Prop where
  /-- Each reference is visited, in order. -/
  visited : visits.map (·.cell) = cells
  /-- The failures are those of the visits. -/
  failed : failures = visits.filterMap failed?
  /-- The events are those of the visits, and a summary at the end. -/
  reported : events = visits.flatMap (·.events) ++ [summary]
  /-- A visit that failed warns once, and any other does not warn. -/
  warns : ∀ visit ∈ visits, visit.Warns failed? warning
  /-- The warnings are those of the failures, in order. -/
  warnings : events.filter Event.isWarning = failures.map warning
  /-- There is no other summary. -/
  summaries : events.filter Event.isSummary = [summary]

/-- Visits that warn as they should make a sweep that logs as it should. -/
theorem logged_of_visits (warns : ∀ visit ∈ visits, visit.Warns failed? warning)
    (silent : summary.isWarning = false) (sums : summary.isSummary = true) :
    Logged failed? warning (visits.map (·.cell)) (visits.filterMap failed?) summary visits
      (visits.flatMap (·.events) ++ [summary]) := by
  refine ⟨rfl, rfl, rfl, warns, ?warnings, ?summaries⟩
  case warnings =>
    rw [List.filter_append, warnings_of_visits warns, List.filter_cons_of_neg (by simp [silent]),
      List.filter_nil, List.append_nil]
  case summaries =>
    have unsummed : (visits.flatMap (·.events)).filter Event.isSummary = [] := by
      rw [List.filter_flatMap, List.flatMap_eq_nil_iff]
      exact fun visit listed => (warns visit listed).unsummed
    rw [List.filter_append, unsummed, List.filter_cons_of_pos sums]
    rfl

variable {β : Type} {report : List (Visit α) → β} {cells : List (NodeId × Option String)}

/-- What is still to come of a sweep, its summary apart, comes about from visits to the references that
are left. -/
structure Visited (report : List (Visit α) → β) (failed? : Visit α → Option ReferenceFailure)
    (warning : ReferenceFailure → Event) (cells : List (NodeId × Option String))
    (visits : List (Visit α)) (later : Outcome β) : Prop where
  /-- Each reference is visited, in order. -/
  visited : visits.map (·.cell) = cells
  /-- The report is that on the visits. -/
  result : later.result = report visits
  /-- The events are those of the visits. -/
  events : later.events = visits.flatMap (·.events)
  /-- A visit that failed warns once, and any other does not warn. -/
  warns : ∀ visit ∈ visits, visit.Warns failed? warning

/-- One visit before the others adds its events to theirs, and itself to the report. -/
theorem Visited.cons {later : Outcome β} {result : β} {after : Workspace} (visit : Visit α)
    (rest : Visited report failed? warning cells visits later) (warns : visit.Warns failed? warning)
    (added : later.result = report visits → result = report (visit :: visits)) :
    Visited report failed? warning (visit.cell :: cells) (visit :: visits)
      ⟨result, after, visit.events ++ later.events⟩ where
  visited := by rw [List.map_cons, rest.visited]
  result := added rest.result
  events := by rw [List.flatMap_cons, ← rest.events]
  warns := List.forall_mem_cons.mpr ⟨warns, rest.warns⟩

end Visits

namespace Workspace

variable {ws : Workspace}

/-- Opening a location only tells of a document opened. -/
theorem moves_openAt (ws : Workspace) (location : String) :
    (ws.openAt location).events.all Event.isMove = true := by
  unfold openAt
  split
  · rfl
  · split
    · rfl
    · rfl
    · split <;> rfl

/-- Closing a document only tells of that. -/
theorem moves_close (ws : Workspace) (id : DocumentId) :
    (ws.close id).events.all Event.isMove = true := by
  unfold close
  split <;> rfl

/-- Resolving at a location tells of a document opened, and then of a target or of the document closed
again. -/
theorem moves_resolveAt (ws : Workspace) (reference : NodeRef) (location : String) :
    (ws.resolveAt reference location).events.all Event.isMove = true := by
  have opening := ws.moves_openAt location
  unfold resolveAt
  dsimp only
  split
  · exact opening
  · next target _ =>
    split
    · split
      · exact opening
      · rw [List.all_append, opening]
        rfl
    · split
      · exact opening
      · rw [List.all_append, opening, moves_close]
        rfl

/-- Resolving a reference only moves documents. -/
theorem moves_resolve (ws : Workspace) (reference : NodeRef) :
    (ws.resolve reference).events.all Event.isMove = true := by
  unfold resolve
  split
  · rfl
  · split
    · rfl
    · exact moves_resolveAt ws reference _

/-- A load sweep comes about from its visits.

Proof: induction on the references. What resolving the first one reports is no warning, and its
warning, if it fails, stands between that and the visits to the others. -/
theorem visits_resolveEach (document : DocumentId) (cells : List (NodeId × Option String))
    (ws : Workspace) :
    ∃ visits, Visited
      (fun visits => ⟨visits.length, visits.filterMap Visit.resolved?,
        visits.filterMap Visit.unresolved?⟩)
      Visit.unresolved? ReferenceFailure.loadWarning cells visits (resolveEach document cells ws) := by
  induction cells generalizing ws with
  | nil => exact ⟨[], rfl, rfl, rfl, List.forall_mem_nil _⟩
  | cons cell rest inductionHypothesis =>
    obtain ⟨cell, location⟩ := cell
    obtain ⟨visits, visited⟩ := inductionHypothesis (ws.resolve ⟨document, cell⟩).after
    obtain ⟨unwarned, unsummed⟩ := Event.filter_of_moves (ws.moves_resolve ⟨document, cell⟩)
    rw [resolveEach]
    cases done : (ws.resolve ⟨document, cell⟩).result with
    | ok target =>
      refine ⟨_, visited.cons ⟨(cell, location), .ok target, _⟩ ⟨?_, unsummed⟩ fun report => ?_⟩
      · exact unwarned
      · rw [report]
        rfl
    | error error =>
      dsimp only
      -- The warning is the last event of this visit.
      rw [List.append_cons]
      refine ⟨_, visited.cons ⟨(cell, location), .error error, _⟩ ⟨?_, ?_⟩ fun report => ?_⟩
      · rw [List.filter_append, unwarned]
        rfl
      · rw [List.filter_append, unsummed]
        rfl
      · rw [report]
        rfl

/-- Saving a document that is open to a location is reported by one event, which is a warning if the
location is refused and tells why. -/
theorem events_saveTo_of_open {id : DocumentId} {doc : Document} (found : ws.document? id = some doc)
    (location : String) :
    (ws.saveTo id location).events =
      match (ws.saveTo id location).result with
      | .ok () => [.documentSaved location (doc.toRecord ws.schema).nodeCount]
      | .error error => [.documentSaveFailed location error.message] := by
  cases stored : ws.repository.save location (doc.toRecord ws.schema) with
  | error error =>
    simp only [saveTo, found, stored]
    rfl
  | ok repository => simp only [saveTo, found, stored]

/-- A save sweep comes about from its visits.

Proof: induction on the references. A reference that stands for a document stands for an open one, so a
save that fails has warned. -/
theorem visits_saveEach (document : DocumentId) (cells : List (NodeId × Option String))
    (ws : Workspace) :
    ∃ visits : List (Visit SaveOutcome), Visited
      (fun visits => ⟨visits.filterMap (·.outcome.saved?), visits.filterMap (·.outcome.skipped?),
        visits.filterMap (·.outcome.failed?)⟩)
      (·.outcome.failed?) ReferenceFailure.saveWarning cells visits (saveEach document cells ws) := by
  induction cells generalizing ws with
  | nil => exact ⟨[], rfl, rfl, rfl, List.forall_mem_nil _⟩
  | cons cell rest inductionHypothesis =>
    obtain ⟨cell, declared⟩ := cell
    rw [saveEach]
    cases live : ws.liveTarget? ⟨document, cell⟩ with
    | none =>
      obtain ⟨visits, visited⟩ := inductionHypothesis ws
      refine ⟨_, visited.cons ⟨(cell, declared), .skipped cell, []⟩ ⟨rfl, rfl⟩ fun report => ?_⟩
      rw [report]
      rfl
    | some target =>
      cases usable : usableLocation? declared with
      | none =>
        obtain ⟨visits, visited⟩ := inductionHypothesis ws
        refine ⟨_, visited.cons ⟨(cell, declared), .failed (withoutLocation cell), [_]⟩ ⟨rfl, rfl⟩
          fun report => ?_⟩
        rw [report]
        rfl
      | some location =>
        obtain ⟨visits, visited⟩ := inductionHypothesis (ws.saveTo target location).after
        obtain ⟨-, -, -, doc, found⟩ := liveTarget?_eq_some_iff.mp live
        have told := events_saveTo_of_open found location
        dsimp only
        rw [told]
        cases done : (ws.saveTo target location).result with
        | ok _ =>
          refine ⟨_, visited.cons ⟨(cell, declared), .saved location, [_]⟩ ⟨rfl, rfl⟩
            fun report => ?_⟩
          rw [report]
          rfl
        | error error =>
          refine ⟨_, visited.cons ⟨(cell, declared), .failed ⟨cell, some location, error.message⟩, [_]⟩
            ⟨rfl, rfl⟩ fun report => ?_⟩
          rw [report]
          rfl

/-- What a load sweep logs. -/
def LoadLogged (cells : List (NodeId × Option String)) (outcome : Outcome LoadReport) : Prop :=
  ∃ visits : List (Visit (Except WorkspaceError DocumentId)),
    outcome.result =
      ⟨visits.length, visits.filterMap Visit.resolved?, visits.filterMap Visit.unresolved?⟩ ∧
    Logged Visit.unresolved? ReferenceFailure.loadWarning cells outcome.result.failures
      (.loadSwept outcome.result.attempted outcome.result.resolved.length
        outcome.result.failures.length) visits outcome.events

/-- What a save sweep logs. -/
def SaveLogged (cells : List (NodeId × Option String)) (outcome : Outcome SaveReport) : Prop :=
  ∃ visits : List (Visit SaveOutcome),
    outcome.result =
      ⟨visits.filterMap (·.outcome.saved?), visits.filterMap (·.outcome.skipped?),
        visits.filterMap (·.outcome.failed?)⟩ ∧
    Logged (·.outcome.failed?) ReferenceFailure.saveWarning cells outcome.result.failures
      (.saveSwept outcome.result.saved.length outcome.result.skipped.length
        outcome.result.failures.length) visits outcome.events

/-- A load sweep over the references of a game logs as it should. -/
theorem loadLogged_of_cells {game : NodeRef} {cells : List (NodeId × Option String)}
    (listed : ws.cellsOf? game = some cells) : LoadLogged cells (ws.loadSweep game) := by
  obtain ⟨visits, rfl, report, events, warns⟩ := visits_resolveEach game.document cells ws
  refine ⟨visits, ?_, ?_⟩
  · simp only [loadSweep, listed, report]
  · simp only [loadSweep, listed, report, events]
    exact logged_of_visits warns rfl rfl

/-- So does a save sweep. -/
theorem saveLogged_of_cells {game : NodeRef} {cells : List (NodeId × Option String)}
    (listed : ws.cellsOf? game = some cells) : SaveLogged cells (ws.saveSweep game) := by
  obtain ⟨visits, rfl, report, events, warns⟩ := visits_saveEach game.document cells ws
  refine ⟨visits, ?_, ?_⟩
  · simp only [saveSweep, listed, report]
  · simp only [saveSweep, listed, report, events]
    exact logged_of_visits warns rfl rfl

/-- What the two sweeps log, in any workspace and with any locations refused. From a node that is no game
with a folder they log nothing. Otherwise each warns once for each of its failures, in the order of the
references, and ends with its only summary, which counts what the report lists. -/
theorem logged_of_sweeps (ws : Workspace) (game : NodeRef) :
    ((∀ doc, ws.document? game.document = some doc → doc.folder? ws.schema game.node = none) →
      (ws.loadSweep game).events = [] ∧ (ws.saveSweep game).events = []) ∧
    ∀ doc folder, ws.document? game.document = some doc →
      doc.folder? ws.schema game.node = some folder →
      LoadLogged ((doc.folderCells ws.schema folder).map doc.declaration) (ws.loadSweep game) ∧
      SaveLogged ((doc.folderCells ws.schema folder).map doc.declaration) (ws.saveSweep game) := by
  refine ⟨fun missing => ?_, fun doc folder found first => ?_⟩
  · rw [loadSweep_of_missing missing, saveSweep_of_missing missing]
    exact ⟨rfl, rfl⟩
  · have listed := cellsOf?_of_folder found first
    exact ⟨loadLogged_of_cells listed, saveLogged_of_cells listed⟩

/-- The session of `shut`, with its first reference made to declare a blank location. -/
def blanked : Workspace :=
  shut.perform (.edit mixedGame.document (.setAttribute (Uuid.ofNat 11) Names.uriAttribute " "))

/-- The game has its folder in that session, and a save sweep fails with two references, one of them for
want of a location. -/
theorem run_blanked :
    ((blanked.document? mixedGame.document).bind fun doc =>
      doc.folder? blanked.schema mixedGame.node) = some (Uuid.ofNat 10) ∧
    (blanked.saveSweep mixedGame).result =
      ⟨[], [Uuid.ofNat 12, Uuid.ofNat 14],
        [⟨Uuid.ofNat 11, none, "cell reference has no location"⟩,
          ⟨Uuid.ofNat 13, some "shut.cell", "invalid document location `shut.cell`"⟩]⟩ := by
  decide +kernel

/-- Of four references a load sweep resolves two and warns of two. A save sweep then warns of the two
that stand for a document, since one declares a blank location and the other a refused one. -/
theorem logged_of_sweeps_blanked :
    ((mixed.loadSweep mixedGame).events.filter Event.isWarning).map (Event.line "0") =
      ["event=cell_resolve module=reference status=error location=other.game error=document " ++
          "`other.game` has root type `gameType`, expected a placements document",
        "event=cell_resolve module=reference status=error location=<none> error=cell reference " ++
          (Uuid.ofNat 14).text ++ " has no location"] ∧
    (mixed.loadSweep mixedGame).events.filter Event.isSummary = [.loadSwept 4 2 2] ∧
    ((blanked.saveSweep mixedGame).events.filter Event.isWarning).map (Event.line "0") =
      ["event=cell_save module=reference status=error error_code=missing_location",
        "event=document_save module=document status=error location=shut.cell error=invalid document " ++
          "location `shut.cell`"] ∧
    (blanked.saveSweep mixedGame).events.filter Event.isSummary = [.saveSwept 0 2 2] := by
  obtain ⟨doc, found, first⟩ := folder_mixed
  obtain ⟨blankedFolder, blankedReport⟩ := run_blanked
  obtain ⟨other, otherFound, otherFirst⟩ := Option.bind_eq_some_iff.mp blankedFolder
  obtain ⟨_, -, load⟩ := ((logged_of_sweeps mixed mixedGame).2 doc (Uuid.ofNat 10) found first).1
  obtain ⟨_, -, save⟩ :=
    ((logged_of_sweeps blanked mixedGame).2 other (Uuid.ofNat 10) otherFound otherFirst).2
  rw [load.warnings, load.summaries, run_mixed.2.2.2, save.warnings, save.summaries, blankedReport]
  decide +kernel

end Workspace

end LevelGraph
