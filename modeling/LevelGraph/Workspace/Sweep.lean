import LevelGraph.Workspace.Resolve

/-!
# Sweeps over a game's cells

A sweep goes through the cell references of a game's placements folder in order and never
stops early. The load sweep resolves each. The save sweep saves the target of each
resolved one to the location that the reference declares, and skips the others; a
resolved one without a location is a failure. The references and their locations are
taken down before the sweep starts, so what it changes does not affect which it visits.

A node that is no game, or a game without folder, makes a sweep that does nothing and
reports nothing. Every failure is reported once and logged by one warning.
-/

namespace LevelGraph

/-- A reference that a sweep could not resolve or save. -/
structure ReferenceFailure where
  /-- The reference node. -/
  cell : NodeId
  /-- The location that it declares. -/
  location : Option String
  /-- What went wrong, in words. -/
  message : String
  deriving DecidableEq

/-- What a load sweep did. -/
structure LoadReport where
  /-- The number of references tried. -/
  attempted : Nat
  /-- The references resolved, each with its target, in order. -/
  resolved : List (NodeId × DocumentId)
  /-- The others, in order. -/
  failures : List ReferenceFailure
  deriving DecidableEq

/-- What a save sweep did. -/
structure SaveReport where
  /-- The locations written, in order. -/
  saved : List String
  /-- The references that stand for no open document, in order. -/
  skipped : List NodeId
  /-- The references that could not be saved, in order. -/
  failures : List ReferenceFailure
  deriving DecidableEq

namespace LoadReport

/-- Nothing was tried. -/
def empty : LoadReport := ⟨0, [], []⟩

/-- Whether nothing failed. -/
def isClean (report : LoadReport) : Bool := report.failures.isEmpty

/-- The report with a resolved reference in front. -/
def withResolved (report : LoadReport) (cell : NodeId) (target : DocumentId) : LoadReport :=
  { report with attempted := report.attempted + 1, resolved := (cell, target) :: report.resolved }

/-- The report with a failure in front. -/
def withFailure (report : LoadReport) (failure : ReferenceFailure) : LoadReport :=
  { report with attempted := report.attempted + 1, failures := failure :: report.failures }

end LoadReport

namespace SaveReport

/-- Nothing was there to save. -/
def empty : SaveReport := ⟨[], [], []⟩

/-- Whether nothing failed. -/
def isClean (report : SaveReport) : Bool := report.failures.isEmpty

/-- The report with a written location in front. -/
def withSaved (report : SaveReport) (location : String) : SaveReport :=
  { report with saved := location :: report.saved }

/-- The report with a skipped reference in front. -/
def withSkipped (report : SaveReport) (cell : NodeId) : SaveReport :=
  { report with skipped := cell :: report.skipped }

/-- The report with a failure in front. -/
def withFailure (report : SaveReport) (failure : ReferenceFailure) : SaveReport :=
  { report with failures := failure :: report.failures }

end SaveReport

namespace Workspace

/-- The cell references of a game's placements folder, each with the location that it
declares; none for a node that is no game and for a game without folder. -/
def cellsOf? (ws : Workspace) (game : NodeRef) : Option (List (NodeId × Option String)) :=
  match ws.document? game.document with
  | none => none
  | some doc =>
    match (doc.game? ws.schema game.node).bind (·.folder) with
    | none => none
    | some folder => some (folder.cells.map fun cell => (cell.node, cell.location))

/-- Resolve references of one document in order. -/
def resolveEach (document : DocumentId) :
    List (NodeId × Option String) → Workspace → Outcome LoadReport
  | [], ws => ⟨LoadReport.empty, ws, []⟩
  | (cell, location) :: rest, ws =>
    let here := ws.resolve ⟨document, cell⟩
    let later := resolveEach document rest here.after
    match here.result with
    | .ok target =>
      ⟨later.result.withResolved cell target, later.after, here.events ++ later.events⟩
    | .error error =>
      ⟨later.result.withFailure ⟨cell, location, error.message⟩, later.after,
        here.events ++ .cellUnresolved location error.message :: later.events⟩

/-- Resolve every cell reference of a game. -/
def loadSweep (ws : Workspace) (game : NodeRef) : Outcome LoadReport :=
  match ws.cellsOf? game with
  | none => ⟨LoadReport.empty, ws, []⟩
  | some cells =>
    let sweep := resolveEach game.document cells ws
    let report := sweep.result
    ⟨report, sweep.after, sweep.events ++
      [.loadSwept report.attempted report.resolved.length report.failures.length]⟩

/-- The failure of a resolved reference that declares no location. -/
def withoutLocation (cell : NodeId) : ReferenceFailure :=
  ⟨cell, none, "cell reference has no location"⟩

/-- The declared location of a reference, unless it is blank. -/
def usableLocation? (location : Option String) : Option String :=
  location.filter fun text => !Text.isBlankText text

/-- Save the targets of references of one document in order. -/
def saveEach (document : DocumentId) :
    List (NodeId × Option String) → Workspace → Outcome SaveReport
  | [], ws => ⟨SaveReport.empty, ws, []⟩
  | (cell, declared) :: rest, ws =>
    match ws.liveTarget? ⟨document, cell⟩ with
    | none =>
      let later := saveEach document rest ws
      ⟨later.result.withSkipped cell, later.after, later.events⟩
    | some target =>
      match usableLocation? declared with
      | none =>
        let later := saveEach document rest ws
        ⟨later.result.withFailure (withoutLocation cell), later.after,
          .cellWithoutLocation :: later.events⟩
      | some location =>
        let here := ws.saveTo target location
        let later := saveEach document rest here.after
        match here.result with
        | .ok () => ⟨later.result.withSaved location, later.after, here.events ++ later.events⟩
        | .error error =>
          ⟨later.result.withFailure ⟨cell, some location, error.message⟩, later.after,
            here.events ++ later.events⟩

/-- Save every resolved cell of a game to the location that its reference declares. -/
def saveSweep (ws : Workspace) (game : NodeRef) : Outcome SaveReport :=
  match ws.cellsOf? game with
  | none => ⟨SaveReport.empty, ws, []⟩
  | some cells =>
    let sweep := saveEach game.document cells ws
    let report := sweep.result
    ⟨report, sweep.after, sweep.events ++
      [.saveSwept report.saved.length report.skipped.length report.failures.length]⟩

/-- Save a game document, then its cells. Only a failure to save the game document itself
is an error; failures of cells are in the report. -/
def saveGame (ws : Workspace) (game : DocumentId) : Outcome (Except WorkspaceError SaveReport) :=
  let own := ws.save game
  match own.result with
  | .error error => ⟨.error error, own.after, own.events⟩
  | .ok () =>
    match own.after.document? game with
    | none => ⟨.error (.documentNotOpen game), own.after, own.events⟩
    | some doc =>
      let sweep := own.after.saveSweep ⟨game, doc.root⟩
      ⟨.ok sweep.result, sweep.after, own.events ++ sweep.events⟩

end Workspace

end LevelGraph
