import LevelGraph.Proofs.Workspace.Joined
import LevelGraph.Proofs.Workspace.Mirror

/-!
# What a load sweep reports and leaves behind

A load sweep resolves the references of one folder one after the other, and each resolve meets
the workspace that the earlier ones left. Its report does not depend on that: a reference is listed
as resolved if its verdict before the sweep allows it, and otherwise as failed with the error of
that verdict, because joining some references changes no verdict on others.

`LoadSwept` accounts for all of it. What the sweep reports is what the references stand for
afterwards; the documents that it opened are one for each location that needed one; and all else
is as it was.
-/

namespace LevelGraph

namespace Workspace

variable {ws : Workspace} {document : DocumentId}

/-- The failure that a reference is reported with, if it cannot be resolved. -/
def failure? (ws : Workspace) (document : DocumentId) (cell : NodeId × Option String) :
    Option ReferenceFailure :=
  match ws.verdict ⟨document, cell.1⟩ with
  | .ok () => none
  | .error error => some ⟨cell.1, cell.2, error.message⟩

/-- A sweep reports of each reference what it stands for afterwards, and of one that stands for
nothing why it could not be resolved before.

Proof: induction on the references. The first is resolved as its verdict says, and neither its
target nor the verdicts on the others change from then on. -/
theorem report_resolveEach (sound : ws.Sound) {doc : Document}
    (found : ws.document? document = some doc) (cells : List (NodeId × Option String))
    (distinct : (resolveEach document cells ws).after.supply.Distinct) :
    (resolveEach document cells ws).result =
      ⟨cells.length,
        cells.filterMap fun cell =>
          ((resolveEach document cells ws).after.liveTarget? ⟨document, cell.1⟩).map
            fun target => (cell.1, target),
        cells.filterMap (ws.failure? document)⟩ := by
  induction cells generalizing ws doc with
  | nil => rfl
  | cons cell rest inductionHypothesis =>
    have whole := joined_resolveEach sound found (cell :: rest) distinct
    have settled := whole.live_iff sound (List.mem_cons_self : cell.1 ∈ (cell :: rest).map (·.1))
    rw [after_resolveEach_cons] at distinct settled ⊢
    have hereDistinct := distinct.earlier (Steps.keeps (resolveEach_steps _ document rest)).2
    have here := joined_resolve sound found cell.1 hereDistinct
    have stands := liveTarget?_resolve sound hereDistinct ⟨document, cell.1⟩
    have failed (error : WorkspaceError) := @verdict_of_error _ _ sound hereDistinct error
    have allowed := verdict_of_ok sound hereDistinct
    obtain ⟨own, targets, -, foundAfter⟩ := here.own
    have later := inductionHypothesis here.sound foundAfter distinct
    -- Once it stands for a document, the first reference is left alone by the rest.
    have remains {target : DocumentId}
        (live : (ws.resolve ⟨document, cell.1⟩).after.liveTarget? ⟨document, cell.1⟩ = some target) :=
      (joined_resolveEach here.sound foundAfter rest distinct).live live
    have sameFailures : (ws.resolve ⟨document, cell.1⟩).after.failure? document =
        ws.failure? document := by
      funext other
      simp only [failure?, here.verdict sound]
    rw [sameFailures] at later
    rw [if_pos rfl] at stands
    rw [resolveEach, List.filterMap_cons, List.filterMap_cons, List.length_cons]
    generalize ws.resolve ⟨document, cell.1⟩ = outcome at later stands failed allowed remains settled ⊢
    cases result : outcome.result with
    | ok target =>
      rw [result] at stands
      have verdict := allowed.mp ⟨target, result⟩
      simp only [later, remains stands, failure?, verdict, LoadReport.withResolved,
        Option.map_some]
    | error error =>
      have verdict := (failed error).mp result
      have idle : (resolveEach document rest outcome.after).after.liveTarget?
          ⟨document, cell.1⟩ = none := by
        refine Option.eq_none_iff_forall_ne_some.mpr fun target live => ?_
        have other := settled.mp ⟨target, live⟩
        rw [verdict] at other
        cases other
      simp only [later, idle, failure?, verdict, LoadReport.withFailure, Option.map_none]

/-- The references of a game document's folder, each with the location that it declares. -/
theorem cellsOf?_of_folder {game : NodeRef} {doc : Document} {folder : NodeId}
    (found : ws.document? game.document = some doc)
    (first : doc.folder? ws.schema game.node = some folder) :
    ws.cellsOf? game = some ((doc.folderCells ws.schema folder).map doc.declaration) := by
  rw [cellsOf?_eq, found, Option.bind_some, Document.gameCells?_eq_folder, first, Option.map_some]

/-- A node that is no game of an open document, or has no folder, has no references to sweep. -/
theorem cellsOf?_eq_none {game : NodeRef}
    (missing : ∀ doc, ws.document? game.document = some doc →
      doc.folder? ws.schema game.node = none) : ws.cellsOf? game = none := by
  rw [cellsOf?_eq]
  cases found : ws.document? game.document with
  | none => rfl
  | some doc =>
    rw [Option.bind_some, Document.gameCells?_eq_folder, missing doc found, Option.map_none]

/-- A sweep from a node that is no game with a folder does nothing. -/
theorem loadSweep_of_missing {game : NodeRef}
    (missing : ∀ doc, ws.document? game.document = some doc →
      doc.folder? ws.schema game.node = none) :
    ws.loadSweep game = ⟨LoadReport.empty, ws, []⟩ := by
  simp only [loadSweep, cellsOf?_eq_none missing]

/-- A load sweep over a folder resolves its references. -/
theorem loadSweep_of_folder {game : NodeRef} {doc : Document} {folder : NodeId}
    (found : ws.document? game.document = some doc)
    (first : doc.folder? ws.schema game.node = some folder) :
    (ws.loadSweep game).result = (resolveEach game.document
        ((doc.folderCells ws.schema folder).map doc.declaration) ws).result ∧
      (ws.loadSweep game).after = (resolveEach game.document
        ((doc.folderCells ws.schema folder).map doc.declaration) ws).after := by
  simp only [loadSweep, cellsOf?_of_folder found first, and_self]

/-- The report of a load sweep over a folder. -/
theorem report_loadSweep (sound : ws.Sound) {game : NodeRef} {doc : Document} {folder : NodeId}
    (found : ws.document? game.document = some doc)
    (first : doc.folder? ws.schema game.node = some folder)
    (distinct : (ws.loadSweep game).after.supply.Distinct) :
    (ws.loadSweep game).result =
      ⟨(doc.folderCells ws.schema folder).length,
        (doc.folderCells ws.schema folder).filterMap fun cell =>
          ((ws.loadSweep game).after.liveTarget? ⟨game.document, cell⟩).map fun target =>
            (cell, target),
        (doc.folderCells ws.schema folder).filterMap fun cell =>
          ws.failure? game.document (doc.declaration cell)⟩ := by
  obtain ⟨sameReport, sameAfter⟩ := loadSweep_of_folder found first
  rw [sameAfter] at distinct ⊢
  rw [sameReport, report_resolveEach sound found _ distinct, List.length_map, List.filterMap_map,
    List.filterMap_map]
  rfl

/-- A load sweep over a folder joins its references. -/
theorem joined_loadSweep (sound : ws.Sound) {game : NodeRef} {doc : Document} {folder : NodeId}
    (found : ws.document? game.document = some doc)
    (first : doc.folder? ws.schema game.node = some folder)
    (distinct : (ws.loadSweep game).after.supply.Distinct) :
    ws.Joined game.document (doc.folderCells ws.schema folder) (ws.loadSweep game).after := by
  obtain ⟨-, sameAfter⟩ := loadSweep_of_folder found first
  rw [sameAfter] at distinct ⊢
  have joined := joined_resolveEach sound found _ distinct
  rw [List.map_map] at joined
  simpa only [Function.comp_def, Document.declaration, List.map_id'] using joined

/-- A location needs a document: none was open there, and a listed reference that stood for nothing
declares it and came to stand for a document. -/
def Needed (ws : Workspace) (document : DocumentId) (doc : Document) (cells : List NodeId)
    (after : Workspace) (location : String) : Prop :=
  ws.documentAt? location = none ∧ ∃ cell ∈ cells, ws.liveTarget? ⟨document, cell⟩ = none ∧
    (after.liveTarget? ⟨document, cell⟩).isSome = true ∧
    doc.attribute? cell Names.uriAttribute = some location

/-- What a load sweep over the listed references of a document reports and leaves behind. -/
structure LoadSwept (ws : Workspace) (document : DocumentId) (doc : Document) (cells : List NodeId)
    (outcome : Outcome LoadReport) : Prop where
  /-- Every reference was tried. -/
  attempted : outcome.result.attempted = cells.length
  /-- Those that stand for a document afterwards are resolved, in order and with that document. -/
  resolved : outcome.result.resolved = cells.filterMap fun cell =>
    (outcome.after.liveTarget? ⟨document, cell⟩).map fun target => (cell, target)
  /-- Those that stand for nothing have failed, in order. -/
  failed : outcome.result.failures.map (·.cell) = cells.filter fun cell =>
    (outcome.after.liveTarget? ⟨document, cell⟩).isNone
  /-- Two that came to stand for documents stand for one exactly if they declare one location. -/
  shared : ∀ {first second firstTarget secondTarget}, first ∈ cells → second ∈ cells →
    ws.liveTarget? ⟨document, first⟩ = none → ws.liveTarget? ⟨document, second⟩ = none →
    outcome.after.liveTarget? ⟨document, first⟩ = some firstTarget →
    outcome.after.liveTarget? ⟨document, second⟩ = some secondTarget →
    (firstTarget = secondTarget ↔
      doc.attribute? first Names.uriAttribute = doc.attribute? second Names.uriAttribute)
  /-- One document was opened at each location that needed one. -/
  opened : ∀ {location}, ws.Needed document doc cells outcome.after location →
    ∃! id, ws.document? id = none ∧
      ∃ held, outcome.after.document? id = some held ∧ held.location = location
  /-- None was opened elsewhere. -/
  openedOnly : ∀ {id held}, ws.document? id = none → outcome.after.document? id = some held →
    ws.Needed document doc cells outcome.after held.location
  /-- What was open is open and differs at most in the targets of the references that came to stand
  for documents. -/
  kept : ∀ {id held}, ws.document? id = some held → ∃ targets,
    outcome.after.document? id = some { held with targets := targets } ∧
      ∀ node, targets.find? node = held.targets.find? node ∨
        (id = document ∧ node ∈ cells ∧ ws.liveTarget? ⟨document, node⟩ = none ∧
          (outcome.after.liveTarget? ⟨document, node⟩).isSome = true)
  /-- The store is as it was. -/
  stored : outcome.after.repository = ws.repository

/-- The location that a reference can be linked at is its attribute. -/
theorem Joins.attribute {node : NodeId} {location : String} {doc : Document}
    (joins : ws.Joins ⟨document, node⟩ location) (found : ws.document? document = some doc) :
    doc.attribute? node Names.uriAttribute = some location := by
  obtain ⟨held, heldFound, -, declared, -⟩ := declaredLocation_eq_ok_iff.mp joins.declares
  rw [found, Option.some.injEq] at heldFound
  exact heldFound ▸ declared

/-- Failures are reported for the references that stand for nothing afterwards. -/
theorem Joined.failures {cells : List NodeId} {after : Workspace}
    (joined : ws.Joined document cells after) (sound : ws.Sound)
    {doc : Document} {listed : List NodeId} (part : ∀ cell ∈ listed, cell ∈ cells) :
    (listed.filterMap fun cell => ws.failure? document (doc.declaration cell)).map (·.cell) =
      listed.filter fun cell => (after.liveTarget? ⟨document, cell⟩).isNone := by
  induction listed with
  | nil => rfl
  | cons cell rest inductionHypothesis =>
    have settled := joined.live_iff sound (part cell List.mem_cons_self)
    have later := inductionHypothesis fun other member =>
      part other (List.mem_cons_of_mem cell member)
    rw [List.filterMap_cons, List.filter_cons]
    cases live : after.liveTarget? ⟨document, cell⟩ with
    | some target =>
      have verdict := settled.mp ⟨target, live⟩
      simpa only [failure?, Document.declaration, verdict, Option.isNone_some, Bool.false_eq_true,
        if_false] using later
    | none =>
      cases verdict : ws.verdict ⟨document, cell⟩ with
      | ok =>
        obtain ⟨target, other⟩ := settled.mpr verdict
        rw [live] at other
        cases other
      | error error =>
        simpa only [failure?, Document.declaration, verdict, List.map_cons, Option.isNone_none,
          if_true, List.cons.injEq, true_and] using later

/-- Accounting and frame of the load sweep. A node that is no game with a folder makes a sweep that
does nothing. Otherwise the report tells of every reference in the folder what it stands for
afterwards, the documents opened are those that were needed, and all else is as it was. -/
theorem loadSwept_of_loadSweep (reachable : ws.Reachable) (game : NodeRef)
    (distinct : (ws.loadSweep game).after.supply.Distinct) :
    ((∀ doc, ws.document? game.document = some doc → doc.folder? ws.schema game.node = none) →
      ws.loadSweep game = ⟨LoadReport.empty, ws, []⟩) ∧
    ∀ doc folder, ws.document? game.document = some doc →
      doc.folder? ws.schema game.node = some folder →
      ws.LoadSwept game.document doc (doc.folderCells ws.schema folder) (ws.loadSweep game) := by
  refine ⟨loadSweep_of_missing, ?_⟩
  intro doc folder found first
  have sound := reachable.sound
  have joined := joined_loadSweep sound found first distinct
  have report := report_loadSweep sound found first distinct
  have needed {cell : NodeId} {location : String} (listed : cell ∈ doc.folderCells ws.schema folder)
      (joins : ws.Joins ⟨game.document, cell⟩ location)
      (free : ws.documentAt? location = none) :
      ws.Needed game.document doc (doc.folderCells ws.schema folder)
        (ws.loadSweep game).after location := by
    obtain ⟨target, -, live⟩ := joined.linked_live listed joins
    exact ⟨free, cell, listed, joins.idle, by rw [live]; rfl, joins.attribute found⟩
  refine ⟨by rw [report], by rw [report], ?failed, ?shared, ?opened, ?openedOnly, ?kept,
    joined.repository⟩
  case failed =>
    rw [report]
    exact joined.failures sound fun _ listed => listed
  case shared =>
    intro one other oneTarget otherTarget _ _ oneIdle otherIdle oneLive otherLive
    obtain ⟨-, oneLocation, oneJoins, onePlaced⟩ := joined.joins_of_live sound oneIdle oneLive
    obtain ⟨-, otherLocation, otherJoins, otherPlaced⟩ :=
      joined.joins_of_live sound otherIdle otherLive
    rw [oneJoins.attribute found, otherJoins.attribute found, Option.some.injEq]
    constructor
    · rintro rfl
      obtain ⟨held, heldFound, oneLocated⟩ := joined.sound.indexed onePlaced
      obtain ⟨same, sameFound, otherLocated⟩ := joined.sound.indexed otherPlaced
      rw [heldFound, Option.some.injEq] at sameFound
      rw [← oneLocated, ← otherLocated, sameFound]
    · rintro rfl
      rw [onePlaced, Option.some.injEq] at otherPlaced
      exact otherPlaced
  case opened =>
    rintro location ⟨free, cell, listed, idle, stands, declared⟩
    obtain ⟨target, live⟩ := Option.isSome_iff_exists.mp stands
    obtain ⟨-, place, joins, placed⟩ := joined.joins_of_live sound idle live
    rw [joins.attribute found, Option.some.injEq] at declared
    subst declared
    obtain ⟨closed, held, heldFound, located, -⟩ := joined.newlyPlaced sound free placed
    refine ⟨target, ⟨closed, held, heldFound, located⟩, ?_⟩
    rintro other ⟨-, otherHeld, otherFound, otherLocated⟩
    exact joined.sound.eq_of_location otherFound heldFound (otherLocated.trans located.symm)
  case openedOnly =>
    intro id held closed open_
    obtain ⟨-, free, -, cell, listed, joins⟩ := joined.opened open_ closed
    exact needed listed joins free
  case kept =>
    intro id held heldFound
    obtain ⟨targets, heldAfter⟩ := joined.held heldFound
    refine ⟨targets, heldAfter, fun node => ?_⟩
    by_cases own : id = game.document
    · subst own
      by_cases could : ∃ location, node ∈ doc.folderCells ws.schema folder ∧
          ws.Joins ⟨game.document, node⟩ location
      · obtain ⟨location, listed, joins⟩ := could
        obtain ⟨target, -, live⟩ := joined.linked_live listed joins
        exact .inr ⟨rfl, listed, joins.idle, by rw [live]; rfl⟩
      · have same := joined.kept fun location listed joins => could ⟨location, listed, joins⟩
        simp only [targetOf?, heldAfter, heldFound] at same
        exact .inl same
    · rw [joined.others own heldFound, Option.some.injEq] at heldAfter
      exact .inl (congrArg (fun doc : Document => doc.targets.find? node) heldAfter.symm)

/-- A folder has two references to one stored cell document, one to a stored game and one that
declares nothing. -/
def mixedActions : List Action :=
  [.create "a.cell" ⟨3⟩, .save (Uuid.ofNat 1), .close (Uuid.ofNat 1),
    .create "other.game" ⟨0⟩, .save (Uuid.ofNat 3), .close (Uuid.ofNat 3),
    .create "level.game" ⟨0⟩,
    .edit (Uuid.ofNat 5) (.append (Uuid.ofNat 4) Names.placementsFolderChild ⟨1⟩ (Uuid.ofNat 10)),
    .edit (Uuid.ofNat 5) (.append (Uuid.ofNat 10) Names.cellChild ⟨2⟩ (Uuid.ofNat 11)),
    .edit (Uuid.ofNat 5) (.append (Uuid.ofNat 10) Names.cellChild ⟨2⟩ (Uuid.ofNat 12)),
    .edit (Uuid.ofNat 5) (.append (Uuid.ofNat 10) Names.cellChild ⟨2⟩ (Uuid.ofNat 13)),
    .edit (Uuid.ofNat 5) (.append (Uuid.ofNat 10) Names.cellChild ⟨2⟩ (Uuid.ofNat 14)),
    .edit (Uuid.ofNat 5) (.setAttribute (Uuid.ofNat 11) Names.uriAttribute "a.cell"),
    .edit (Uuid.ofNat 5) (.setAttribute (Uuid.ofNat 12) Names.uriAttribute "other.game"),
    .edit (Uuid.ofNat 5) (.setAttribute (Uuid.ofNat 13) Names.uriAttribute "a.cell")]

/-- The session with that folder. -/
def mixed : Workspace := blank.run mixedActions

/-- The game with that folder. -/
def mixedGame : NodeRef := ⟨Uuid.ofNat 5, Uuid.ofNat 4⟩

/-- The folder can be made, and a sweep over it resolves two references and fails with the two others.
-/
theorem run_mixed :
    blank.AdmitsAll mixedActions ∧
    ((mixed.document? mixedGame.document).bind fun doc =>
      doc.folder? mixed.schema mixedGame.node) = some (Uuid.ofNat 10) ∧
    (mixed.loadSweep mixedGame).after.supply.Distinct ∧
    (mixed.loadSweep mixedGame).result =
      ⟨4, [(Uuid.ofNat 11, Uuid.ofNat 6), (Uuid.ofNat 13, Uuid.ofNat 6)],
        [⟨Uuid.ofNat 12, some "other.game",
            (WorkspaceError.targetTypeMismatch "other.game" "gameType").message⟩,
          ⟨Uuid.ofNat 14, none, (WorkspaceError.missingLocation
            ⟨mixedGame.document, Uuid.ofNat 14⟩).message⟩]⟩ := by
  decide +kernel

/-- So the session can be reached. -/
theorem reachable_mixed : mixed.Reachable := reachable_blank.run run_mixed.1

/-- The game in it is open and has the folder. -/
theorem folder_mixed : ∃ doc, mixed.document? mixedGame.document = some doc ∧
    doc.folder? mixed.schema mixedGame.node = some (Uuid.ofNat 10) :=
  Option.bind_eq_some_iff.mp run_mixed.2.1

/-- Both references to the cell document come to stand for it, and the other two fail. -/
theorem loadSwept_mixed :
    (mixed.loadSweep mixedGame).after.supply.Distinct ∧
    (mixed.loadSweep mixedGame).result =
      ⟨4, [(Uuid.ofNat 11, Uuid.ofNat 6), (Uuid.ofNat 13, Uuid.ofNat 6)],
        [⟨Uuid.ofNat 12, some "other.game",
            (WorkspaceError.targetTypeMismatch "other.game" "gameType").message⟩,
          ⟨Uuid.ofNat 14, none, (WorkspaceError.missingLocation
            ⟨mixedGame.document, Uuid.ofNat 14⟩).message⟩]⟩ ∧
    ∃ doc, mixed.document? mixedGame.document = some doc ∧
      doc.folder? mixed.schema mixedGame.node = some (Uuid.ofNat 10) ∧
      mixed.LoadSwept mixedGame.document doc (doc.folderCells mixed.schema (Uuid.ofNat 10))
        (mixed.loadSweep mixedGame) := by
  obtain ⟨-, -, distinct, report⟩ := run_mixed
  obtain ⟨doc, found, first⟩ := folder_mixed
  obtain ⟨-, swept⟩ := loadSwept_of_loadSweep reachable_mixed mixedGame distinct
  exact ⟨distinct, report, doc, found, first, swept doc (Uuid.ofNat 10) found first⟩

end Workspace

end LevelGraph
