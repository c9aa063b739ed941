import LevelGraph.Proofs.Workspace.LoadSweep
import LevelGraph.Proofs.Workspace.Reordered

/-!
# The order of cells in a load sweep

What a load sweep does to a reference does not depend on when it comes to it. It is resolved if
resolving it alone, in the workspace before the sweep, would succeed, and fails otherwise with the
message that resolving it alone would give. So a folder in another order makes a sweep with the same
outcomes in that order. Only the identifiers of the documents opened can be others, because they are
drawn in the order of the opening; `Renames` compares two workspaces up to that. A second sweep finds
nothing left to join.

Two joined workspaces are compared by locations. What stands at a location in the one is matched with
what stands there in the other, and everything that had been issued before is matched with itself.
-/

namespace LevelGraph

/-- The supply some turns later. -/
def IdSupply.ahead (supply : IdSupply) (turns : Nat) : IdSupply :=
  { supply with issued := supply.issued + turns }

/-- What is distinct over some turns ahead is distinct after fewer turns. -/
theorem IdSupply.Distinct.of_ahead {supply later : IdSupply} {turns : Nat}
    (distinct : (supply.ahead turns).Distinct) (precedes : supply.Precedes later)
    (few : later.issued ≤ supply.issued + turns) : later.Distinct :=
  distinct.earlier ⟨precedes.same.symm, few⟩

/-- The document with its identifier and its targets renamed. -/
def Document.renamed (rename : DocumentId → DocumentId) (doc : Document) : Document :=
  { doc with id := rename doc.id, targets := doc.targets.map rename }

namespace Workspace

/-- The second workspace is the first with the identifiers of its open documents renamed. -/
structure Renames (rename : DocumentId → DocumentId) (ws other : Workspace) : Prop where
  /-- The schemas agree. -/
  schema : other.schema = ws.schema
  /-- The stores agree. -/
  repository : other.repository = ws.repository
  /-- Open documents get different names. -/
  apart : ∀ {first second}, (ws.document? first).isSome = true →
    (ws.document? second).isSome = true → rename first = rename second → first = second
  /-- An open document is open under its new name. -/
  held : ∀ {id doc}, ws.document? id = some doc →
    other.document? (rename id) = some (doc.renamed rename)
  /-- No other document is open. -/
  only : ∀ {id}, (other.document? id).isSome = true →
    ∃ before, (ws.document? before).isSome = true ∧ rename before = id
  /-- The same documents are at the same locations. -/
  location : ∀ location, other.documentAt? location = (ws.documentAt? location).map rename

/-- The document that is in a second workspace at the location that a document has in the first. -/
def matching (first second : Workspace) (id : DocumentId) : DocumentId :=
  match first.document? id with
  | none => id
  | some doc => (second.documentAt? doc.location).getD id

section Matching

variable {ws first second : Workspace} {document : DocumentId} {cells others : List NodeId}
  {folder : NodeId} {order : List NodeId} {dirty : Bool} (sound : ws.Sound)
  (resound : (ws.reorder document folder order dirty).Sound)
  (joined : ws.Joined document cells first)
  (rejoined : (ws.reorder document folder order dirty).Joined document others second)
  (same : ∀ cell, cell ∈ others ↔ cell ∈ cells)

include sound resound joined rejoined

/-- What had been issued is matched with itself. -/
theorem matching_of_issued {id : DocumentId} (issued : ws.supply.Issued id) :
    matching first second id = id := by
  unfold matching
  cases found : first.document? id with
  | none => rfl
  | some doc =>
    cases before : ws.document? id with
    | none => exact absurd issued (joined.opened found before).1
    | some held =>
      obtain ⟨targets, heldAfter⟩ := joined.held before
      rw [found, Option.some.injEq] at heldAfter
      have filed := (sound.filed before).2
      have placed := rejoined.placed resound filed
      rw [heldAfter]
      exact congrArg (·.getD id) placed

include same

/-- What is at a location is matched with what is there. -/
theorem documentAt?_matching (location : String) :
    second.documentAt? location = (first.documentAt? location).map (matching first second) := by
  cases now : first.documentAt? location with
  | none =>
    cases other : second.documentAt? location with
    | none => rfl
    | some id =>
      cases was : ws.documentAt? location with
      | some before =>
        rw [joined.placed sound was] at now
        cases now
      | none =>
        obtain ⟨-, -, -, -, -, cell, listed, joins⟩ := rejoined.newlyPlaced resound was other
        have joinsBefore := (ws.joins_reorder document folder order dirty).mp joins
        obtain ⟨target, placed, -⟩ := joined.linked ((same cell).mp listed) joinsBefore
        rw [now] at placed
        cases placed
  | some id =>
    obtain ⟨held, found, located⟩ := joined.sound.indexed now
    -- What is there was open before or was opened for a reference, which then has its location
    -- opened in the other order too.
    have there : ∃ other, second.documentAt? location = some other := by
      cases was : ws.documentAt? location with
      | some before => exact ⟨before, rejoined.placed resound was⟩
      | none =>
        obtain ⟨-, -, -, -, -, cell, listed, joins⟩ := joined.newlyPlaced sound was now
        have joinsThere := (ws.joins_reorder document folder order dirty).mpr joins
        obtain ⟨target, placed, -⟩ := rejoined.linked ((same cell).mpr listed) joinsThere
        exact ⟨target, placed⟩
    obtain ⟨other, placed⟩ := there
    rw [placed, Option.map_some, matching, found]
    dsimp only
    rw [located, placed, Option.getD_some]

/-- The targets of the document that is swept are matched. -/
theorem targetOf?_matching (node : NodeId) :
    second.targetOf? ⟨document, node⟩ =
      (first.targetOf? ⟨document, node⟩).map (matching first second) := by
  by_cases could : ∃ location, node ∈ cells ∧ ws.Joins ⟨document, node⟩ location
  · obtain ⟨location, listed, joins⟩ := could
    obtain ⟨target, placed, targeted⟩ := joined.linked listed joins
    obtain ⟨other, otherPlaced, otherTargeted⟩ := rejoined.linked ((same node).mpr listed)
      ((ws.joins_reorder document folder order dirty).mpr joins)
    rw [documentAt?_matching sound resound joined rejoined same, placed, Option.map_some,
      Option.some.injEq] at otherPlaced
    rw [targeted, otherTargeted, Option.map_some, otherPlaced]
  · have before : (ws.reorder document folder order dirty).targetOf? ⟨document, node⟩ =
        ws.targetOf? ⟨document, node⟩ := by
      simp only [targetOf?, document?_reorder, if_true, Option.bind_map]
      rfl
    rw [joined.kept fun location listed joins => could ⟨location, listed, joins⟩,
      rejoined.kept fun location listed joins => could ⟨location, (same node).mp listed,
        (ws.joins_reorder document folder order dirty).mp joins⟩, before]
    cases held : ws.targetOf? ⟨document, node⟩ with
    | none => rfl
    | some target =>
      obtain ⟨doc, found, targeted⟩ := Option.bind_eq_some_iff.mp held
      rw [Option.map_some, matching_of_issued sound resound joined rejoined
        (sound.targetIssued found targeted)]

/-- What a listed reference stands for is matched. -/
theorem liveTarget?_matching {cell : NodeId} (listed : cell ∈ cells) :
    second.liveTarget? ⟨document, cell⟩ =
      (first.liveTarget? ⟨document, cell⟩).map (matching first second) := by
  have settled := joined.live_iff sound listed
  have resettled := rejoined.live_iff resound ((same cell).mpr listed)
  rw [verdict_reorder, ← settled] at resettled
  have targets := targetOf?_matching sound resound joined rejoined same cell
  cases live : first.liveTarget? ⟨document, cell⟩ with
  | none =>
    refine Option.eq_none_iff_forall_ne_some.mpr fun target other => ?_
    obtain ⟨idle, stands⟩ := resettled.mp ⟨target, other⟩
    rw [live] at stands
    cases stands
  | some target =>
    obtain ⟨other, otherLive⟩ := resettled.mpr ⟨target, live⟩
    have otherTarget := (liveTarget?_eq_some_iff_targetOf?.mp otherLive).1
    rw [targets, (liveTarget?_eq_some_iff_targetOf?.mp live).1, Option.map_some,
      Option.some.injEq] at otherTarget
    rw [otherLive, Option.map_some, otherTarget]

/-- A document that was open before is open under its own name with matched targets. -/
theorem document?_matching_of_open {id : DocumentId} {before doc : Document}
    (was : ws.document? id = some before)
    (found : (first.reorder document folder order dirty).document? id = some doc) :
    second.document? id = some (doc.renamed (matching first second)) := by
  have issued := sound.issued was
  have own := matching_of_issued sound resound joined rejoined issued
  obtain ⟨sameId, -⟩ := sound.filed was
  by_cases swept : id = document
  · subst swept
    obtain ⟨targets, held⟩ := joined.held was
    obtain ⟨retargets, reheld⟩ := rejoined.held (document?_reorder_self folder order dirty was)
    have matched : retargets = targets.map (matching first second) := by
      refine Table.eq_of_find?_eq fun node => ?_
      have targeted := targetOf?_matching sound resound joined rejoined same node
      simp only [targetOf?, held, reheld, Option.bind_some, Document.target?] at targeted
      rw [targeted, Table.find?_map]
    rw [document?_reorder, held, Option.map_some, if_pos rfl, Option.some.injEq] at found
    rw [reheld, ← found, matched]
    simp only [Document.renamed, Document.reorder, sameId, own]
  · have wasThere : (ws.reorder document folder order dirty).document? id = some before := by
      rw [document?_reorder, was, Option.map_some, if_neg swept]
    have there := rejoined.others swept wasThere
    rw [document?_reorder, joined.others swept was, Option.map_some, if_neg swept,
      Option.some.injEq] at found
    subst found
    have matched : before.targets.map (matching first second) = before.targets := by
      refine Table.eq_of_find?_eq fun node => ?_
      rw [Table.find?_map]
      cases targeted : before.targets.find? node with
      | none => rfl
      | some target =>
        rw [Option.map_some, matching_of_issued sound resound joined rejoined
          (sound.targetIssued was targeted)]
    rw [there]
    simp only [Document.renamed, matched, sameId, own]
    rw [← sameId]

/-- A document opened for a reference is open under the name of its match. -/
theorem document?_matching_of_opened {id : DocumentId} {doc : Document}
    (closed : ws.document? id = none)
    (found : (first.reorder document folder order dirty).document? id = some doc) :
    second.document? (matching first second id) = some (doc.renamed (matching first second)) := by
  have other : id ≠ document := by
    rintro rfl
    obtain ⟨own, -, ownFound, -⟩ := joined.own
    rw [closed] at ownFound
    cases ownFound
  rw [document?_reorder] at found
  obtain ⟨held, heldFound, isDoc⟩ := Option.map_eq_some_iff.mp found
  rw [if_neg other] at isDoc
  subst isDoc
  obtain ⟨-, free, loaded, -⟩ := joined.opened heldFound closed
  have placed := documentAt?_matching sound resound joined rejoined same held.location
  rw [(joined.sound.filed heldFound).2, Option.map_some] at placed
  obtain ⟨-, reheld, reheldFound, -, reloaded, -⟩ := rejoined.newlyPlaced resound free placed
  change ws.loadAt _ held.location = .ok reheld at reloaded
  rw [ws.loadAt_identifier id, loaded] at reloaded
  cases reloaded
  obtain ⟨sameId, -, untargeted, -⟩ := loadAt_spec loaded
  rw [reheldFound]
  simp only [Document.renamed, sameId, untargeted]
  rfl

/-- Two workspaces with the same references joined are the same up to the order of the folder and
the names of the documents opened. -/
theorem renames_matching :
    Renames (matching first second) (first.reorder document folder order dirty) second := by
  have open_ {id : DocumentId}
      (isOpen : ((first.reorder document folder order dirty).document? id).isSome = true) :
      ∃ held, first.document? id = some held ∧ first.documentAt? held.location = some id ∧
        second.documentAt? held.location = some (matching first second id) := by
    rw [document?_reorder, Option.isSome_map] at isOpen
    obtain ⟨held, found⟩ := Option.isSome_iff_exists.mp isOpen
    have placed := (joined.sound.filed found).2
    refine ⟨held, found, placed, ?_⟩
    rw [documentAt?_matching sound resound joined rejoined same, placed, Option.map_some]
  refine ⟨rejoined.schema.trans joined.schema.symm,
    rejoined.repository.trans joined.repository.symm, ?apart, ?held, ?only,
    documentAt?_matching sound resound joined rejoined same⟩
  case apart =>
    -- Documents with one match are at one location, and a location holds one document.
    intro one other oneOpen otherOpen alike
    obtain ⟨oneHeld, oneFound, -, onePlaced⟩ := open_ oneOpen
    obtain ⟨otherHeld, otherFound, -, otherPlaced⟩ := open_ otherOpen
    obtain ⟨oneThere, oneThereFound, oneLocated⟩ := rejoined.sound.indexed onePlaced
    obtain ⟨otherThere, otherThereFound, otherLocated⟩ := rejoined.sound.indexed otherPlaced
    rw [alike, otherThereFound, Option.some.injEq] at oneThereFound
    refine joined.sound.eq_of_location oneFound otherFound ?_
    rw [← oneLocated, ← otherLocated, oneThereFound]
  case held =>
    intro id doc found
    cases before : ws.document? id with
    | none => exact document?_matching_of_opened sound resound joined rejoined same before found
    | some held =>
      rw [matching_of_issued sound resound joined rejoined (sound.issued before)]
      exact document?_matching_of_open sound resound joined rejoined same before found
  case only =>
    intro id isOpen
    obtain ⟨held, found⟩ := Option.isSome_iff_exists.mp isOpen
    have placed := (rejoined.sound.filed found).2
    rw [documentAt?_matching sound resound joined rejoined same] at placed
    obtain ⟨before, there, isMatch⟩ := Option.map_eq_some_iff.mp placed
    obtain ⟨heldBefore, foundBefore, -⟩ := joined.sound.indexed there
    refine ⟨before, ?_, isMatch⟩
    rw [document?_reorder, Option.isSome_map, foundBefore]
    rfl

end Matching

/-- A load sweep draws at most one identifier for each reference. -/
theorem issued_loadSweep (ws : Workspace) (game : NodeRef) :
    (ws.loadSweep game).after.supply.issued ≤
      ws.supply.issued + ((ws.cellsOf? game).getD []).length := by
  unfold loadSweep
  split
  · exact Nat.le_add_right _ _
  · next cells listed =>
    rw [listed, Option.getD_some]
    exact issued_resolveEach game.document cells ws

/-- A load sweep has the outcomes of another one, in any order and up to the names of documents. -/
structure SameOutcomes (rename : DocumentId → DocumentId) (report other : LoadReport) : Prop where
  /-- As many references were tried. -/
  attempted : other.attempted = report.attempted
  /-- The same references were resolved, to the same documents. -/
  resolved : other.resolved.Perm (report.resolved.map fun pair => (pair.1, rename pair.2))
  /-- The same references failed, with the same messages. -/
  failures : other.failures.Perm report.failures

variable {ws : Workspace} {game : NodeRef} {doc : Document} {folder : NodeId}

/-- A sweep reports of each reference what resolving it alone would come to. -/
theorem report_of_lone (sound : ws.Sound) (found : ws.document? game.document = some doc)
    (first : doc.folder? ws.schema game.node = some folder)
    (swept : (ws.loadSweep game).after.supply.Distinct)
    (lone : ∀ cell ∈ doc.folderCells ws.schema folder,
      (ws.resolve ⟨game.document, cell⟩).after.supply.Distinct) :
    (ws.loadSweep game).result.resolved.map (·.1) =
        ((doc.folderCells ws.schema folder).filter fun cell =>
          (ws.resolve ⟨game.document, cell⟩).error?.isNone) ∧
      (ws.loadSweep game).result.failures =
        (doc.folderCells ws.schema folder).filterMap fun cell =>
          (ws.resolve ⟨game.document, cell⟩).error?.map fun error =>
            ⟨cell, doc.attribute? cell Names.uriAttribute, error.message⟩ := by
  have joined := joined_loadSweep sound found first swept
  rw [report_loadSweep sound found first swept]
  constructor
  · rw [List.map_filterMap, ← List.filterMap_eq_filter]
    refine List.filterMap_congr fun cell listed => ?_
    have settled := joined.live_iff sound listed
    rw [← verdict_of_ok sound (lone cell listed)] at settled
    cases result : (ws.resolve ⟨game.document, cell⟩).result with
    | ok target =>
      obtain ⟨stands, live⟩ := settled.mpr ⟨target, result⟩
      simp only [live, Outcome.error?, result, Option.map_some, Option.isNone_none, Option.guard,
        if_true]
    | error error =>
      have idle : (ws.loadSweep game).after.liveTarget? ⟨game.document, cell⟩ = none := by
        refine Option.eq_none_iff_forall_ne_some.mpr fun target live => ?_
        obtain ⟨other, succeeded⟩ := settled.mp ⟨target, live⟩
        rw [result] at succeeded
        cases succeeded
      simp only [idle, Outcome.error?, result, Option.map_none, Option.isNone_some, Option.guard,
        Bool.false_eq_true, if_false]
  · refine List.filterMap_congr fun cell listed => ?_
    cases result : (ws.resolve ⟨game.document, cell⟩).result with
    | ok target =>
      have verdict := (verdict_of_ok sound (lone cell listed)).mp ⟨target, result⟩
      simp only [failure?, verdict, Outcome.error?, result, Option.map_none, Document.declaration]
    | error error =>
      have verdict := (verdict_of_error sound (lone cell listed)).mp result
      simp only [failure?, verdict, Outcome.error?, result, Option.map_some, Document.declaration]

/-- A sweep over a folder in another order has the same outcomes and comes to the same workspace, up
to that order and the names of the documents opened. -/
theorem sameOutcomes_of_perm (sound : ws.Sound) (found : ws.document? game.document = some doc)
    (first : doc.folder? ws.schema game.node = some folder) {order : List NodeId} {dirty : Bool}
    (perm : order.Perm (doc.children folder Names.cellChild))
    (resound : (ws.reorder game.document folder order dirty).Sound)
    (swept : (ws.loadSweep game).after.supply.Distinct)
    (reswept : ((ws.reorder game.document folder order dirty).loadSweep
      game).after.supply.Distinct) :
    ∃ rename : DocumentId → DocumentId, (∀ id, ws.supply.Issued id → rename id = id) ∧
      Renames rename ((ws.loadSweep game).after.reorder game.document folder order dirty)
        ((ws.reorder game.document folder order dirty).loadSweep game).after ∧
      SameOutcomes rename (ws.loadSweep game).result
        ((ws.reorder game.document folder order dirty).loadSweep game).result := by
  have refound := document?_reorder_self folder order dirty found
  have refirst : (doc.reorder folder order dirty).folder? ws.schema game.node = some folder :=
    (doc.folder?_reorder folder order dirty game.node).trans first
  have cellsPerm := Document.folderCells_reorder_perm dirty first perm
  have joined := joined_loadSweep sound found first swept
  have rejoined := joined_loadSweep resound refound refirst reswept
  have same (cell : NodeId) : cell ∈ (doc.reorder folder order dirty).folderCells ws.schema folder ↔
      cell ∈ doc.folderCells ws.schema folder := cellsPerm.mem_iff
  have report := report_loadSweep sound found first swept
  have rereport := report_loadSweep resound refound refirst reswept
  generalize ws.loadSweep game = outcome at joined report ⊢
  generalize (ws.reorder game.document folder order dirty).loadSweep game = other at rejoined rereport ⊢
  refine ⟨matching outcome.after other.after,
    fun id issued => matching_of_issued sound resound joined rejoined issued,
    renames_matching sound resound joined rejoined same, ?attempted, ?resolved, ?failures⟩
  case attempted =>
    rw [report, rereport]
    exact cellsPerm.length_eq
  case resolved =>
    rw [report, rereport, List.map_filterMap]
    refine (cellsPerm.filterMap _).trans (List.Perm.of_eq ?_)
    refine List.filterMap_congr fun cell listed => ?_
    rw [liveTarget?_matching sound resound joined rejoined same listed, Option.map_map,
      Option.map_map]
    rfl
  case failures =>
    rw [report, rereport]
    refine (cellsPerm.filterMap _).trans (List.Perm.of_eq ?_)
    refine List.filterMap_congr fun cell _ => ?_
    simp only [failure?, Document.declaration, verdict_reorder, Document.attribute?_reorder]

/-- After a sweep the game has the references that it had. -/
theorem cellsOf?_loadSweep (sound : ws.Sound) (swept : (ws.loadSweep game).after.supply.Distinct) :
    (ws.loadSweep game).after.cellsOf? game = ws.cellsOf? game := by
  cases listed : ws.cellsOf? game with
  | none => simp only [loadSweep, listed]
  | some cells =>
    obtain ⟨doc, found, -⟩ := Option.bind_eq_some_iff.mp ((ws.cellsOf?_eq game).symm.trans listed)
    simp only [loadSweep, listed] at swept ⊢
    have joined := joined_resolveEach sound found cells swept
    obtain ⟨targets, refound⟩ := joined.held found
    rw [← listed, cellsOf?_eq, cellsOf?_eq, found, refound, joined.schema, Option.bind_some,
      Option.bind_some, Document.gameCells?_eq_folder, Document.gameCells?_eq_folder]
    rfl

/-- A second sweep reports the same and changes nothing. -/
theorem loadSweep_twice (sound : ws.Sound)
    (distinct : ((ws.loadSweep game).after.loadSweep game).after.supply.Distinct) :
    ((ws.loadSweep game).after.loadSweep game).result = (ws.loadSweep game).result ∧
      ((ws.loadSweep game).after.loadSweep game).after =
        { (ws.loadSweep game).after with
          supply := ((ws.loadSweep game).after.loadSweep game).after.supply } := by
  have swept : (ws.loadSweep game).after.supply.Distinct :=
    distinct.earlier (Steps.keeps (loadSweep_steps _ game)).2
  by_cases present : ∃ doc folder, ws.document? game.document = some doc ∧
      doc.folder? ws.schema game.node = some folder
  · obtain ⟨doc, folder, found, first⟩ := present
    have joined := joined_loadSweep sound found first swept
    have report := report_loadSweep sound found first swept
    generalize ws.loadSweep game = outcome at *
    obtain ⟨targets, refound⟩ := joined.held found
    have refirst : ({ doc with targets := targets } : Document).folder? outcome.after.schema
        game.node = some folder := by
      rw [joined.schema]
      exact first
    have sameCells : ({ doc with targets := targets } : Document).folderCells outcome.after.schema
        folder = doc.folderCells ws.schema folder := by
      rw [joined.schema]
      rfl
    have rejoined := joined_loadSweep joined.sound refound refirst distinct
    have rereport := report_loadSweep joined.sound refound refirst distinct
    rw [sameCells] at rejoined rereport
    have settled := rejoined.eq_of_none joined.sound fun cell listed location joins =>
      ((joined.joins_iff sound).mp joins).2 listed
    refine ⟨?_, settled⟩
    rw [rereport, settled, report]
    have sameFailures : outcome.after.failure? game.document = ws.failure? game.document := by
      funext cell
      simp only [failure?, joined.verdict sound]
    rw [sameFailures]
    rfl
  · have missing : ws.loadSweep game = ⟨LoadReport.empty, ws, []⟩ :=
      loadSweep_of_missing fun doc found => by
        cases first : doc.folder? ws.schema game.node with
        | none => rfl
        | some folder => exact absurd ⟨doc, folder, found, first⟩ present
    rw [missing]
    dsimp only
    rw [missing]
    exact ⟨rfl, rfl⟩

/-- A load sweep comes to the same in any order and repeatedly. Each reference in the folder is
resolved exactly if resolving it alone would succeed, and reported with the error of that otherwise.
With the folder in any other order, whether its document counts as dirty for that or not, the sweep
has the same outcomes in the other order, and the workspaces afterwards differ in that order and in
the names of the documents opened. And a second sweep reports the same and leaves the workspace as it
is, but for the identifiers issued.

For all these resolves two fresh identifiers are needed for each reference. -/
theorem loadSweep_order_free (reachable : ws.Reachable) (game : NodeRef)
    (distinct : (ws.supply.ahead (2 * ((ws.cellsOf? game).getD []).length)).Distinct) :
    (∀ doc folder, ws.document? game.document = some doc →
      doc.folder? ws.schema game.node = some folder →
      ((ws.loadSweep game).result.resolved.map (·.1) =
          ((doc.folderCells ws.schema folder).filter fun cell =>
            (ws.resolve ⟨game.document, cell⟩).error?.isNone) ∧
        (ws.loadSweep game).result.failures =
          (doc.folderCells ws.schema folder).filterMap fun cell =>
            (ws.resolve ⟨game.document, cell⟩).error?.map fun error =>
              ⟨cell, doc.attribute? cell Names.uriAttribute, error.message⟩) ∧
      ∀ order dirty, order.Perm (doc.children folder Names.cellChild) →
        order ≠ doc.children folder Names.cellChild →
        ∃ rename : DocumentId → DocumentId, (∀ id, ws.supply.Issued id → rename id = id) ∧
          Renames rename ((ws.loadSweep game).after.reorder game.document folder order dirty)
            ((ws.reorder game.document folder order dirty).loadSweep game).after ∧
          SameOutcomes rename (ws.loadSweep game).result
            ((ws.reorder game.document folder order dirty).loadSweep game).result) ∧
    ((ws.loadSweep game).after.loadSweep game).result = (ws.loadSweep game).result ∧
    ((ws.loadSweep game).after.loadSweep game).after =
      { (ws.loadSweep game).after with
        supply := ((ws.loadSweep game).after.loadSweep game).after.supply } := by
  have sound := reachable.sound
  have swept : (ws.loadSweep game).after.supply.Distinct :=
    distinct.of_ahead (Steps.keeps (loadSweep_steps _ game)).2
      ((issued_loadSweep ws game).trans (by omega))
  have issuedOnce : ws.supply.Distinct :=
    distinct.of_ahead (.refl _) (Nat.le_add_right _ _)
  constructor
  · intro doc folder found first
    have count : ((ws.cellsOf? game).getD []).length =
        (doc.folderCells ws.schema folder).length := by
      rw [cellsOf?_of_folder found first, Option.getD_some, List.length_map]
    refine ⟨report_of_lone sound found first swept fun cell listed => ?_,
      fun order dirty perm other => ?_⟩
    · have some_ := List.length_pos_of_mem listed
      exact distinct.of_ahead (Steps.keeps (resolve_steps _ _)).2
        ((issued_resolve ws _).trans (by omega))
    · have refound := document?_reorder_self folder order dirty found
      have recount : (((ws.reorder game.document folder order dirty).cellsOf? game).getD []).length =
          (doc.folderCells ws.schema folder).length := by
        rw [cellsOf?_of_folder refound ((doc.folder?_reorder folder order dirty _).trans first),
          Option.getD_some, List.length_map]
        exact (Document.folderCells_reorder_perm dirty first perm).length_eq
      have precedes := (Steps.keeps
        (loadSweep_steps (ws.reorder game.document folder order dirty) game)).2
      have issued := issued_loadSweep (ws.reorder game.document folder order dirty) game
      change ws.supply.Precedes _ at precedes
      change _ ≤ ws.supply.issued + _ at issued
      rw [recount] at issued
      have reordered := reachable.reorder issuedOnce found perm other dirty
      exact sameOutcomes_of_perm sound found first perm reordered.sound swept
        (distinct.of_ahead precedes (issued.trans (by omega)))
  · have once := issued_loadSweep ws game
    have twice := issued_loadSweep (ws.loadSweep game).after game
    rw [cellsOf?_loadSweep sound swept] at twice
    have precedes := (Steps.keeps (loadSweep_steps ws game)).2.trans
      (Steps.keeps (loadSweep_steps (ws.loadSweep game).after game)).2
    exact loadSweep_twice sound (distinct.of_ahead precedes (by omega))

/-- The cells of the mixed folder after its first was moved down by two places. -/
def mixedOrder : List NodeId :=
  [Uuid.ofNat 12, Uuid.ofNat 13, Uuid.ofNat 11, Uuid.ofNat 14]

/-- The cell document gets another identifier in the other order, and enough of them are left for both
sweeps and a third one. -/
theorem run_mixed_reorder :
    ((mixed.document? mixedGame.document).map fun doc =>
      doc.children (Uuid.ofNat 10) Names.cellChild) =
        some [Uuid.ofNat 11, Uuid.ofNat 12, Uuid.ofNat 13, Uuid.ofNat 14] ∧
    (mixed.supply.ahead (2 * ((mixed.cellsOf? mixedGame).getD []).length)).Distinct ∧
    (mixed.loadSweep mixedGame).result.resolved =
      [(Uuid.ofNat 11, Uuid.ofNat 6), (Uuid.ofNat 13, Uuid.ofNat 6)] ∧
    ((mixed.reorder mixedGame.document (Uuid.ofNat 10) mixedOrder true).loadSweep
        mixedGame).result.resolved =
      [(Uuid.ofNat 13, Uuid.ofNat 7), (Uuid.ofNat 11, Uuid.ofNat 7)] := by
  decide +kernel

/-- In the new order the mismatch comes first and takes the identifier that the cell document got in
the old order. The outcomes are the same. -/
theorem loadSweep_order_free_mixed :
    (mixed.supply.ahead (2 * ((mixed.cellsOf? mixedGame).getD []).length)).Distinct ∧
    (mixed.loadSweep mixedGame).result.resolved =
      [(Uuid.ofNat 11, Uuid.ofNat 6), (Uuid.ofNat 13, Uuid.ofNat 6)] ∧
    ((mixed.reorder mixedGame.document (Uuid.ofNat 10) mixedOrder true).loadSweep
        mixedGame).result.resolved =
      [(Uuid.ofNat 13, Uuid.ofNat 7), (Uuid.ofNat 11, Uuid.ofNat 7)] ∧
    (∃ rename : DocumentId → DocumentId, (∀ id, mixed.supply.Issued id → rename id = id) ∧
      Renames rename
        ((mixed.loadSweep mixedGame).after.reorder mixedGame.document (Uuid.ofNat 10) mixedOrder true)
        ((mixed.reorder mixedGame.document (Uuid.ofNat 10) mixedOrder true).loadSweep
          mixedGame).after ∧
      SameOutcomes rename (mixed.loadSweep mixedGame).result
        ((mixed.reorder mixedGame.document (Uuid.ofNat 10) mixedOrder true).loadSweep
          mixedGame).result) ∧
    ((mixed.loadSweep mixedGame).after.loadSweep mixedGame).result =
      (mixed.loadSweep mixedGame).result := by
  obtain ⟨listed, distinct, before, after⟩ := run_mixed_reorder
  obtain ⟨doc, found, first⟩ := folder_mixed
  rw [found, Option.map_some, Option.some.injEq] at listed
  have perm : mixedOrder.Perm (doc.children (Uuid.ofNat 10) Names.cellChild) := by
    rw [listed]
    decide
  have other : mixedOrder ≠ doc.children (Uuid.ofNat 10) Names.cellChild := by
    rw [listed]
    decide
  obtain ⟨ordered, again, -⟩ := loadSweep_order_free reachable_mixed mixedGame distinct
  obtain ⟨-, permuted⟩ := ordered doc (Uuid.ofNat 10) found first
  exact ⟨distinct, before, after, permuted mixedOrder true perm other, again⟩

end Workspace

end LevelGraph
