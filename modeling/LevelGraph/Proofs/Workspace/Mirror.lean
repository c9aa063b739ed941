import LevelGraph.Proofs.Document.Cells
import LevelGraph.Proofs.Workspace.GameSave

/-!
# A session that mirrors another one

A session that loads what another one has stored draws other identifiers, and no document is
open in it but those that it opened itself. So the two sessions are compared by locations.
`Mirrors` says what the new one has in common with the old one while its load sweep goes on:
each document open in it has the record of the document that was open at the same location,
and a reference of the game stands for a document at the location that it declares. Opening,
linking and resolving keep that, and so does a whole sweep.
-/

namespace LevelGraph

namespace Workspace

/-- The cell references of a game come from its document. -/
theorem cellsOf?_eq (ws : Workspace) (game : NodeRef) :
    ws.cellsOf? game =
      (ws.document? game.document).bind fun doc => doc.gameCells? ws.schema game.node := by
  unfold cellsOf? Document.gameCells?
  cases ws.document? game.document with
  | none => rfl
  | some doc =>
    simp only [Option.bind_some]
    cases (doc.game? ws.schema game.node).bind (·.folder) <;> rfl

/-- The document that is open at a location. -/
def openDocument? (ws : Workspace) (location : String) : Option Document :=
  (ws.documentAt? location).bind ws.document?

/-- The store holds at a location what can be opened as the document open there. -/
structure Restorable (ws : Workspace) (repository : Repository) (location : String) : Prop where
  /-- The location is not blank. -/
  visible : Text.isBlankText location = false
  /-- A document is open there, its record is stored there and can be read again. -/
  stored : ∃ doc, ws.openDocument? location = some doc ∧ doc.Sound ∧ doc.Declared ws.schema ∧
    (doc.toRecord ws.schema).nesting ≤ Json.maxDepth ∧
    repository.database.readBody location = .ok (some (doc.toRecord ws.schema).stored)

/-- A session that loads again what was stored in an earlier one. -/
structure Mirrors (ws : Workspace) (repository : Repository)
    (cells : List (NodeId × Option String)) (gameDoc : Document) (game : DocumentId)
    (now : Workspace) : Prop where
  /-- The schemas agree. -/
  schema : now.schema = ws.schema
  /-- It has the store that was left behind. -/
  repository : now.repository = repository
  /-- It is sound. -/
  sound : now.Sound
  /-- A document open in it has the record of the document that was open at its location. -/
  faithful : ∀ {id doc}, now.document? id = some doc → doc.Declared ws.schema ∧
    ∃ old, ws.openDocument? doc.location = some old ∧
      doc.toRecord ws.schema = old.toRecord ws.schema
  /-- The game is open in it and looks like the old one. -/
  opened : ∃ doc, now.document? game = some doc ∧ gameDoc.Alike doc
  /-- The game's references stand for documents at the locations that they declare. -/
  targets : ∀ {doc cell location target}, now.document? game = some doc →
    (cell, some location) ∈ cells → doc.target? cell = some target →
    now.documentAt? location = some target

variable {ws now : Workspace} {repository : Repository} {cells : List (NodeId × Option String)}
  {gameDoc : Document} {game : DocumentId}

/-- A document opened for the game is a cell document if the old one at its location was. -/
theorem Mirrors.isCellDocument (mirrors : Mirrors ws repository cells gameDoc game now)
    (wasSound : ws.Sound) {location : String} {target : DocumentId} {old : Document}
    (placed : now.documentAt? location = some target)
    (was : ws.openDocument? location = some old) (declared : old.Declared ws.schema)
    (cell : old.IsCell ws.schema) : now.isCellDocument target = true := by
  obtain ⟨doc, found, located⟩ := mirrors.sound.indexed placed
  obtain ⟨docDeclared, same, sameWas, sameRecord⟩ := mirrors.faithful found
  rw [located, was, Option.some.injEq] at sameWas
  subst sameWas
  obtain ⟨oldId, -, oldFound⟩ := Option.bind_eq_some_iff.mp was
  have alike := Document.alike_of_toRecord_eq (wasSound.arises oldFound).sound
    (mirrors.sound.arises found).sound wasSound.named declared docDeclared sameRecord
  obtain ⟨type, rooted, derived⟩ := cell
  refine isCellDocument_iff.mpr ⟨doc, found, type, alike.rootType?.trans rooted, ?_⟩
  rw [mirrors.schema]
  exact derived

/-- Opening a location that can be restored succeeds and keeps what the sessions have in
common. What was open at a location stays open there.

Proof: either the document is open already, or the store is read. In the second case the
new document has a new identifier, so no open document is replaced by it. -/
theorem Mirrors.openAt (mirrors : Mirrors ws repository cells gameDoc game now)
    {location : String} (restorable : Restorable ws repository location)
    (distinct : (now.openAt location).after.supply.Distinct) :
    ∃ target, (now.openAt location).result = .ok target ∧
      (now.openAt location).after.documentAt? location = some target ∧
      Mirrors ws repository cells gameDoc game (now.openAt location).after ∧
      ∀ other id, now.documentAt? other = some id →
        (now.openAt location).after.documentAt? other = some id := by
  cases placed : now.documentAt? location with
  | some id =>
    have open_ : now.openAt location = ⟨.ok id, now, []⟩ := by
      simp only [Workspace.openAt, placed]
    rw [open_]
    exact ⟨id, rfl, placed, mirrors, fun _ _ held => held⟩
  | none =>
    obtain ⟨old, was, oldSound, oldDeclared, fits, body⟩ := restorable.stored
    have schema := mirrors.schema
    rw [← mirrors.repository] at body
    rw [← schema] at body oldDeclared fits
    obtain ⟨opened, opening, identified, located, untargeted, openedSound, openedDeclared,
      sameRecord⟩ := (openAt_stored oldSound mirrors.sound.named oldDeclared placed
        restorable.visible body).1 fits
    have sound := mirrors.sound.steps (now.openAt_steps location) distinct
    rw [opening] at distinct sound ⊢
    have absent := mirrors.sound.document?_next distinct
    rw [← identified] at absent
    have free : now.documentAt? opened.location = none := by rw [located, placed]
    refine ⟨opened.id, rfl, ?_, ⟨schema, mirrors.repository, sound, ?_, ?_, ?_⟩,
      fun _ _ held => documentAt?_register_of_placed free held⟩
    · rw [documentAt?_register, located, if_pos rfl]
    · intro id doc found
      rw [document?_register] at found
      split at found
      · cases found
        rw [schema] at openedDeclared sameRecord
        exact ⟨openedDeclared, old, located ▸ was, sameRecord⟩
      · exact mirrors.faithful found
    · obtain ⟨doc, found, alike⟩ := mirrors.opened
      exact ⟨doc, document?_register_of_found absent found, alike⟩
    · intro doc cell other target found listed targeted
      obtain ⟨before, beforeFound, -⟩ := mirrors.opened
      have same := (document?_register_of_found absent beforeFound).symm.trans found
      rw [Option.some.injEq] at same
      subst same
      exact documentAt?_register_of_placed free (mirrors.targets beforeFound listed targeted)

/-- Every listed cell is a cell reference of the game and declares the location listed. -/
def Describes (schema : Schema) (gameDoc : Document) (cells : List (NodeId × Option String)) :
    Prop :=
  ∀ cell ∈ cells, gameDoc.adaptsTo schema cell.1 schema.tags.placementsCellReference = true ∧
    gameDoc.attribute? cell.1 Names.uriAttribute = cell.2

/-- Linking a listed cell to the document at its location keeps what the sessions have in
common. -/
theorem Mirrors.link (mirrors : Mirrors ws repository cells gameDoc game now)
    (described : Describes ws.schema gameDoc cells) (distinct : now.supply.Distinct)
    {cell : NodeId} {location : String} {target : DocumentId}
    (listed : (cell, some location) ∈ cells) (placed : now.documentAt? location = some target)
    (isCell : now.isCellDocument target = true) :
    ∃ linked, now.link ⟨game, cell⟩ target = .ok linked ∧
      (∀ other, linked.documentAt? other = now.documentAt? other) ∧
      Mirrors ws repository cells gameDoc game linked := by
  obtain ⟨doc, found, alike⟩ := mirrors.opened
  have held : doc.contains cell = true :=
    Document.contains_of_adaptsTo ((alike.adaptsTo cell _).trans (described _ listed).1)
  have linked : now.link ⟨game, cell⟩ target =
      .ok (now.replace game { doc with targets := doc.targets.insert cell target }) := by
    simp only [Workspace.link, found, Document.setTarget, held, if_true]
  have sound := mirrors.sound.steps (link_steps isCell linked) distinct
  refine ⟨_, linked, fun _ => rfl, ⟨mirrors.schema, mirrors.repository, sound, ?_, ?_, ?_⟩⟩
  · intro id other otherFound
    rcases of_document?_replace otherFound with ⟨-, isLinked⟩ | ⟨-, before⟩
    · obtain ⟨declared, old, was, same⟩ := mirrors.faithful found
      rw [isLinked]
      exact ⟨declared, old, was, same⟩
    · exact mirrors.faithful before
  · exact ⟨_, document?_replace_self found _, alike.root, alike.node, alike.absent⟩
  · intro other entry place stands otherFound entryListed targeted
    rw [document?_replace_self found, Option.some.injEq] at otherFound
    subst otherFound
    rw [Document.target?, Table.find?_insert] at targeted
    split at targeted
    · next same =>
      cases targeted
      subst same
      have agree := (described _ entryListed).2.symm.trans (described _ listed).2
      rw [Option.some.injEq] at agree
      rw [agree]
      exact placed
    · exact mirrors.targets found entryListed targeted

/-- Resolving a listed cell gives the document at its location and keeps what the sessions
have in common. -/
theorem Mirrors.resolve (mirrors : Mirrors ws repository cells gameDoc game now)
    (wasSound : ws.Sound) (described : Describes ws.schema gameDoc cells) {cell : NodeId}
    {location : String} (listed : (cell, some location) ∈ cells)
    (restorable : Restorable ws repository location)
    (isCell : ∀ old, ws.openDocument? location = some old → old.IsCell ws.schema)
    (distinct : (now.resolve ⟨game, cell⟩).after.supply.Distinct) :
    ∃ target, (now.resolve ⟨game, cell⟩).result = .ok target ∧
      (now.resolve ⟨game, cell⟩).after.documentAt? location = some target ∧
      Mirrors ws repository cells gameDoc game (now.resolve ⟨game, cell⟩).after ∧
      ∀ other id, now.documentAt? other = some id →
        (now.resolve ⟨game, cell⟩).after.documentAt? other = some id := by
  obtain ⟨doc, found, alike⟩ := mirrors.opened
  cases live : now.liveTarget? ⟨game, cell⟩ with
  | some target =>
    have resolved : now.resolve ⟨game, cell⟩ = ⟨.ok target, now, []⟩ := by
      simp only [Workspace.resolve, live]
    rw [resolved]
    have targeted : doc.target? cell = some target := by
      have held := (Option.filter_eq_some_iff.mp live).1
      rw [found] at held
      exact held
    exact ⟨target, rfl, mirrors.targets found listed targeted, mirrors, fun _ _ held => held⟩
  | none =>
    have declared : now.declaredLocation ⟨game, cell⟩ = .ok location := by
      have adapts := (alike.adaptsTo cell _).trans (described _ listed).1
      have declares := (alike.attribute? cell _).trans (described _ listed).2
      simp only [declaredLocation, found, Document.cellReference?, mirrors.schema, adapts, if_true,
        declares, restorable.visible, Bool.false_eq_true, if_false]
    have resolving : now.resolve ⟨game, cell⟩ = now.resolveAt ⟨game, cell⟩ location := by
      simp only [Workspace.resolve, live, declared]
    rw [resolving] at distinct ⊢
    have opening := now.resolveAt_steps_of_openAt ⟨game, cell⟩ location
    have openedDistinct := distinct.earlier (Steps.keeps opening).2
    obtain ⟨target, opened, placed, still, stays⟩ := mirrors.openAt restorable openedDistinct
    obtain ⟨old, was, -, oldDeclared, -⟩ := restorable.stored
    have cellOpened := still.isCellDocument wasSound placed was oldDeclared (isCell old was)
    obtain ⟨linked, linking, samePlaces, linkedMirrors⟩ :=
      still.link described openedDistinct listed placed cellOpened
    have resolved : now.resolveAt ⟨game, cell⟩ location =
        ⟨.ok target, linked, (now.openAt location).events ++ [.cellResolved location]⟩ := by
      simp only [resolveAt, opened, cellOpened, if_true, linking]
    rw [resolved]
    refine ⟨target, rfl, (samePlaces location).trans placed, linkedMirrors, ?_⟩
    exact fun other id held => (samePlaces other).trans (stays other id held)

/-- A load sweep over listed cells resolves all of them in order, each to the document at its
location.

Proof: induction on the cells. What is open at a location stays open there, so what was said
of an earlier cell still holds at the end. -/
theorem Mirrors.resolveEach (mirrors : Mirrors ws repository cells gameDoc game now)
    (wasSound : ws.Sound) (described : Describes ws.schema gameDoc cells)
    (restorable : ∀ cell ∈ cells, ∃ location, cell.2 = some location ∧
      Restorable ws repository location ∧
      ∀ old, ws.openDocument? location = some old → old.IsCell ws.schema)
    {rest : List (NodeId × Option String)} (listed : ∀ cell ∈ rest, cell ∈ cells)
    (distinct : (resolveEach game rest now).after.supply.Distinct) :
    (resolveEach game rest now).result.failures = [] ∧
      (resolveEach game rest now).result.resolved.map (·.1) = rest.map (·.1) ∧
      Mirrors ws repository cells gameDoc game (resolveEach game rest now).after ∧
      (∀ other id, now.documentAt? other = some id →
        (resolveEach game rest now).after.documentAt? other = some id) ∧
      ∀ pair ∈ (resolveEach game rest now).result.resolved, ∃ location,
        (pair.1, some location) ∈ cells ∧
        (resolveEach game rest now).after.documentAt? location = some pair.2 := by
  induction rest generalizing now with
  | nil => exact ⟨rfl, rfl, mirrors, fun _ _ held => held, fun _ none => nomatch none⟩
  | cons cell rest inductionHypothesis =>
    obtain ⟨cell, declared⟩ := cell
    have inCells := listed _ List.mem_cons_self
    obtain ⟨location, isDeclared, stored, isCell⟩ := restorable _ inCells
    change declared = some location at isDeclared
    subst isDeclared
    have laterSteps := resolveEach_steps (now.resolve ⟨game, cell⟩).after game rest
    rw [after_resolveEach_cons] at distinct
    obtain ⟨target, resolved, placed, here, stays⟩ := mirrors.resolve wasSound described inCells
      stored isCell (distinct.earlier (Steps.keeps laterSteps).2)
    obtain ⟨clean, names, final, remains, pairs⟩ := inductionHypothesis here
      (fun later member => listed later (List.mem_cons_of_mem _ member)) distinct
    rw [Workspace.resolveEach]
    simp only [resolved, LoadReport.withResolved]
    refine ⟨clean, ?_, final, fun other id held => remains other id (stays other id held), ?_⟩
    · rw [List.map_cons, List.map_cons, names]
    · exact List.forall_mem_cons.mpr
        ⟨⟨location, inCells, remains location target placed⟩, pairs⟩

/-- Opening a location draws at most one identifier. -/
theorem issued_openAt (ws : Workspace) (location : String) :
    (ws.openAt location).after.supply.issued ≤ ws.supply.issued + 1 := by
  unfold Workspace.openAt
  split
  · exact Nat.le_succ _
  · split
    · exact Nat.le_succ _
    · exact Nat.le_succ _
    · split
      · exact Nat.le_succ _
      · exact Nat.le_refl _

/-- Linking draws no identifier. -/
theorem supply_of_link {linked : Workspace} {reference : NodeRef} {target : DocumentId}
    (done : ws.link reference target = .ok linked) : linked.supply = ws.supply := by
  obtain ⟨doc, found, rfl⟩ := exists_document_of_link done
  rfl

/-- Resolving draws identifiers only to open a document. -/
theorem supply_resolveAt (ws : Workspace) (reference : NodeRef) (location : String) :
    (ws.resolveAt reference location).after.supply = (ws.openAt location).after.supply := by
  unfold resolveAt
  dsimp only
  split
  · rfl
  · split
    · split
      · rfl
      · next linked linking => exact supply_of_link linking
    · split
      · rfl
      · exact (close_after _ _).2.2

/-- Resolving a reference draws at most one identifier. -/
theorem issued_resolve (ws : Workspace) (reference : NodeRef) :
    (ws.resolve reference).after.supply.issued ≤ ws.supply.issued + 1 := by
  unfold Workspace.resolve
  split
  · exact Nat.le_succ _
  · split
    · exact Nat.le_succ _
    · rw [supply_resolveAt]
      exact ws.issued_openAt _

/-- Resolving several references draws at most one identifier for each. -/
theorem issued_resolveEach (document : DocumentId) (cells : List (NodeId × Option String))
    (ws : Workspace) :
    (Workspace.resolveEach document cells ws).after.supply.issued ≤
      ws.supply.issued + cells.length := by
  induction cells generalizing ws with
  | nil => exact Nat.le_refl _
  | cons cell rest inductionHypothesis =>
    have here := ws.issued_resolve ⟨document, cell.1⟩
    have later := inductionHypothesis (ws.resolve ⟨document, cell.1⟩).after
    rw [after_resolveEach_cons, List.length_cons]
    omega

end Workspace

end LevelGraph
