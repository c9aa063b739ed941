import LevelGraph.Proofs.Workspace.Mirror

/-!
# A level in the next session

A game save that reports no failure leaves a store from which the next session can load the
whole level again. The reason is that every location written holds what the document open
there amounts to: if each reference stands for the document at the location that it declares,
then all writes to a location are by one document. So the next session opens the game,
mirrors this one from then on, and its load sweep finds a cell document for every reference.
-/

namespace LevelGraph

namespace Workspace

variable {ws now : Workspace} {repository : Repository} {cells : List (NodeId × Option String)}
  {gameDoc : Document} {game : DocumentId}

/-- A save sweep without failure found a usable location for every resolved reference, and
documents can be saved there.

Proof: induction on the references. The saves of earlier ones change neither what later ones
stand for nor where documents can be saved. -/
theorem writable_of_clean (document : DocumentId) (cells : List (NodeId × Option String))
    (ws : Workspace) (clean : (saveEach document cells ws).result.failures = []) :
    ∀ cell ∈ cells, ∀ target, ws.liveTarget? ⟨document, cell.1⟩ = some target →
      ∃ location, usableLocation? cell.2 = some location ∧ ws.repository.Writable location := by
  induction cells generalizing ws with
  | nil => exact fun _ none => nomatch none
  | cons cell rest inductionHypothesis =>
    obtain ⟨cell, declared⟩ := cell
    rw [saveEach] at clean
    cases live : ws.liveTarget? ⟨document, cell⟩ with
    | none =>
      simp only [live, SaveReport.withSkipped] at clean
      refine List.forall_mem_cons.mpr ⟨fun target stands => ?_, inductionHypothesis ws clean⟩
      rw [live] at stands
      cases stands
    | some target =>
      cases usable : usableLocation? declared with
      | none =>
        simp only [live, usable, SaveReport.withFailure] at clean
        cases clean
      | some location =>
        obtain ⟨doc, found⟩ : ∃ doc, ws.document? target = some doc :=
          (Table.contains_iff _ _).mp (Option.filter_eq_some_iff.mp live).2
        cases done : (ws.saveTo target location).result with
        | error error =>
          simp only [live, usable, done, SaveReport.withFailure] at clean
          cases clean
        | ok _ =>
          simp only [live, usable, done, SaveReport.withSaved] at clean
          obtain ⟨-, -, writable⟩ := saveTo_ok done
          have here := swept_of_saveTo found done
          refine List.forall_mem_cons.mpr ⟨fun _ _ => ⟨location, usable, writable⟩, ?_⟩
          intro later listed other stands
          rw [← here.same.liveTarget?] at stands
          obtain ⟨place, isUsable, isWritable⟩ := inductionHypothesis _ clean later listed other stands
          exact ⟨place, isUsable, (here.writable place).mp isWritable⟩

/-- Where all writes are by the document that is open at the location, what they leave behind
can be opened as that document. -/
theorem restorable_of_swept {after : Workspace} {writes : List (String × DocumentId)}
    {saved : List String} (sound : ws.Sound) (swept : Swept ws after writes saved)
    (atHome : ∀ write ∈ writes, ws.documentAt? write.1 = some write.2)
    (fits : ∀ write ∈ writes, ∀ doc, ws.document? write.2 = some doc →
      doc.Declared ws.schema ∧ (doc.toRecord ws.schema).nesting ≤ Json.maxDepth)
    {write : String × DocumentId} (member : write ∈ writes)
    (writable : ws.repository.Writable write.1) :
    Restorable ws after.repository write.1 := by
  obtain ⟨writer, last⟩ := Option.isSome_iff_exists.mp
    (lastWriter?_isSome.mpr (List.mem_map_of_mem member))
  obtain ⟨doc, found, body⟩ := swept.body writable last
  have listed := mem_of_lastWriter? last
  obtain ⟨declared, small⟩ := fits _ listed doc found
  refine ⟨writable.visible, doc, ?_, (sound.arises found).sound, declared, small, body⟩
  rw [openDocument?, atHome _ listed, Option.bind_some, found]

/-- Every cell reference of a game stands for the document that is open at the location it
declares. -/
def AtHome (ws : Workspace) (game : DocumentId) : Prop :=
  ∀ cell ∈ ws.gameCells game, ∃ location ∈ cell.2, ∃ target ∈ ws.liveTarget? ⟨game, cell.1⟩,
    ws.documentAt? location = some target

instance (ws : Workspace) (game : DocumentId) : Decidable (ws.AtHome game) :=
  inferInstanceAs (Decidable (∀ cell ∈ ws.gameCells game, ∃ location ∈ cell.2,
    ∃ target ∈ ws.liveTarget? ⟨game, cell.1⟩, ws.documentAt? location = some target))

/-- What a game save writes has declared types and can be read again. -/
def Readable (ws : Workspace) (game : DocumentId) : Prop :=
  ∀ write ∈ ws.gameWrites game, ∀ doc ∈ ws.document? write.2,
    doc.Declared ws.schema ∧ (doc.toRecord ws.schema).nesting ≤ Json.maxDepth

instance (ws : Workspace) (game : DocumentId) : Decidable (ws.Readable game) :=
  inferInstanceAs (Decidable (∀ write ∈ ws.gameWrites game, ∀ doc ∈ ws.document? write.2,
    doc.Declared ws.schema ∧ (doc.toRecord ws.schema).nesting ≤ Json.maxDepth))

/-- Then a game save writes every document to where it is open. -/
theorem AtHome.documentAt? (atHome : ws.AtHome game) (sound : ws.Sound)
    (found : ws.document? game = some gameDoc) :
    ∀ write ∈ ws.gameWrites game, ws.documentAt? write.1 = some write.2 := by
  intro write member
  rcases List.mem_append.mp member with isOwn | isCell
  · rw [found, Option.map_some, Option.toList_some, List.mem_singleton] at isOwn
    rw [isOwn]
    exact (sound.filed found).2
  · obtain ⟨cell, listed, made⟩ := List.mem_filterMap.mp isCell
    obtain ⟨location, declares, target, live, placed⟩ := atHome cell listed
    rw [Option.mem_def] at declares live
    unfold cellWrite? at made
    rw [live] at made
    split at made
    · next same usable =>
      have isDeclared := (Option.filter_eq_some_iff.mp usable).1
      rw [declares, Option.some.injEq] at isDeclared
      rw [Option.some.injEq] at same made
      rw [← made, ← isDeclared, ← same]
      exact placed
    · cases made

/-- After a game save without failure, each reference's location has a cell document that can be
opened.

Proof: without failure each reference had a usable location, so its write is one of the save's
and succeeded. What a reference stands for is a cell document in a sound workspace. -/
theorem AtHome.restorable (atHome : ws.AtHome game) (sound : ws.Sound)
    (found : ws.document? game = some gameDoc) (readable : ws.Readable game) {report : SaveReport}
    (done : (ws.saveGame game).result = .ok report) (clean : report.isClean = true) :
    ∀ cell ∈ ws.gameCells game, ∃ location, cell.2 = some location ∧
      Restorable ws (ws.saveGame game).after.repository location ∧
      ∀ old, ws.openDocument? location = some old → old.IsCell ws.schema := by
  obtain ⟨saved, reported, -⟩ := saveGame_ok found done
  have own := swept_of_saveTo found saved
  intro cell listed
  obtain ⟨location, declares, target, live, placed⟩ := atHome cell listed
  rw [Option.mem_def] at declares live
  obtain ⟨place, usable, writable⟩ := writable_of_clean game (ws.gameCells game) _
    (List.isEmpty_iff.mp (reported ▸ clean)) cell listed target ((own.same.liveTarget? _).trans live)
  have isDeclared := (Option.filter_eq_some_iff.mp usable).1
  rw [declares, Option.some.injEq] at isDeclared
  subst isDeclared
  have made : ws.cellWrite? game cell = some (location, target) := by
    simp only [cellWrite?, live, usable]
  have written : (location, target) ∈ ws.gameWrites game :=
    List.mem_append_right _ (List.mem_filterMap.mpr ⟨cell, listed, made⟩)
  refine ⟨location, declares, restorable_of_swept sound (swept_saveGame found done)
    (atHome.documentAt? sound found) readable written ((own.writable location).mp writable), ?_⟩
  intro old was
  rw [openDocument?, placed, Option.bind_some] at was
  have targeted := (Option.filter_eq_some_iff.mp live).1
  rw [found] at targeted
  exact sound.targetCell found targeted was

/-- A session in which nothing is open yet, over the store that a game save left behind. -/
def nextSession (ws : Workspace) (game : DocumentId) (issue : Nat → Uuid) : Workspace :=
  start ws.schema (ws.saveGame game).after.repository ⟨issue, 0⟩

/-- The next session mirrors this one once it has opened the game. -/
theorem mirrors_nextSession (sound : ws.Sound) (found : ws.document? game = some gameDoc)
    (cells : List (NodeId × Option String)) {issue : Nat → Uuid}
    (restorable : Restorable ws (ws.saveGame game).after.repository gameDoc.location)
    (distinct : ((ws.nextSession game issue).openAt gameDoc.location).after.supply.Distinct) :
    ∃ opened,
      ((ws.nextSession game issue).openAt gameDoc.location).result = .ok opened.id ∧
      ((ws.nextSession game issue).openAt gameDoc.location).after.document? opened.id =
        some opened ∧
      gameDoc.Alike opened ∧
      opened.toRecord ws.schema = gameDoc.toRecord ws.schema ∧
      Mirrors ws (ws.saveGame game).after.repository cells gameDoc opened.id
        ((ws.nextSession game issue).openAt gameDoc.location).after := by
  have placed := (sound.filed found).2
  have was : ws.openDocument? gameDoc.location = some gameDoc := by
    rw [openDocument?, placed, Option.bind_some, found]
  obtain ⟨old, oldWas, oldSound, declared, fits, body⟩ := restorable.stored
  rw [was, Option.some.injEq] at oldWas
  subst oldWas
  have begun : (ws.nextSession game issue).Sound := sound_start sound.named _ _
  obtain ⟨opened, opening, -, located, untargeted, openedSound, openedDeclared,
    sameRecord⟩ := (@openAt_stored (ws.nextSession game issue) _ oldSound sound.named declared _ rfl
      restorable.visible body).1 fits
  have still := begun.steps (openAt_steps _ gameDoc.location) distinct
  rw [opening] at still ⊢
  have alike := Document.alike_of_toRecord_eq oldSound openedSound sound.named declared
    openedDeclared sameRecord
  have itself : ({ ws.nextSession game issue with
      supply := (ws.nextSession game issue).supply.advance }.register opened).document?
        opened.id = some opened := by
    rw [document?_register, if_pos rfl]
  refine ⟨opened, rfl, itself, alike, sameRecord,
    ⟨rfl, rfl, still, ?_, ⟨opened, itself, alike⟩, ?_⟩⟩
  · intro id doc docFound
    rw [document?_register] at docFound
    split at docFound
    · cases docFound
      exact ⟨openedDeclared, gameDoc, located ▸ was, sameRecord⟩
    · cases docFound
  · intro doc cell location target docFound _ targeted
    rw [itself, Option.some.injEq] at docFound
    rw [← docFound, Document.target?, untargeted, Table.find?_empty] at targeted
    cases targeted

/-- The game has the same cell references in a mirroring session. -/
theorem Mirrors.cellsOf? {opened : DocumentId}
    (mirrors : Mirrors ws repository cells gameDoc opened now) :
    now.cellsOf? ⟨opened, gameDoc.root⟩ = gameDoc.gameCells? ws.schema gameDoc.root := by
  obtain ⟨doc, docFound, alike⟩ := mirrors.opened
  rw [cellsOf?_eq, docFound, Option.bind_some, mirrors.schema, alike.gameCells?]

/-- The cell references of an open game are those of its document. -/
theorem gameCells_eq (found : ws.document? game = some gameDoc) :
    ws.gameCells game = (gameDoc.gameCells? ws.schema gameDoc.root).getD [] := by
  rw [gameCells, found, Option.bind_some, cellsOf?_eq, found, Option.bind_some]

/-- A load sweep over the game in a mirroring session resolves the game's cells without failure,
and each cell then stands for a document with the location and the record of its old target. -/
theorem Mirrors.loadSweep {opened : DocumentId}
    (mirrors : Mirrors ws repository (ws.gameCells game) gameDoc opened now) (sound : ws.Sound)
    (found : ws.document? game = some gameDoc) (atHome : ws.AtHome game)
    (restorable : ∀ cell ∈ ws.gameCells game, ∃ location, cell.2 = some location ∧
      Restorable ws repository location ∧
      ∀ old, ws.openDocument? location = some old → old.IsCell ws.schema)
    (distinct : (now.loadSweep ⟨opened, gameDoc.root⟩).after.supply.Distinct) :
    (now.loadSweep ⟨opened, gameDoc.root⟩).result.isClean = true ∧
      (now.loadSweep ⟨opened, gameDoc.root⟩).result.resolved.map (·.1) =
        (ws.gameCells game).map (·.1) ∧
      ∀ pair ∈ (now.loadSweep ⟨opened, gameDoc.root⟩).result.resolved, ∃ target old new,
        ws.liveTarget? ⟨game, pair.1⟩ = some target ∧ ws.document? target = some old ∧
        (now.loadSweep ⟨opened, gameDoc.root⟩).after.document? pair.2 = some new ∧
        new.location = old.location ∧ new.toRecord ws.schema = old.toRecord ws.schema := by
  have cells := gameCells_eq found
  unfold Workspace.loadSweep at distinct ⊢
  rw [mirrors.cellsOf?] at distinct ⊢
  unfold AtHome at atHome
  cases listed : gameDoc.gameCells? ws.schema gameDoc.root with
  | none =>
    rw [cells, listed]
    exact ⟨rfl, rfl, fun _ none => nomatch none⟩
  | some list =>
    rw [listed, Option.getD_some] at cells
    rw [cells] at mirrors restorable atHome
    rw [listed] at distinct
    have described : Describes ws.schema gameDoc list :=
      fun cell member => Document.declared_of_mem_gameCells listed member
    obtain ⟨noFailure, names, final, -, pairs⟩ := mirrors.resolveEach sound described restorable
      (fun _ member => member) distinct
    rw [cells]
    refine ⟨List.isEmpty_iff.mpr noFailure, names, fun pair member => ?_⟩
    obtain ⟨location, inCells, placed⟩ := pairs pair member
    obtain ⟨place, declares, target, live, was⟩ := atHome _ inCells
    rw [Option.mem_def, Option.some.injEq] at declares
    subst declares
    obtain ⟨new, newFound, newLocated⟩ := final.sound.indexed placed
    obtain ⟨-, old, oldWas, same⟩ := final.faithful newFound
    rw [newLocated, openDocument?, was, Option.bind_some] at oldWas
    obtain ⟨held, heldFound, oldLocated⟩ := sound.indexed was
    rw [oldWas, Option.some.injEq] at heldFound
    exact ⟨target, old, new, live, oldWas, newFound, by rw [newLocated, heldFound, oldLocated], same⟩

/-- The next session draws one identifier for the game and at most one for each of its cells. -/
theorem Mirrors.precedes {opened : DocumentId} {issue : Nat → Uuid} {location : String}
    (mirrors : Mirrors ws repository (ws.gameCells game) gameDoc opened
      ((ws.nextSession game issue).openAt location).after)
    (found : ws.document? game = some gameDoc) :
    (((ws.nextSession game issue).openAt location).after.loadSweep
      ⟨opened, gameDoc.root⟩).after.supply.Precedes ⟨issue, (ws.gameCells game).length + 1⟩ := by
  have steps := (openAt_steps (ws.nextSession game issue) location).trans
    (loadSweep_steps _ ⟨opened, gameDoc.root⟩)
  refine ⟨(Steps.keeps steps).2.same.symm, ?_⟩
  have opening := issued_openAt (ws.nextSession game issue) location
  change _ ≤ 0 + 1 at opening
  have cells := gameCells_eq found
  unfold Workspace.loadSweep
  rw [mirrors.cellsOf?]
  cases listed : gameDoc.gameCells? ws.schema gameDoc.root with
  | none =>
    dsimp only
    omega
  | some list =>
    rw [listed, Option.getD_some] at cells
    have sweep := issued_resolveEach opened list ((ws.nextSession game issue).openAt location).after
    rw [cells]
    dsimp only
    omega

/-- A level that a game save stored without failure comes back whole in the next session.
The game is opened with the same record, the load sweep resolves the same references in the
same order, and each stands for a document with the location and the record of its old target.

This takes that each reference stood for the document open at the location it declares, and that
the reader can manage what was written. -/
theorem reload_of_saveGame (reachable : ws.Reachable) (found : ws.document? game = some gameDoc)
    (atHome : ws.AtHome game) (readable : ws.Readable game) {report : SaveReport}
    (done : (ws.saveGame game).result = .ok report) (clean : report.isClean = true)
    {issue : Nat → Uuid}
    (distinct : (⟨issue, (ws.gameCells game).length + 1⟩ : IdSupply).Distinct) :
    ∃ opened sweep,
      ((ws.nextSession game issue).openAt gameDoc.location).result = .ok opened.id ∧
      ((ws.nextSession game issue).openAt gameDoc.location).after.document? opened.id =
        some opened ∧
      opened.toRecord ws.schema = gameDoc.toRecord ws.schema ∧
      ((ws.nextSession game issue).openAt gameDoc.location).after.loadSweep
        ⟨opened.id, opened.root⟩ = sweep ∧
      sweep.result.isClean = true ∧
      sweep.result.resolved.map (·.1) = (ws.gameCells game).map (·.1) ∧
      ∀ pair ∈ sweep.result.resolved, ∃ target old new,
        ws.liveTarget? ⟨game, pair.1⟩ = some target ∧ ws.document? target = some old ∧
        sweep.after.document? pair.2 = some new ∧ new.location = old.location ∧
        new.toRecord ws.schema = old.toRecord ws.schema := by
  have sound := reachable.sound
  have ownWrite : (gameDoc.location, game) ∈ ws.gameWrites game := by
    simp [gameWrites, found]
  obtain ⟨-, -, ownWritable⟩ := saveTo_ok (saveGame_ok found done).1
  have opens : ((ws.nextSession game issue).openAt gameDoc.location).after.supply.Precedes
      ⟨issue, (ws.gameCells game).length + 1⟩ := by
    have steps := openAt_steps (ws.nextSession game issue) gameDoc.location
    refine ⟨(Steps.keeps steps).2.same.symm, ?_⟩
    have opening := issued_openAt (ws.nextSession game issue) gameDoc.location
    change _ ≤ 0 + 1 at opening
    dsimp only
    omega
  obtain ⟨opened, opening, openedFound, alike, sameRecord, mirrors⟩ :=
    mirrors_nextSession sound found (ws.gameCells game)
      (restorable_of_swept sound (swept_saveGame found done) (atHome.documentAt? sound found)
        readable ownWrite ownWritable)
      (distinct.earlier opens)
  obtain ⟨isClean, names, pairs⟩ := mirrors.loadSweep sound found atHome
    (atHome.restorable sound found readable done clean) (distinct.earlier (mirrors.precedes found))
  refine ⟨opened, _, opening, openedFound, sameRecord, rfl, ?_⟩
  rw [alike.root]
  exact ⟨isClean, names, pairs⟩

/-- A game with three references to two cell documents, all resolved. -/
def levelActions : List Action :=
  [.create "a.cell" ⟨3⟩, .create "b.cell" ⟨3⟩, .create "level.game" ⟨0⟩,
    .edit (Uuid.ofNat 3) (.append (Uuid.ofNat 2) Names.placementChild ⟨4⟩ (Uuid.ofNat 6)),
    .edit (Uuid.ofNat 5) (.append (Uuid.ofNat 4) Names.placementsFolderChild ⟨1⟩ (Uuid.ofNat 6)),
    .edit (Uuid.ofNat 5) (.append (Uuid.ofNat 6) Names.cellChild ⟨2⟩ (Uuid.ofNat 7)),
    .edit (Uuid.ofNat 5) (.append (Uuid.ofNat 6) Names.cellChild ⟨2⟩ (Uuid.ofNat 8)),
    .edit (Uuid.ofNat 5) (.append (Uuid.ofNat 6) Names.cellChild ⟨2⟩ (Uuid.ofNat 9)),
    .edit (Uuid.ofNat 5) (.setAttribute (Uuid.ofNat 7) Names.uriAttribute "b.cell"),
    .edit (Uuid.ofNat 5) (.setAttribute (Uuid.ofNat 8) Names.uriAttribute "a.cell"),
    .edit (Uuid.ofNat 5) (.setAttribute (Uuid.ofNat 9) Names.uriAttribute "b.cell"),
    .loadSweep ⟨Uuid.ofNat 5, Uuid.ofNat 4⟩]

/-- The game and the two documents are saved, and a next session opens the game with the same tree and
resolves all of its references. -/
theorem reload_level :
    ∃ (gameDoc opened : Document) (sweep : Outcome LoadReport),
      (blank.run levelActions).document? (Uuid.ofNat 5) = some gameDoc ∧
      ((blank.run levelActions).saveGame (Uuid.ofNat 5)).result =
        .ok ⟨["b.cell", "a.cell", "b.cell"], [], []⟩ ∧
      (((blank.run levelActions).nextSession (Uuid.ofNat 5) Uuid.ofNat).openAt
        gameDoc.location).result = .ok opened.id ∧
      opened.toRecord (blank.run levelActions).schema =
        gameDoc.toRecord (blank.run levelActions).schema ∧
      (((blank.run levelActions).nextSession (Uuid.ofNat 5) Uuid.ofNat).openAt
        gameDoc.location).after.loadSweep ⟨opened.id, opened.root⟩ = sweep ∧
      sweep.result.isClean = true ∧
      sweep.result.resolved.map (·.1) = [Uuid.ofNat 7, Uuid.ofNat 8, Uuid.ofNat 9] := by
  have reachable : (blank.run levelActions).Reachable := reachable_blank.run (by decide +kernel)
  have open_ : ((blank.run levelActions).document? (Uuid.ofNat 5)).isSome = true := by
    decide +kernel
  have done : ((blank.run levelActions).saveGame (Uuid.ofNat 5)).result =
      .ok ⟨["b.cell", "a.cell", "b.cell"], [], []⟩ := by
    decide +kernel
  have cells : ((blank.run levelActions).gameCells (Uuid.ofNat 5)).map (·.1) =
      [Uuid.ofNat 7, Uuid.ofNat 8, Uuid.ofNat 9] := by
    decide +kernel
  obtain ⟨gameDoc, found⟩ := Option.isSome_iff_exists.mp open_
  obtain ⟨opened, sweep, opening, -, same, swept, clean, names, -⟩ :=
    @reload_of_saveGame _ gameDoc (Uuid.ofNat 5) reachable found (by decide +kernel)
      (by decide +kernel) _ done rfl Uuid.ofNat (by decide +kernel)
  exact ⟨gameDoc, opened, sweep, found, done, opening, same, swept, clean, names.trans cells⟩

end Workspace

end LevelGraph
