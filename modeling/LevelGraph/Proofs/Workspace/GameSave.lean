import LevelGraph.Proofs.Workspace.Reopen

/-!
# What a game save stores

A game save writes the game's own document first and then goes through the cell references
of its placements folder. A resolved reference writes the document that it stands for to
the location that it declares now, which need not be the location of that document. So
what is stored at a location afterwards is decided by the writes alone: the last one to that
location counts, and a location that is not written keeps its body.

`gameWrites` lists the writes from what the references declare and stand for. `Swept` says
what a series of writes does, and it passes from single saves to the sweep.
-/

namespace LevelGraph

namespace Workspace

/-- The write of one cell reference: the document that it stands for, at the location that
it declares. None for a reference that stands for no open document, or declares no usable
location. -/
def cellWrite? (ws : Workspace) (document : DocumentId) (cell : NodeId × Option String) :
    Option (String × DocumentId) :=
  match ws.liveTarget? ⟨document, cell.1⟩, usableLocation? cell.2 with
  | some target, some location => some (location, target)
  | _, _ => none

/-- The cell references of a game document, each with the location that it declares. -/
def gameCells (ws : Workspace) (game : DocumentId) : List (NodeId × Option String) :=
  ((ws.document? game).bind fun doc => ws.cellsOf? ⟨game, doc.root⟩).getD []

/-- The writes of a game save in order: the game at its own location, then its cells. -/
def gameWrites (ws : Workspace) (game : DocumentId) : List (String × DocumentId) :=
  ((ws.document? game).map fun doc => (doc.location, game)).toList ++
    (ws.gameCells game).filterMap (ws.cellWrite? game)

/-- The document of the last of several writes to a location. -/
def lastWriter? (writes : List (String × DocumentId)) (location : String) : Option DocumentId :=
  (writes.reverse.find? fun write => decide (write.1 = location)).map (·.2)

/-- A later write to a location supersedes an earlier one. -/
theorem lastWriter?_append (front back : List (String × DocumentId)) (location : String) :
    lastWriter? (front ++ back) location =
      (lastWriter? back location).or (lastWriter? front location) := by
  rw [lastWriter?, List.reverse_append, List.find?_append, Option.map_or]
  rfl

/-- A location is written when there is a last write to it. -/
theorem lastWriter?_isSome {writes : List (String × DocumentId)} {location : String} :
    (lastWriter? writes location).isSome = true ↔ location ∈ writes.map (·.1) := by
  simp [lastWriter?, Option.isSome_map, List.find?_isSome]

/-- The last write to a location is one of the writes. -/
theorem mem_of_lastWriter? {writes : List (String × DocumentId)} {location : String}
    {writer : DocumentId} (last : lastWriter? writes location = some writer) :
    (location, writer) ∈ writes := by
  obtain ⟨⟨place, document⟩, found, same⟩ := Option.map_eq_some_iff.mp last
  have passes := List.find?_some found
  have here : place = location := of_decide_eq_true passes
  have listed := List.mem_reverse.mp (List.mem_of_find?_eq_some found)
  change document = writer at same
  rwa [here, same] at listed

variable {ws middle after : Workspace}

namespace SameDocuments

variable (same : ws.SameDocuments after)

include same

/-- References stand for the same documents. -/
theorem liveTarget? (reference : NodeRef) :
    after.liveTarget? reference = ws.liveTarget? reference := by
  have held : ((after.document? reference.document).bind fun doc => doc.target? reference.node) =
      (ws.document? reference.document).bind fun doc => doc.target? reference.node := by
    have agree := congrArg (fun held => held.bind fun doc => Document.target? doc reference.node)
      (same.documents reference.document)
    rw [Option.bind_map, Option.bind_map] at agree
    exact agree
  have open_ (id : DocumentId) : after.documents.contains id = ws.documents.contains id := by
    have agree := congrArg Option.isSome (same.documents id)
    rw [Option.isSome_map, Option.isSome_map] at agree
    exact agree
  simp only [Workspace.liveTarget?, held, open_]

/-- Games have the same cell references. -/
theorem cellsOf? (game : NodeRef) : after.cellsOf? game = ws.cellsOf? game := by
  unfold Workspace.cellsOf?
  cases found : ws.document? game.document with
  | none =>
    have agree := same.documents game.document
    rw [found, Option.map_none, Option.map_eq_none_iff] at agree
    rw [agree]
  | some doc =>
    obtain ⟨held, heldFound, sameDoc⟩ := same.document? found
    have views : held.game? ws.schema game.node = doc.game? ws.schema game.node := by
      change held.markClean.game? ws.schema game.node = doc.markClean.game? ws.schema game.node
      rw [sameDoc]
    simp only [heldFound, same.schema, views]

/-- References cause the same writes. -/
theorem cellWrite? (document : DocumentId) : after.cellWrite? document = ws.cellWrite? document := by
  funext cell
  unfold Workspace.cellWrite?
  rw [same.liveTarget?]

end SameDocuments

/-- What a series of writes does, of which those at open locations succeed. -/
structure Swept (ws after : Workspace) (writes : List (String × DocumentId))
    (locations : List String) : Prop where
  /-- The same documents are open. -/
  same : ws.SameDocuments after
  /-- Documents can be saved at the same locations. -/
  writable : ∀ location, after.repository.Writable location ↔ ws.repository.Writable location
  /-- The locations saved are those of the writes where documents can be saved. -/
  saved : ∀ location, location ∈ locations ↔
    ws.repository.Writable location ∧ (lastWriter? writes location).isSome = true
  /-- The last document written to a location is the one stored there. -/
  body : ∀ {location writer}, ws.repository.Writable location →
    lastWriter? writes location = some writer →
    ∃ doc, ws.document? writer = some doc ∧
      after.repository.database.readBody location = .ok (some (doc.toRecord ws.schema).stored)
  /-- Every other location keeps what is stored there. -/
  frame : ∀ {location}, location ∉ locations →
    after.repository.database.readBody location = ws.repository.database.readBody location

/-- No write changes nothing. -/
theorem Swept.refl (ws : Workspace) : Swept ws ws [] [] :=
  ⟨.refl ws, fun _ => Iff.rfl, fun _ => ⟨fun listed => (nomatch listed), fun both => nomatch both.2⟩,
    fun _ last => (nomatch last), fun _ => rfl⟩

/-- Two series of writes are one. -/
theorem Swept.append {front back : List (String × DocumentId)} {savedFront savedBack : List String}
    (earlier : Swept ws middle front savedFront) (later : Swept middle after back savedBack) :
    Swept ws after (front ++ back) (savedFront ++ savedBack) := by
  refine ⟨earlier.same.trans later.same,
    fun location => (later.writable location).trans (earlier.writable location), ?_, ?_, ?_⟩
  · intro location
    rw [List.mem_append, earlier.saved, later.saved, earlier.writable, lastWriter?_append,
      Option.isSome_or, Bool.or_eq_true, ← and_or_left, or_comm]
  · intro location writer writable last
    rw [lastWriter?_append] at last
    cases atBack : lastWriter? back location with
    | some final =>
      rw [atBack, Option.some_or, Option.some.injEq] at last
      subst last
      obtain ⟨held, heldFound, stored⟩ := later.body ((earlier.writable location).mpr writable) atBack
      obtain ⟨doc, found, sameDoc⟩ := earlier.same.symm.document? heldFound
      refine ⟨doc, found, ?_⟩
      rw [stored, earlier.same.schema, toRecord_of_markClean sameDoc]
    | none =>
      rw [atBack, Option.none_or] at last
      obtain ⟨doc, found, stored⟩ := earlier.body writable last
      refine ⟨doc, found, ?_⟩
      rw [later.frame ?_, stored]
      rw [later.saved, atBack]
      exact fun both => nomatch both.2
  · intro location unsaved
    rw [List.mem_append, not_or] at unsaved
    rw [later.frame unsaved.2, earlier.frame unsaved.1]

/-- A save of an open document is one write. -/
theorem swept_of_saveTo {id : DocumentId} {doc : Document} (found : ws.document? id = some doc)
    {location : String} (done : (ws.saveTo id location).result = .ok ()) :
    Swept ws (ws.saveTo id location).after [(location, id)] [location] := by
  obtain ⟨-, -, writable⟩ := saveTo_ok done
  obtain ⟨-, stored, same⟩ := (saveTo_spec found location).1 writable
  refine ⟨same, fun other => ?_, fun other => ?_, ?_, ?_⟩
  · rw [stored]
    exact Repository.writable_put _ other
  · rw [List.mem_singleton, lastWriter?_isSome, List.map_singleton, List.mem_singleton]
    constructor
    · intro here
      exact ⟨here ▸ writable, here⟩
    · rintro ⟨-, here⟩
      exact here
  · intro other writer _ last
    obtain ⟨here, isWriter⟩ := Prod.mk.inj (List.mem_singleton.mp (mem_of_lastWriter? last))
    refine ⟨doc, isWriter ▸ found, ?_⟩
    rw [stored, Repository.readBody_put writable.table, if_pos here]
  · intro other elsewhere
    rw [stored, Repository.readBody_put writable.table,
      if_neg fun here => elsewhere (List.mem_singleton.mpr here)]

/-- A save that fails is a write to a location where nothing can be saved. -/
theorem swept_of_refused {id : DocumentId} {doc : Document} (found : ws.document? id = some doc)
    {location : String} {error : WorkspaceError}
    (failed : (ws.saveTo id location).result = .error error) :
    Swept ws (ws.saveTo id location).after [(location, id)] [] := by
  obtain ⟨succeeds, refused⟩ := saveTo_spec found location
  have closed : ¬ ws.repository.Writable location := by
    intro writable
    rw [(succeeds writable).1] at failed
    cases failed
  rw [(refused closed).2]
  refine ⟨.refl ws, fun _ => Iff.rfl, fun other => ?_, ?_, fun _ => rfl⟩
  · rw [lastWriter?_isSome, List.map_singleton, List.mem_singleton]
    constructor
    · exact fun listed => nomatch listed
    · rintro ⟨writable, here⟩
      rw [here] at writable
      exact absurd writable closed
  · intro other writer writable last
    obtain ⟨here, -⟩ := Prod.mk.inj (List.mem_singleton.mp (mem_of_lastWriter? last))
    exact absurd (here ▸ writable) closed

/-- A save sweep makes the writes of its references.

Proof: induction on the references. A reference without a write changes nothing, and one with a
write changes nothing that later writes depend on. -/
theorem swept_saveEach (document : DocumentId) (cells : List (NodeId × Option String))
    (ws : Workspace) :
    Swept ws (saveEach document cells ws).after (cells.filterMap (ws.cellWrite? document))
      (saveEach document cells ws).result.saved := by
  induction cells generalizing ws with
  | nil => exact .refl ws
  | cons cell rest inductionHypothesis =>
    obtain ⟨cell, declared⟩ := cell
    rw [saveEach, List.filterMap_cons]
    cases live : ws.liveTarget? ⟨document, cell⟩ with
    | none =>
      have silent : ws.cellWrite? document (cell, declared) = none := by
        simp only [cellWrite?, live]
      rw [silent]
      exact inductionHypothesis ws
    | some target =>
      cases usable : usableLocation? declared with
      | none =>
        have silent : ws.cellWrite? document (cell, declared) = none := by
          simp only [cellWrite?, live, usable]
        rw [silent]
        exact inductionHypothesis ws
      | some location =>
        have written : ws.cellWrite? document (cell, declared) = some (location, target) := by
          simp only [cellWrite?, live, usable]
        obtain ⟨doc, found⟩ : ∃ doc, ws.document? target = some doc := by
          have open_ := Option.filter_eq_some_iff.mp live
          exact (Table.contains_iff _ _).mp open_.2
        have later := inductionHypothesis (ws.saveTo target location).after
        rw [written]
        dsimp only
        cases done : (ws.saveTo target location).result with
        | ok _ =>
          have here := swept_of_saveTo found done
          rw [here.same.cellWrite?] at later
          exact here.append later
        | error error =>
          have here := swept_of_refused found done
          rw [here.same.cellWrite?] at later
          exact here.append later

/-- A successful game save is a save of the game's document and a sweep over its cells. -/
theorem saveGame_ok {game : DocumentId} {doc : Document} (found : ws.document? game = some doc)
    {report : SaveReport} (done : (ws.saveGame game).result = .ok report) :
    (ws.saveTo game doc.location).result = .ok () ∧
      (saveEach game (ws.gameCells game) (ws.saveTo game doc.location).after).result = report ∧
      (saveEach game (ws.gameCells game) (ws.saveTo game doc.location).after).after =
        (ws.saveGame game).after := by
  have own := save_eq_saveTo found
  simp only [saveGame, own] at done ⊢
  cases saved : (ws.saveTo game doc.location).result with
  | error error =>
    rw [saved] at done
    cases done
  | ok _ =>
    have same := (swept_of_saveTo found saved).same
    obtain ⟨held, heldFound, sameDoc⟩ := same.document? found
    have root : held.markClean.root = doc.markClean.root := congrArg Document.root sameDoc
    change held.root = doc.root at root
    simp only [saved, heldFound, root, saveSweep, same.cellsOf?, Except.ok.injEq] at done ⊢
    have listed : ws.gameCells game = (ws.cellsOf? ⟨game, doc.root⟩).getD [] := by
      simp only [gameCells, found, Option.bind_some]
    rw [listed]
    cases cells : ws.cellsOf? ⟨game, doc.root⟩ with
    | none =>
      simp only [cells] at done ⊢
      exact ⟨trivial, done, rfl⟩
    | some list =>
      simp only [cells] at done ⊢
      exact ⟨trivial, done, rfl⟩

/-- A successful game save makes the game's writes. -/
theorem swept_saveGame {game : DocumentId} {doc : Document} (found : ws.document? game = some doc)
    {report : SaveReport} (done : (ws.saveGame game).result = .ok report) :
    Swept ws (ws.saveGame game).after (ws.gameWrites game) (doc.location :: report.saved) := by
  obtain ⟨saved, reported, left⟩ := saveGame_ok found done
  have first := swept_of_saveTo found saved
  have later := swept_saveEach game (ws.gameCells game) (ws.saveTo game doc.location).after
  rw [first.same.cellWrite?, reported, left] at later
  have writes : ws.gameWrites game = [(doc.location, game)] ++
      (ws.gameCells game).filterMap (ws.cellWrite? game) := by
    simp only [gameWrites, found, Option.map_some, Option.toList_some]
  rw [writes]
  exact first.append later

/-- What is stored at a location that a game save wrote is the tree of the document written
there last. So it is the tree of the document open there if that is the one written last, and
otherwise only if both have the same record. No other location is touched.

Proof: the writes of the save decide the bodies, and records with the same text are the
same. -/
theorem body_of_saveGame (reachable : ws.Reachable) {game : DocumentId} {gameDoc : Document}
    (found : ws.document? game = some gameDoc) {report : SaveReport}
    (done : (ws.saveGame game).result = .ok report) :
    (∀ location, location = gameDoc.location ∨ location ∈ report.saved →
      ∃ writer doc, lastWriter? (ws.gameWrites game) location = some writer ∧
        ws.document? writer = some doc ∧
        (ws.saveGame game).after.repository.database.readBody location =
          .ok (some (doc.toRecord ws.schema).stored) ∧
        ∀ id other, (ws.saveGame game).after.documentAt? location = some id →
          (ws.saveGame game).after.document? id = some other →
          (id = writer → other.toRecord ws.schema = doc.toRecord ws.schema) ∧
          ((ws.saveGame game).after.repository.database.readBody location =
              .ok (some (other.toRecord ws.schema).stored) ↔
            other.toRecord ws.schema = doc.toRecord ws.schema)) ∧
    ∀ location, location ≠ gameDoc.location → location ∉ report.saved →
      (ws.saveGame game).after.repository.database.readBody location =
        ws.repository.database.readBody location := by
  have swept := swept_saveGame found done
  have sound := reachable.sound
  constructor
  · intro location written
    have listed : location ∈ gameDoc.location :: report.saved := List.mem_cons.mpr written
    obtain ⟨writable, isWritten⟩ := (swept.saved location).mp listed
    obtain ⟨writer, last⟩ := Option.isSome_iff_exists.mp isWritten
    obtain ⟨doc, docFound, body⟩ := swept.body writable last
    refine ⟨writer, doc, last, docFound, body, ?_⟩
    intro id other _ otherFound
    obtain ⟨before, beforeFound, sameDoc⟩ := swept.same.symm.document? otherFound
    have sameRecord := toRecord_of_markClean sameDoc ws.schema
    constructor
    · intro same
      rw [same, docFound, Option.some.injEq] at beforeFound
      rw [beforeFound, sameRecord]
    · obtain ⟨-, -, docOrdered, -⟩ := (sound.arises docFound).sound.record ws.schema
      obtain ⟨-, -, otherOrdered, -⟩ := (sound.arises beforeFound).sound.record ws.schema
      rw [sameRecord] at otherOrdered
      rw [body, Except.ok.injEq, Option.some.injEq]
      constructor
      · exact fun same => (NodeRecord.eq_of_stored_eq docOrdered otherOrdered same).symm
      · exact fun same => by rw [same]
  · intro location notOwn unsaved
    exact swept.frame fun listed => (List.mem_cons.mp listed).elim notOwn unsaved

/-- A game's reference was resolved to one cell document and then made to declare another
location. A second cell document is open as well. -/
def redirectedActions (location : String) : List Action :=
  [.create "a.cell" ⟨3⟩, .create "b.cell" ⟨3⟩, .create "level.game" ⟨0⟩,
    .edit (Uuid.ofNat 5) (.append (Uuid.ofNat 4) Names.placementsFolderChild ⟨1⟩ (Uuid.ofNat 6)),
    .edit (Uuid.ofNat 5) (.append (Uuid.ofNat 6) Names.cellChild ⟨2⟩ (Uuid.ofNat 7)),
    .edit (Uuid.ofNat 5) (.setAttribute (Uuid.ofNat 7) Names.uriAttribute "a.cell"),
    .resolve ⟨Uuid.ofNat 5, Uuid.ofNat 7⟩,
    .edit (Uuid.ofNat 5) (.setAttribute (Uuid.ofNat 7) Names.uriAttribute location)]

/-- The session with the reference redirected. -/
def redirected (location : String) : Workspace := blank.run (redirectedActions location)

/-- What is stored at the new location is the record of the last document written there, and at the old
location nothing changes. -/
theorem body_of_saveGame_redirected :
    ((redirected "b.cell").document? (Uuid.ofNat 5)).isSome = true ∧
    ((redirected "b.cell").saveGame (Uuid.ofNat 5)).result = .ok ⟨["b.cell"], [], []⟩ ∧
    (∃ writer doc,
      lastWriter? ((redirected "b.cell").gameWrites (Uuid.ofNat 5)) "b.cell" = some writer ∧
      (redirected "b.cell").document? writer = some doc ∧
      ((redirected "b.cell").saveGame (Uuid.ofNat 5)).after.repository.database.readBody "b.cell" =
        .ok (some (doc.toRecord (redirected "b.cell").schema).stored)) ∧
    ((redirected "b.cell").saveGame (Uuid.ofNat 5)).after.repository.database.readBody "a.cell" =
      (redirected "b.cell").repository.database.readBody "a.cell" := by
  have open_ : ((redirected "b.cell").document? (Uuid.ofNat 5)).isSome = true := by
    decide +kernel
  have located : ((redirected "b.cell").document? (Uuid.ofNat 5)).map (·.location) =
      some "level.game" := by
    decide +kernel
  have done : ((redirected "b.cell").saveGame (Uuid.ofNat 5)).result =
      .ok ⟨["b.cell"], [], []⟩ := by
    decide +kernel
  obtain ⟨game, found⟩ := Option.isSome_iff_exists.mp open_
  rw [found, Option.map_some, Option.some.injEq] at located
  obtain ⟨written, kept⟩ := body_of_saveGame (reachable_blank.run (by decide +kernel)) found done
  obtain ⟨writer, doc, last, docFound, body, -⟩ := written "b.cell" (.inr List.mem_cons_self)
  refine ⟨open_, done, ⟨writer, doc, last, docFound, body⟩, kept "a.cell" ?_ (by decide)⟩
  rw [located]
  decide

/-- The game is open in that session, also where its reference leads back to it. -/
theorem game_redirected :
    ((redirected "level.game").document? (Uuid.ofNat 5)).isSome = true := by
  decide +kernel

/-- A redirected reference overwrites what belongs to the document that is open at its new
location, be that another cell document or the game itself. -/
theorem saveGame_overwrites :
    (∃ ws : Workspace, ws.Reachable ∧ ∃ game report location id doc,
      (ws.document? game).isSome = true ∧ (ws.saveGame game).result = .ok report ∧
      location ∈ report.saved ∧ (ws.saveGame game).after.documentAt? location = some id ∧
      (ws.saveGame game).after.document? id = some doc ∧
      (ws.saveGame game).after.repository.database.readBody location ≠
        .ok (some (doc.toRecord ws.schema).stored)) ∧
    ∃ ws : Workspace, ws.Reachable ∧ ∃ game gameDoc report,
      ws.document? game = some gameDoc ∧ (ws.saveGame game).result = .ok report ∧
      (ws.saveGame game).after.repository.database.readBody gameDoc.location ≠
        .ok (some (gameDoc.toRecord ws.schema).stored) := by
  constructor
  · exact ⟨redirected "b.cell", reachable_blank.run (by decide +kernel), Uuid.ofNat 5,
      ⟨["b.cell"], [], []⟩, "b.cell", Uuid.ofNat 3,
      Document.create (Uuid.ofNat 3) (Uuid.ofNat 2) "b.cell" ⟨3⟩, by decide +kernel,
      by decide +kernel, by decide, by decide +kernel, by decide +kernel, by decide +kernel⟩
  · exact ⟨redirected "level.game", reachable_blank.run (by decide +kernel), Uuid.ofNat 5,
      ((redirected "level.game").document? (Uuid.ofNat 5)).get game_redirected,
      ⟨["level.game"], [], []⟩, (Option.some_get game_redirected).symm, by decide +kernel,
      by decide +kernel⟩

end Workspace

end LevelGraph
