import LevelGraph.Proofs.Workspace.Reopen

/-!
# What opening and resolving come to

Opening a location ends in one of three ways and resolving a reference in another three.
`Opens` and `Resolves` say which, with all that is known about the workspace on each way out.
A resolve that succeeds links the reference to the document that is open at its declared
location, and that link is never refused: the reference was found before anything was opened,
and opening closes nothing. A resolve that fails may have opened a document and closed it
again. Under a new identifier at a free location that leaves both tables as they were.

So whatever operation fails, and at whatever depth, the workspace differs from the one before
only in the identifiers that were issued.
-/

namespace LevelGraph

namespace Workspace

variable {ws : Workspace} {reference : NodeRef} {location : String}

/-- A reference declares a location when it is a cell reference of an open document and the
location is its attribute, unless that is blank. -/
theorem declaredLocation_eq_ok_iff :
    ws.declaredLocation reference = .ok location ↔
      ∃ doc, ws.document? reference.document = some doc ∧
        doc.adaptsTo ws.schema reference.node ws.schema.tags.placementsCellReference = true ∧
        doc.attribute? reference.node Names.uriAttribute = some location ∧
        Text.isBlankText location = false := by
  unfold declaredLocation Document.cellReference?
  cases ws.document? reference.document with
  | none => simp
  | some doc =>
    by_cases adapts :
        doc.adaptsTo ws.schema reference.node ws.schema.tags.placementsCellReference = true
    · cases declared : doc.attribute? reference.node Names.uriAttribute with
      | none => simp [adapts, declared]
      | some text =>
        by_cases blank : Text.isBlankText text = true
        · simp only [adapts, declared, blank, if_true, reduceCtorEq, Option.some.injEq,
            exists_eq_left', true_and, false_iff, not_and, Bool.not_eq_false]
          rintro rfl
          exact blank
        · rw [Bool.not_eq_true] at blank
          simp only [adapts, declared, blank, if_true, Bool.false_eq_true, if_false,
            Except.ok.injEq, Option.some.injEq, exists_eq_left', true_and, iff_self_and]
          rintro rfl
          exact blank
    · simp [adapts]

/-- Closing a document that was just opened leaves the tables as they were. -/
theorem close_register {doc : Document} (absent : ws.document? doc.id = none)
    (free : ws.documentAt? doc.location = none) : ((ws.register doc).close doc.id).after = ws := by
  have found : (ws.register doc).document? doc.id = some doc := by
    rw [document?_register, if_pos rfl]
  have documents : (ws.documents.insert doc.id doc).erase doc.id = ws.documents :=
    Table.erase_insert absent doc
  have locations : (ws.locations.insert doc.location doc.id).erase doc.location = ws.locations :=
    Table.erase_insert free doc.id
  simp only [close, found]
  rw [register, documents, locations]

/-- What opening a location comes to. -/
inductive Opens (ws : Workspace) (location : String) :
    Outcome (Except WorkspaceError DocumentId) → Prop where
  /-- A document is open there. -/
  | held {id : DocumentId} (placed : ws.documentAt? location = some id) :
      Opens ws location ⟨.ok id, ws, []⟩
  /-- None is open there, and none can be opened. -/
  | refused (free : ws.documentAt? location = none) (error : WorkspaceError) :
      Opens ws location (ws.fail error)
  /-- The stored document is opened under the next identifier, without targets. -/
  | loaded {doc : Document} (free : ws.documentAt? location = none)
      (identified : doc.id = ws.supply.next) (located : doc.location = location)
      (untargeted : doc.targets = Table.empty) (events : List Event) :
      Opens ws location ⟨.ok doc.id, { ws with supply := ws.supply.advance }.register doc, events⟩

/-- Opening a location comes to one of these. -/
theorem openAt_opens (ws : Workspace) (location : String) :
    ws.Opens location (ws.openAt location) := by
  unfold openAt
  cases placed : ws.documentAt? location with
  | some id => exact .held placed
  | none =>
    dsimp only
    split
    · exact .refused placed _
    · exact .refused placed _
    · next record loaded =>
      split
      · exact .refused placed _
      · next doc laid =>
        obtain ⟨identified, located, -, untargeted, -⟩ :=
          Document.represents_of_ofRecord (Repository.ordered_of_load loaded) laid
        exact .loaded placed identified located untargeted _

namespace Opens

variable {outcome : Outcome (Except WorkspaceError DocumentId)}

/-- Opening that fails changes nothing. -/
theorem after_of_error (opens : ws.Opens location outcome) {error : WorkspaceError}
    (failed : outcome.result = .error error) : outcome.after = ws := by
  cases opens with
  | held => cases failed
  | refused => rfl
  | loaded => cases failed

/-- What was opened is the document at the location. -/
theorem placed (opens : ws.Opens location outcome) {id : DocumentId}
    (done : outcome.result = .ok id) : outcome.after.documentAt? location = some id := by
  cases opens with
  | held placed =>
    cases done
    exact placed
  | refused => cases done
  | loaded free identified located =>
    cases done
    rw [documentAt?_register, if_pos located.symm]

/-- Opening closes nothing and changes no open document. -/
theorem stays (opens : ws.Opens location outcome) (sound : ws.Sound)
    (distinct : outcome.after.supply.Distinct) {id : DocumentId} {doc : Document}
    (found : ws.document? id = some doc) : outcome.after.document? id = some doc := by
  cases opens with
  | held => exact found
  | refused => exact found
  | loaded free identified =>
    have absent := sound.document?_next distinct
    rw [← identified] at absent
    exact document?_register_of_found absent found

/-- Opening keeps the schema. -/
theorem schema (opens : ws.Opens location outcome) : outcome.after.schema = ws.schema := by
  cases opens <;> rfl

end Opens

/-- What resolving a reference comes to. -/
inductive Resolves (ws : Workspace) (reference : NodeRef) :
    Outcome (Except WorkspaceError DocumentId) → Prop where
  /-- The reference stands for an open document. -/
  | live {target : DocumentId} (live : ws.liveTarget? reference = some target) :
      Resolves ws reference ⟨.ok target, ws, []⟩
  /-- The reference stands for none and cannot be resolved. At most an identifier is issued. -/
  | refused (idle : ws.liveTarget? reference = none) (error : WorkspaceError) (supply : IdSupply)
      (events : List Event) :
      Resolves ws reference ⟨.error error, { ws with supply := supply }, events⟩
  /-- The reference stands for none and is linked to the cell document that is open at its
  declared location, after that was opened if needed. -/
  | linked {location : String} {target : DocumentId} {doc : Document}
      (idle : ws.liveTarget? reference = none)
      (declares : ws.declaredLocation reference = .ok location)
      (placed : (ws.openAt location).after.documentAt? location = some target)
      (cell : (ws.openAt location).after.isCellDocument target = true)
      (found : (ws.openAt location).after.document? reference.document = some doc)
      (events : List Event) :
      Resolves ws reference ⟨.ok target, (ws.openAt location).after.replace reference.document
        { doc with targets := doc.targets.insert reference.node target }, events⟩

/-- What resolving at a declared location comes to.

Proof: opening fails and changes nothing, or it yields a document. That is a cell document, and
then the reference is still there to be linked; or it is none, and then it was open before or
closing it undoes its opening. -/
theorem resolveAt_resolves (sound : ws.Sound) (idle : ws.liveTarget? reference = none)
    (declares : ws.declaredLocation reference = .ok location)
    (distinct : (ws.resolveAt reference location).after.supply.Distinct) :
    ws.Resolves reference (ws.resolveAt reference location) := by
  have opens := ws.openAt_opens location
  have openedDistinct : (ws.openAt location).after.supply.Distinct :=
    distinct.earlier (Steps.keeps (ws.resolveAt_steps_of_openAt reference location)).2
  obtain ⟨doc, found, adapts, -⟩ := declaredLocation_eq_ok_iff.mp declares
  unfold resolveAt
  dsimp only
  cases opening : (ws.openAt location).result with
  | error error =>
    dsimp only
    rw [opens.after_of_error opening]
    exact .refused idle error ws.supply _
  | ok target =>
    dsimp only
    by_cases cell : (ws.openAt location).after.isCellDocument target = true
    · have stillFound := opens.stays sound openedDistinct found
      have linking : (ws.openAt location).after.link reference target =
          .ok ((ws.openAt location).after.replace reference.document
            { doc with targets := doc.targets.insert reference.node target }) := by
        simp only [link, stillFound, Document.setTarget, Document.contains_of_adaptsTo adapts,
          if_true]
      rw [if_pos cell, linking]
      exact .linked idle declares (opens.placed opening) cell stillFound _
    · rw [if_neg cell]
      generalize (ws.openAt location) = outcome at opens openedDistinct opening cell ⊢
      cases opens with
      | held placed =>
        rw [if_pos (by rw [placed]; rfl)]
        exact .refused idle _ ws.supply _
      | refused => cases opening
      | loaded free identified located untargeted events =>
        cases opening
        have absent := sound.document?_next openedDistinct
        have undone := @close_register { ws with supply := ws.supply.advance } _
          (identified ▸ absent) (located ▸ free)
        rw [if_neg (by rw [free]; exact Bool.false_ne_true), undone]
        exact .refused idle _ ws.supply.advance _

/-- Resolving comes to what `Resolves` says. -/
theorem resolve_resolves (sound : ws.Sound)
    (distinct : (ws.resolve reference).after.supply.Distinct) :
    ws.Resolves reference (ws.resolve reference) := by
  cases live : ws.liveTarget? reference with
  | some target =>
    have held : ws.resolve reference = ⟨.ok target, ws, []⟩ := by
      simp only [resolve, live]
    rw [held]
    exact .live live
  | none =>
    cases declares : ws.declaredLocation reference with
    | error error =>
      have failed : ws.resolve reference = ws.fail error := by
        simp only [resolve, live, declares]
      rw [failed]
      exact .refused live error ws.supply []
    | ok location =>
      have resolving : ws.resolve reference = ws.resolveAt reference location := by
        simp only [resolve, live, declares]
      rw [resolving] at distinct ⊢
      exact resolveAt_resolves sound live declares distinct

end Workspace

/-- The error of an operation that failed. -/
def Outcome.error? {α : Type} (outcome : Outcome (Except WorkspaceError α)) :
    Option WorkspaceError :=
  match outcome.result with
  | .ok _ => none
  | .error error => some error

namespace Workspace

/-- An operation with an error has failed with it. -/
theorem result_of_error? {α : Type} {outcome : Outcome (Except WorkspaceError α)}
    {error : WorkspaceError} (failed : outcome.error? = some error) :
    outcome.result = .error error := by
  unfold Outcome.error? at failed
  split at failed
  · cases failed
  · next result =>
    cases failed
    exact result

/-- The error that an action ends with. Closing, sweeps and edits end with none. -/
def error? (ws : Workspace) : Action → Option WorkspaceError
  | .create location rootType => (ws.create location rootType).error?
  | .openAt location => (ws.openAt location).error?
  | .save id => (ws.save id).error?
  | .saveTo id location => (ws.saveTo id location).error?
  | .resolve reference => (ws.resolve reference).error?
  | .saveGame game => (ws.saveGame game).error?
  | .close _ | .loadSweep _ | .saveSweep _ | .edit _ _ | .changeStore _ => none

variable {ws : Workspace} {reference : NodeRef} {location : String} {error : WorkspaceError}

/-- A document that is not created leaves no trace, not even a used identifier. -/
theorem after_of_create_error {rootType : TypeId}
    (failed : (ws.create location rootType).result = .error error) :
    (ws.create location rootType).after = ws := by
  unfold create at failed ⊢
  split
  · rfl
  · next unused =>
    rw [if_neg unused] at failed
    cases failed

/-- A save that fails changes nothing. -/
theorem after_of_saveTo_error {id : DocumentId}
    (failed : (ws.saveTo id location).result = .error error) :
    (ws.saveTo id location).after = ws := by
  cases found : ws.document? id with
  | none => simp only [saveTo, found, fail]
  | some doc =>
    obtain ⟨succeeds, refused⟩ := saveTo_spec found location
    refine (refused fun writable => ?_).2
    rw [(succeeds writable).1] at failed
    cases failed

/-- A save to the own location that fails changes nothing. -/
theorem after_of_save_error {id : DocumentId} (failed : (ws.save id).result = .error error) :
    (ws.save id).after = ws := by
  cases found : ws.document? id with
  | none => simp only [save, found, fail]
  | some doc =>
    rw [save_eq_saveTo found] at failed ⊢
    exact after_of_saveTo_error failed

/-- A game save fails only before its sweep, when the game's own document is not saved. -/
theorem after_of_saveGame_error {game : DocumentId}
    (failed : (ws.saveGame game).result = .error error) : (ws.saveGame game).after = ws := by
  unfold saveGame at failed ⊢
  dsimp only at failed ⊢
  cases own : (ws.save game).result with
  | error error => exact after_of_save_error own
  | ok =>
    rw [own] at failed
    dsimp only at failed ⊢
    obtain ⟨doc, found, writable⟩ := save_ok own
    obtain ⟨-, -, same⟩ := (saveTo_spec found doc.location).1 writable
    obtain ⟨held, heldFound, -⟩ := same.document? found
    rw [← save_eq_saveTo found] at heldFound
    rw [heldFound] at failed
    cases failed

/-- An operation that fails leaves no trace. Every document is open or not as before, with its
tree, its targets and its state of being clean; every location leads to the document that it
led to, and the store is the same. Only identifiers may have been issued.

Proof: creating, opening and saving fail before they change anything, and resolving undoes what
it opened. -/
theorem perform_of_error (reachable : ws.Reachable) {action : Action}
    (failed : ws.error? action = some error) (distinct : (ws.perform action).supply.Distinct) :
    ws.perform action = { ws with supply := (ws.perform action).supply } := by
  have unchanged {after : Workspace} (same : after = ws) :
      after = { ws with supply := after.supply } := by
    rw [same]
  cases action with
  | create location rootType => exact unchanged (after_of_create_error (result_of_error? failed))
  | openAt location =>
    exact unchanged ((ws.openAt_opens location).after_of_error (result_of_error? failed))
  | save id => exact unchanged (after_of_save_error (result_of_error? failed))
  | saveTo id location => exact unchanged (after_of_saveTo_error (result_of_error? failed))
  | saveGame game => exact unchanged (after_of_saveGame_error (result_of_error? failed))
  | resolve reference =>
    change (ws.resolve reference).error? = some error at failed
    change (ws.resolve reference).after.supply.Distinct at distinct
    change (ws.resolve reference).after = { ws with supply := (ws.resolve reference).after.supply }
    have resolves := resolve_resolves reachable.sound distinct
    generalize ws.resolve reference = outcome at failed resolves ⊢
    cases resolves with
    | live => cases failed
    | refused => rfl
    | linked => cases failed
  | close | loadSweep | saveSweep | edit | changeStore => cases failed

/-- A game refers to a stored document that is no cell document. -/
def misdirectedActions : List Action :=
  [.create "other.game" ⟨0⟩, .save (Uuid.ofNat 1), .close (Uuid.ofNat 1),
    .create "level.game" ⟨0⟩,
    .edit (Uuid.ofNat 3) (.append (Uuid.ofNat 2) Names.placementsFolderChild ⟨1⟩ (Uuid.ofNat 10)),
    .edit (Uuid.ofNat 3) (.append (Uuid.ofNat 10) Names.cellChild ⟨2⟩ (Uuid.ofNat 11)),
    .edit (Uuid.ofNat 3) (.setAttribute (Uuid.ofNat 11) Names.uriAttribute "other.game")]

/-- Resolving the reference opens the document, which takes an identifier, and closes it again. -/
theorem perform_of_mismatch :
    (blank.run misdirectedActions).error? (.resolve ⟨Uuid.ofNat 3, Uuid.ofNat 11⟩) =
      some (.targetTypeMismatch "other.game" "gameType") ∧
    ((blank.run misdirectedActions).perform
      (.resolve ⟨Uuid.ofNat 3, Uuid.ofNat 11⟩)).supply.issued = 5 ∧
    (blank.run misdirectedActions).perform (.resolve ⟨Uuid.ofNat 3, Uuid.ofNat 11⟩) =
      { blank.run misdirectedActions with
        supply := ((blank.run misdirectedActions).perform
          (.resolve ⟨Uuid.ofNat 3, Uuid.ofNat 11⟩)).supply } := by
  have failed : (blank.run misdirectedActions).error? (.resolve ⟨Uuid.ofNat 3, Uuid.ofNat 11⟩) =
      some (.targetTypeMismatch "other.game" "gameType") := by
    decide +kernel
  exact ⟨failed, by decide +kernel,
    perform_of_error (reachable_blank.run (by decide +kernel)) failed (by decide +kernel)⟩

end Workspace

end LevelGraph
