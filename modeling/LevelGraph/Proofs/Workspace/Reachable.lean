import LevelGraph.Proofs.Stored
import LevelGraph.Proofs.Workspace.Step

/-!
# Reachable workspaces

`Action` names everything that can be done with a workspace in a session, with all
arguments, and `perform` does it. A reachable workspace is what a session has come to: it
began without open documents, under a schema that was built from declarations and over
any store, and any actions followed. Each action is a chain of steps whether it succeeds
or fails, so every reachable workspace is sound.

Two things are asked of an action. The identifiers that it draws must be new, and an edit
must not link a node, because only resolving does that. A statement about sessions in which
something further is never done is one about what is reachable by allowed actions.
-/

namespace LevelGraph

/-- What is read from a repository has its slots in order. -/
theorem Repository.ordered_of_load {repository : Repository} {location : String}
    {record : NodeRecord} (loaded : repository.load location = .ok (some record)) :
    record.Ordered := by
  unfold load at loaded
  split at loaded
  · cases loaded
  · split at loaded
    · cases loaded
    · cases loaded
    · split at loaded
      · cases loaded
      · next read =>
        cases loaded
        exact NodeRecord.ordered_of_ofStored read

namespace Workspace

variable (ws : Workspace)

/-- Creating a document issues two identifiers and opens the document under the second. -/
theorem create_steps (location : String) (rootType : TypeId) :
    Steps ws (ws.create location rootType).after := by
  unfold create
  split
  · exact .refl
  · next unused =>
    have free : ws.documentAt? location = none := by
      rw [Bool.not_eq_true] at unused
      exact (Table.not_contains_iff _ _).mp unused
    have drawn : Step ws { ws with supply := ws.supply.advance } := .issued
    refine (Relation.ReflTransGen.single drawn).tail ?_
    exact .opened rfl free (.created _ _ _ _) rfl

/-- Opening a document is no step where it is open already or cannot be read. -/
theorem openAt_steps (location : String) : Steps ws (ws.openAt location).after := by
  unfold openAt
  split
  · exact .refl
  · next free =>
    split
    · exact .refl
    · exact .refl
    · next record loaded =>
      split
      · exact .refl
      · next doc done =>
        have ordered := Repository.ordered_of_load loaded
        obtain ⟨identified, located, -, untargeted, -⟩ :=
          Document.represents_of_ofRecord ordered done
        refine .single (.opened identified ?_ (.laidOut ordered done) untargeted)
        rw [located]
        exact free

/-- Saving changes the store, and marks a document clean that is saved where it belongs. -/
theorem saveTo_steps (id : DocumentId) (location : String) :
    Steps ws (ws.saveTo id location).after := by
  unfold saveTo
  split
  · exact .refl
  · next doc found =>
    dsimp only
    split
    · exact .refl
    · next repository saved =>
      have stored : Step ws { ws with repository := repository } := .stored repository
      dsimp only
      split
      · refine (Relation.ReflTransGen.single stored).tail ?_
        have marked : Step { ws with repository := repository }
            (({ ws with repository := repository } : Workspace).replace id (doc.after .markClean)) :=
          .edited found rfl fun _ given => nomatch given
        exact marked
      · exact .single stored

/-- Saving a document makes the steps of its write, if it is open. -/
theorem save_steps (id : DocumentId) : Steps ws (ws.save id).after := by
  unfold save
  split
  · exact .refl
  · exact ws.saveTo_steps id _

/-- Closing a document that is open is one step. -/
theorem close_steps (id : DocumentId) : Steps ws (ws.close id).after := by
  cases found : ws.document? id with
  | none =>
    simp only [close, found]
    exact .refl
  | some doc => exact .single (.closed found)

variable {ws} in
/-- To give a reference its target is to edit one open document. -/
theorem exists_document_of_link {linked : Workspace} {reference : NodeRef} {target : DocumentId}
    (done : ws.link reference target = .ok linked) :
    ∃ doc, ws.document? reference.document = some doc ∧
      linked = ws.replace reference.document (doc.after (.setTarget reference.node target)) := by
  unfold link at done
  split at done
  · cases done
  · next doc found =>
    split at done
    · cases done
    · next changed set =>
      cases done
      have same : doc.after (.setTarget reference.node target) = changed := by
        simp only [Document.after, Edit.result?, set, Except.toOption, Option.getD_some]
      exact ⟨doc, found, same ▸ rfl⟩

variable {ws} in
/-- A cell document is linked in one step. -/
theorem link_steps {linked : Workspace} {reference : NodeRef} {target : DocumentId}
    (cell : ws.isCellDocument target = true) (done : ws.link reference target = .ok linked) :
    Steps ws linked := by
  obtain ⟨doc, found, rfl⟩ := exists_document_of_link done
  exact .single (.linked found reference.node cell)

/-- After opening, resolving links a cell document or closes again what is none. -/
theorem resolveAt_steps_of_openAt (reference : NodeRef) (location : String) :
    Steps (ws.openAt location).after (ws.resolveAt reference location).after := by
  unfold resolveAt
  dsimp only
  split
  · exact .refl
  · split
    · next cell =>
      split
      · exact .refl
      · next linked => exact link_steps cell linked
    · split
      · exact .refl
      · exact close_steps _ _

/-- Resolving at a location makes the steps of opening, and then one for the link or for closing. -/
theorem resolveAt_steps (reference : NodeRef) (location : String) :
    Steps ws (ws.resolveAt reference location).after :=
  (ws.openAt_steps location).trans (ws.resolveAt_steps_of_openAt reference location)

/-- Resolving a reference makes the steps of its location, or none. -/
theorem resolve_steps (reference : NodeRef) : Steps ws (ws.resolve reference).after := by
  unfold resolve
  split
  · exact .refl
  · split
    · exact .refl
    · exact ws.resolveAt_steps reference _

/-- A sweep goes on after its first reference where the resolve of that left the workspace. -/
theorem after_resolveEach_cons (document : DocumentId) (cell : NodeId × Option String)
    (rest : List (NodeId × Option String)) :
    (resolveEach document (cell :: rest) ws).after =
      (resolveEach document rest (ws.resolve ⟨document, cell.1⟩).after).after := by
  obtain ⟨cell, location⟩ := cell
  rw [resolveEach]
  split <;> rfl

/-- Later references are resolved in the workspace that earlier ones leave. -/
theorem after_resolveEach_append (document : DocumentId)
    (earlier later : List (NodeId × Option String)) :
    (resolveEach document (earlier ++ later) ws).after =
      (resolveEach document later (resolveEach document earlier ws).after).after := by
  induction earlier generalizing ws with
  | nil => rfl
  | cons cell rest inductionHypothesis =>
    rw [List.cons_append, after_resolveEach_cons, after_resolveEach_cons, inductionHypothesis]

/-- Resolving references makes the steps of each in turn. -/
theorem resolveEach_steps (document : DocumentId) (cells : List (NodeId × Option String)) :
    Steps ws (resolveEach document cells ws).after := by
  induction cells generalizing ws with
  | nil => exact .refl
  | cons cell rest inductionHypothesis =>
    rw [after_resolveEach_cons]
    exact (ws.resolve_steps _).trans (inductionHypothesis _)

/-- A load sweep makes the steps of its references. -/
theorem loadSweep_steps (game : NodeRef) : Steps ws (ws.loadSweep game).after := by
  unfold loadSweep
  split
  · exact .refl
  · exact ws.resolveEach_steps game.document _

/-- Saving what references stand for makes the steps of each write in turn. -/
theorem saveEach_steps (document : DocumentId) (cells : List (NodeId × Option String)) :
    Steps ws (saveEach document cells ws).after := by
  induction cells generalizing ws with
  | nil => exact .refl
  | cons cell rest inductionHypothesis =>
    obtain ⟨cell, declared⟩ := cell
    rw [saveEach]
    split
    · exact inductionHypothesis ws
    · next target live =>
      split
      · exact inductionHypothesis ws
      · next location usable =>
        have here := ws.saveTo_steps target location
        have later := inductionHypothesis (ws.saveTo target location).after
        dsimp only
        split <;> exact here.trans later

/-- A save sweep makes the steps of its references. -/
theorem saveSweep_steps (game : NodeRef) : Steps ws (ws.saveSweep game).after := by
  unfold saveSweep
  split
  · exact .refl
  · exact ws.saveEach_steps game.document _

/-- Saving a game makes the steps of its own save, and then those of the sweep. -/
theorem saveGame_steps (game : DocumentId) : Steps ws (ws.saveGame game).after := by
  have own := ws.save_steps game
  unfold saveGame
  dsimp only
  split
  · exact own
  · split
    · exact own
    · exact own.trans (saveSweep_steps _ _)

/-- Edit a document if it is open. -/
def edit (id : DocumentId) (edit : Edit) : Workspace :=
  match ws.document? id with
  | none => ws
  | some doc => ws.replace id (doc.after edit)

end Workspace

/-- Everything that can be done with a workspace. -/
inductive Action where
  /-- Create a document. -/
  | create (location : String) (rootType : TypeId)
  /-- Open a document. -/
  | openAt (location : String)
  /-- Save a document at its own location. -/
  | save (id : DocumentId)
  /-- Save a document at any location. -/
  | saveTo (id : DocumentId) (location : String)
  /-- Close a document. -/
  | close (id : DocumentId)
  /-- Resolve a cell reference. -/
  | resolve (reference : NodeRef)
  /-- Resolve the cell references of a game. -/
  | loadSweep (game : NodeRef)
  /-- Save the resolved cells of a game. -/
  | saveSweep (game : NodeRef)
  /-- Save a game with its cells. -/
  | saveGame (game : DocumentId)
  /-- Edit a document. -/
  | edit (id : DocumentId) (edit : Edit)
  /-- Somebody else changes the store. -/
  | changeStore (repository : Repository)

namespace Workspace

/-- The workspace after an action. -/
def perform (ws : Workspace) : Action → Workspace
  | .create location rootType => (ws.create location rootType).after
  | .openAt location => (ws.openAt location).after
  | .save id => (ws.save id).after
  | .saveTo id location => (ws.saveTo id location).after
  | .close id => (ws.close id).after
  | .resolve reference => (ws.resolve reference).after
  | .loadSweep game => (ws.loadSweep game).after
  | .saveSweep game => (ws.saveSweep game).after
  | .saveGame game => (ws.saveGame game).after
  | .edit id edit => ws.edit id edit
  | .changeStore repository => { ws with repository := repository }

/-- An edit of an open document has to suit it and links no node; nothing is asked of the
other actions. -/
def Admits (ws : Workspace) : Action → Prop
  | .edit id edit =>
    edit.links = false ∧ ∀ doc, ws.document? id = some doc → doc.Admits edit
  | _ => True

instance (ws : Workspace) (action : Action) : Decidable (ws.Admits action) :=
  match action with
  | .edit id edit =>
    match found : ws.document? id with
    | none =>
      decidable_of_iff (edit.links = false)
        ⟨fun unlinked => ⟨unlinked, fun doc open_ => by rw [found] at open_; cases open_⟩,
          fun admits => admits.1⟩
    | some doc =>
      decidable_of_iff (edit.links = false ∧ doc.Admits edit)
        ⟨fun both => ⟨both.1, fun other open_ => by
            rw [found, Option.some.injEq] at open_
            exact open_ ▸ both.2⟩,
          fun admits => ⟨admits.1, admits.2 doc found⟩⟩
  | .create _ _ | .openAt _ | .save _ | .saveTo _ _ | .close _ | .resolve _ | .loadSweep _
  | .saveSweep _ | .saveGame _ | .changeStore _ => isTrue trivial

/-- An admitted action is a chain of steps. -/
theorem perform_steps {ws : Workspace} {action : Action} (admits : ws.Admits action) :
    Steps ws (ws.perform action) := by
  cases action with
  | create location rootType => exact ws.create_steps location rootType
  | openAt location => exact ws.openAt_steps location
  | save id => exact ws.save_steps id
  | saveTo id location => exact ws.saveTo_steps id location
  | close id => exact ws.close_steps id
  | resolve reference => exact ws.resolve_steps reference
  | loadSweep game => exact ws.loadSweep_steps game
  | saveSweep game => exact ws.saveSweep_steps game
  | saveGame game => exact ws.saveGame_steps game
  | edit id edit =>
    change Steps ws (ws.edit id edit)
    unfold Workspace.edit
    cases found : ws.document? id with
    | none => exact .refl
    | some doc =>
      exact .single (.edited found admits.1 (admits.2 doc found))
  | changeStore repository => exact .single (.stored repository)

/-- The workspaces that a session can come to. -/
inductive Reachable : Workspace → Prop where
  /-- A session begins without open documents. -/
  | start {collection : TypeCollection} {schema : Schema}
      (declared : Schema.ofCollection collection = .ok schema) (repository : Repository)
      (issue : Nat → Uuid) : Reachable (Workspace.start schema repository ⟨issue, 0⟩)
  /-- Something is done that issues no identifier twice. -/
  | performed {ws : Workspace} (reachable : Reachable ws) (action : Action)
      (admits : ws.Admits action) (distinct : (ws.perform action).supply.Distinct) :
      Reachable (ws.perform action)

/-- Every reachable workspace is sound, by induction on the session. -/
theorem Reachable.sound {ws : Workspace} (reachable : ws.Reachable) : ws.Sound := by
  induction reachable with
  | start declared repository issue =>
    exact sound_start (Schema.distinctNames_of_ofCollection declared) repository _
  | performed _ action admits distinct inductionHypothesis =>
    exact inductionHypothesis.steps (perform_steps admits) distinct

/-- The workspace after several actions. -/
def run (ws : Workspace) (actions : List Action) : Workspace := actions.foldl perform ws

/-- Each of several actions is admitted in its turn and issues no identifier twice. -/
def AdmitsAll (ws : Workspace) : List Action → Prop
  | [] => True
  | action :: rest =>
    ws.Admits action ∧ (ws.perform action).supply.Distinct ∧ (ws.perform action).AdmitsAll rest

instance decidableAdmitsAll (ws : Workspace) : (actions : List Action) →
    Decidable (ws.AdmitsAll actions)
  | [] => isTrue trivial
  | action :: rest =>
    have := decidableAdmitsAll (ws.perform action) rest
    inferInstanceAs (Decidable (_ ∧ _ ∧ _))

/-- A session goes on by admitted actions. -/
theorem Reachable.run {ws : Workspace} (reachable : ws.Reachable) {actions : List Action}
    (admits : ws.AdmitsAll actions) : (ws.run actions).Reachable := by
  induction actions generalizing ws with
  | nil => exact reachable
  | cons action rest inductionHypothesis =>
    obtain ⟨admitted, distinct, later⟩ := admits
    exact inductionHypothesis (.performed reachable action admitted distinct) later

/-- The workspaces that a session can come to in which every action is allowed in its turn. -/
inductive ReachableBy (allowed : Workspace → Action → Prop) : Workspace → Prop where
  /-- A session begins without open documents. -/
  | start {collection : TypeCollection} {schema : Schema}
      (declared : Schema.ofCollection collection = .ok schema) (repository : Repository)
      (issue : Nat → Uuid) :
      ReachableBy allowed (Workspace.start schema repository ⟨issue, 0⟩)
  /-- Something is done that is allowed and issues no identifier twice. -/
  | performed {ws : Workspace} (reachable : ReachableBy allowed ws) (action : Action)
      (admits : ws.Admits action) (distinct : (ws.perform action).supply.Distinct)
      (allows : allowed ws action) : ReachableBy allowed (ws.perform action)

section Allowed

variable {allowed : Workspace → Action → Prop}

/-- What is reached by allowed actions is reached. -/
theorem ReachableBy.reachable {ws : Workspace} (reachable : ReachableBy allowed ws) :
    ws.Reachable := by
  induction reachable with
  | start declared repository issue => exact .start declared repository issue
  | performed _ action admits distinct _ inductionHypothesis =>
    exact .performed inductionHypothesis action admits distinct

/-- Each of several actions is allowed in its turn. -/
def AllowsAll (allowed : Workspace → Action → Prop) (ws : Workspace) : List Action → Prop
  | [] => True
  | action :: rest => allowed ws action ∧ AllowsAll allowed (ws.perform action) rest

instance decidableAllowsAll [∀ ws action, Decidable (allowed ws action)] (ws : Workspace) :
    (actions : List Action) → Decidable (AllowsAll allowed ws actions)
  | [] => isTrue trivial
  | action :: rest =>
    have := decidableAllowsAll (ws.perform action) rest
    inferInstanceAs (Decidable (_ ∧ _))

/-- A session goes on by allowed actions. -/
theorem ReachableBy.run {ws : Workspace} (reachable : ReachableBy allowed ws)
    {actions : List Action} (admits : ws.AdmitsAll actions)
    (allows : AllowsAll allowed ws actions) : ReachableBy allowed (ws.run actions) := by
  induction actions generalizing ws with
  | nil => exact reachable
  | cons action rest inductionHypothesis =>
    obtain ⟨admitted, distinct, later⟩ := admits
    exact inductionHypothesis (.performed reachable action admitted distinct allows.1) later allows.2

end Allowed

/-- A session under the built-in schema over an empty store, with numbers for identifiers. -/
def blank : Workspace :=
  start Schema.builtin ⟨⟨latestVersion, some .table, some .index, Table.empty⟩, fun _ => false⟩
    ⟨Uuid.ofNat, 0⟩

/-- A session begins in such a workspace. -/
theorem reachable_blank : blank.Reachable := .start Schema.ofCollection_baseline _ _

end Workspace

end LevelGraph
