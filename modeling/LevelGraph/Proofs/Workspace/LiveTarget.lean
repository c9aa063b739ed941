import LevelGraph.Proofs.Workspace.GameSave
import LevelGraph.Proofs.Workspace.Index
import LevelGraph.Proofs.Workspace.Resolving

/-!
# The life of a link

A reference stands for an open document or for none. For each operation there is one lemma that
says what a reference stands for afterwards. Opening, creating and saving leave that alone,
resolving decides it for its own reference, closing and editing take it away and never give it.
A sweep is a series of resolves, and what an earlier one linked a later one keeps.

`Turn` puts these together: it lists the ways in which an action can change what a reference
stands for, and there is none from one document to another. A target that was closed is never
stood for again, because its identifier is never used again; another document at the same
location has another one.
-/

namespace LevelGraph

namespace Workspace

variable {ws : Workspace} {reference : NodeRef} {target : DocumentId}

/-- A reference stands for a document that is its target and open. -/
theorem liveTarget?_eq_some_iff :
    ws.liveTarget? reference = some target ↔
      ∃ doc, ws.document? reference.document = some doc ∧
        doc.target? reference.node = some target ∧ ∃ held, ws.document? target = some held := by
  unfold liveTarget?
  rw [Option.filter_eq_some_iff, Option.bind_eq_some_iff, Table.contains_iff]
  constructor
  · rintro ⟨⟨doc, found, targeted⟩, held⟩
    exact ⟨doc, found, targeted, held⟩
  · rintro ⟨doc, found, targeted, held⟩
    exact ⟨⟨doc, found, targeted⟩, held⟩

/-- A document opened under a new identifier neither has targets nor is one. -/
theorem liveTarget?_opened (sound : ws.Sound) (distinct : ws.supply.advance.Distinct)
    {doc : Document} (identified : doc.id = ws.supply.next) (untargeted : doc.targets = Table.empty)
    (reference : NodeRef) :
    ({ ws with supply := ws.supply.advance }.register doc).liveTarget? reference =
      ws.liveTarget? reference := by
  have absent := sound.document?_next distinct
  rw [← identified] at absent
  refine Option.ext fun target => ?_
  rw [liveTarget?_eq_some_iff, liveTarget?_eq_some_iff]
  constructor
  · rintro ⟨held, found, targeted, cell, cellFound⟩
    rw [document?_register] at found cellFound
    split at found
    · cases found
      rw [Document.target?, untargeted, Table.find?_empty] at targeted
      cases targeted
    · split at cellFound
      · next same =>
        have issued := sound.targetIssued found targeted
        rw [same, identified] at issued
        exact absurd issued distinct.not_issued_next
      · exact ⟨held, found, targeted, cell, cellFound⟩
  · rintro ⟨held, found, targeted, cell, cellFound⟩
    exact ⟨held, document?_register_of_found absent found, targeted, cell,
      document?_register_of_found absent cellFound⟩

/-- Opening a location changes nothing of what references stand for: a new document has a new identifier
and no targets. -/
theorem liveTarget?_openAt (sound : ws.Sound) {location : String}
    (distinct : (ws.openAt location).after.supply.Distinct) (reference : NodeRef) :
    (ws.openAt location).after.liveTarget? reference = ws.liveTarget? reference := by
  have opens := ws.openAt_opens location
  generalize ws.openAt location = outcome at distinct opens ⊢
  cases opens with
  | held => rfl
  | refused => rfl
  | loaded free identified located untargeted =>
    exact liveTarget?_opened sound distinct identified untargeted reference

/-- Nor does creating a document. -/
theorem liveTarget?_create (sound : ws.Sound) {location : String} {rootType : TypeId}
    (distinct : (ws.create location rootType).after.supply.Distinct) (reference : NodeRef) :
    (ws.create location rootType).after.liveTarget? reference = ws.liveTarget? reference := by
  unfold create at distinct ⊢
  split at distinct
  · next used => rw [if_pos used]; rfl
  · next unused =>
    rw [if_neg unused]
    have drawn : ({ ws with supply := ws.supply.advance } : Workspace).Sound :=
      sound.of_same_documents ws.repository ws.supply.precedes_advance
    exact liveTarget?_opened drawn distinct rfl rfl reference

/-- Saving leaves every document as it is, but for whether it is clean. -/
theorem sameDocuments_saveTo (ws : Workspace) (id : DocumentId) (location : String) :
    ws.SameDocuments (ws.saveTo id location).after := by
  cases found : ws.document? id with
  | none =>
    simp only [saveTo, found, fail]
    exact .refl ws
  | some doc =>
    obtain ⟨succeeds, refused⟩ := saveTo_spec found location
    by_cases writable : ws.repository.Writable location
    · exact (succeeds writable).2.2
    · rw [(refused writable).2]
      exact .refl ws

/-- Saving a document opens none and closes none. -/
theorem sameDocuments_save (ws : Workspace) (id : DocumentId) :
    ws.SameDocuments (ws.save id).after := by
  unfold save
  split
  · exact .refl ws
  · exact ws.sameDocuments_saveTo id _

/-- Nor does a save sweep. -/
theorem sameDocuments_saveSweep (ws : Workspace) (game : NodeRef) :
    ws.SameDocuments (ws.saveSweep game).after := by
  unfold saveSweep
  split
  · exact .refl ws
  · exact (swept_saveEach game.document _ ws).same

/-- Nor does saving a game with its cells. -/
theorem sameDocuments_saveGame (ws : Workspace) (game : DocumentId) :
    ws.SameDocuments (ws.saveGame game).after := by
  have own := ws.sameDocuments_save game
  unfold saveGame
  dsimp only
  split
  · exact own
  · split
    · exact own
    · exact own.trans (sameDocuments_saveSweep _ _)

section Replacing

variable {id : DocumentId} {doc changed : Document}

/-- Replacing a document opens and closes none. -/
theorem exists_document?_replace {other : DocumentId} :
    (∃ held, (ws.replace id changed).document? other = some held) ↔
      ∃ held, ws.document? other = some held := by
  rw [document?_replace]
  split
  · simp
  · rfl

/-- The references of other documents stand for what they stood for. -/
theorem liveTarget?_replace_other (other : reference.document ≠ id) :
    (ws.replace id changed).liveTarget? reference = ws.liveTarget? reference := by
  refine Option.ext fun target => ?_
  rw [liveTarget?_eq_some_iff, liveTarget?_eq_some_iff, document?_replace, if_neg other,
    exists_document?_replace]

/-- The references of a replaced document stand for the targets of the new one. -/
theorem liveTarget?_replace (found : ws.document? reference.document = some doc) :
    (ws.replace reference.document changed).liveTarget? reference = some target ↔
      changed.target? reference.node = some target ∧ ∃ held, ws.document? target = some held := by
  rw [liveTarget?_eq_some_iff, document?_replace_self found changed, exists_document?_replace]
  simp only [Option.some.injEq, exists_eq_left']

/-- Once a node is linked, its reference stands for the document that it was linked to, and every
other reference for what it stood for. -/
theorem liveTarget?_linked (found : ws.document? reference.document = some doc)
    (open_ : ∃ held, ws.document? target = some held) (other : NodeRef) :
    (ws.replace reference.document
        { doc with targets := doc.targets.insert reference.node target }).liveTarget? other =
      if other = reference then some target else ws.liveTarget? other := by
  by_cases here : other.document = reference.document
  · rw [← here] at found ⊢
    refine Option.ext fun wanted => ?_
    rw [liveTarget?_replace found, Document.target?, Table.find?_insert]
    by_cases sameNode : other.node = reference.node
    · have same : other = reference := by
        cases other
        cases reference
        simp_all
      rw [if_pos sameNode, if_pos same]
      refine and_iff_left_of_imp fun isTarget => ?_
      cases isTarget
      exact open_
    · have different : other ≠ reference := fun same => sameNode (congrArg NodeRef.node same)
      rw [if_neg sameNode, if_neg different, liveTarget?_eq_some_iff, found]
      simp only [Option.some.injEq, exists_eq_left', Document.target?]
  · have different : other ≠ reference := fun same => here (congrArg NodeRef.document same)
    rw [if_neg different, liveTarget?_replace_other here]

end Replacing

/-- After a reference was resolved, it stands for what the resolve yielded, and for nothing if it
failed. Every other reference stands for what it stood for. -/
theorem liveTarget?_resolve (sound : ws.Sound)
    (distinct : (ws.resolve reference).after.supply.Distinct) (other : NodeRef) :
    (ws.resolve reference).after.liveTarget? other =
      if other = reference then (ws.resolve reference).result.toOption
      else ws.liveTarget? other := by
  have resolves := resolve_resolves sound distinct
  generalize ws.resolve reference = outcome at distinct resolves ⊢
  cases resolves with
  | live live =>
    split
    · next same => rw [same, live]; rfl
    · rfl
  | refused idle =>
    split
    · next same => rw [same]; exact idle
    · rfl
  | @linked location target doc idle declares placed cell found =>
    obtain ⟨held, heldFound, -⟩ := isCellDocument_iff.mp cell
    change (ws.openAt location).after.supply.Distinct at distinct
    rw [liveTarget?_linked found ⟨held, heldFound⟩, liveTarget?_openAt sound distinct]
    rfl

/-- After a document was closed, no reference of it and no reference to it stands for anything. -/
theorem liveTarget?_close (id : DocumentId) :
    (ws.close id).after.liveTarget? reference = some target ↔
      ws.liveTarget? reference = some target ∧ reference.document ≠ id ∧ target ≠ id := by
  rw [liveTarget?_eq_some_iff, liveTarget?_eq_some_iff]
  cases closing : ws.document? id with
  | none =>
    have unchanged : (ws.close id).after = ws := by simp only [close, closing]
    rw [unchanged, iff_self_and]
    rintro ⟨doc, found, -, held, heldFound⟩
    constructor
    · rintro rfl
      rw [closing] at found
      cases found
    · rintro rfl
      rw [closing] at heldFound
      cases heldFound
  | some closed =>
    rw [document?_close closing, document?_close closing]
    by_cases own : reference.document = id
    · simp [own]
    · by_cases isTarget : target = id
      · simp [isTarget]
      · simp [own, isTarget]

/-- After an edit that links nothing, a reference stands for what it stood for, unless the edit
dropped its node. -/
theorem liveTarget?_edit (sound : ws.Sound) {id : DocumentId} {edit : Edit}
    (unlinked : edit.links = false) :
    (ws.edit id edit).liveTarget? reference = some target ↔
      ws.liveTarget? reference = some target ∧
        ¬ (reference.document = id ∧
          ∃ doc, ws.document? id = some doc ∧ doc.Drops edit reference.node) := by
  unfold Workspace.edit
  cases found : ws.document? id with
  | none => simp
  | some doc =>
    dsimp only
    by_cases own : reference.document = id
    · subst own
      rw [liveTarget?_replace found, liveTarget?_eq_some_iff, found,
        Document.target?_after (sound.arises found).sound unlinked]
      simp only [Option.some.injEq, exists_eq_left', true_and]
      rw [and_right_comm]
    · rw [liveTarget?_replace_other own]
      simp [own]

/-- In the course of an action a reference is resolved, the workspace being the second one at that
moment: the action is to resolve it, or a load sweep comes to it after earlier references. -/
inductive Calls (ws : Workspace) (reference : NodeRef) : Action → Workspace → Prop where
  /-- The reference is resolved by itself. -/
  | directly : Calls ws reference (.resolve reference) ws
  /-- A load sweep resolves the reference. -/
  | swept {game : NodeRef} {earlier later : List (NodeId × Option String)}
      {location : Option String} (sameDocument : game.document = reference.document)
      (cells : ws.cellsOf? game = some (earlier ++ (reference.node, location) :: later)) :
      Calls ws reference (.loadSweep game) (resolveEach game.document earlier ws).after

/-- A reference keeps what it stands for through a load sweep. -/
theorem liveTarget?_resolveEach_of_live (sound : ws.Sound) (document : DocumentId)
    (cells : List (NodeId × Option String))
    (distinct : (resolveEach document cells ws).after.supply.Distinct)
    (live : ws.liveTarget? reference = some target) :
    (resolveEach document cells ws).after.liveTarget? reference = some target := by
  induction cells generalizing ws with
  | nil => exact live
  | cons cell rest inductionHypothesis =>
    rw [after_resolveEach_cons] at distinct ⊢
    have here : (ws.resolve ⟨document, cell.1⟩).after.supply.Distinct :=
      distinct.earlier (Steps.keeps (resolveEach_steps _ document rest)).2
    refine inductionHypothesis (sound.steps (ws.resolve_steps _) here) distinct ?_
    rw [liveTarget?_resolve sound here]
    split
    · next same =>
      subst same
      simp only [Workspace.resolve, live, Except.toOption]
    · exact live

/-- A reference that a sweep resolves with success stands for the document yielded at its end. -/
theorem liveTarget?_resolveEach_of_resolved (sound : ws.Sound)
    {earlier later : List (NodeId × Option String)} {location : Option String}
    (distinct : (resolveEach reference.document (earlier ++ (reference.node, location) :: later)
      ws).after.supply.Distinct)
    (done : ((resolveEach reference.document earlier ws).after.resolve reference).result =
      .ok target) :
    (resolveEach reference.document (earlier ++ (reference.node, location) :: later)
      ws).after.liveTarget? reference = some target := by
  rw [after_resolveEach_append, after_resolveEach_cons] at distinct ⊢
  have resolvedDistinct := distinct.earlier (Steps.keeps (resolveEach_steps _ _ later)).2
  have startDistinct := resolvedDistinct.earlier (Steps.keeps (resolve_steps _ reference)).2
  have startSound := sound.steps (ws.resolveEach_steps _ earlier) startDistinct
  have resolvedSound := startSound.steps (resolve_steps _ reference) resolvedDistinct
  refine liveTarget?_resolveEach_of_live resolvedSound _ later distinct ?_
  rw [liveTarget?_resolve startSound resolvedDistinct, if_pos rfl]
  exact congrArg Except.toOption done

/-- If a reference comes to stand for a document in a load sweep, that is because the sweep came to
the reference while it stood for none, and resolved it to that document.

Proof: induction on the references. If the first resolve links the reference, it stands for the
same document until the end of the sweep. -/
theorem liveTarget?_resolveEach_of_idle (sound : ws.Sound) (document : DocumentId)
    (cells : List (NodeId × Option String))
    (distinct : (resolveEach document cells ws).after.supply.Distinct)
    (idle : ws.liveTarget? reference = none)
    (live : (resolveEach document cells ws).after.liveTarget? reference = some target) :
    ∃ earlier location later, document = reference.document ∧
      cells = earlier ++ (reference.node, location) :: later ∧
      (resolveEach document earlier ws).after.liveTarget? reference = none ∧
      ((resolveEach document earlier ws).after.resolve reference).result = .ok target := by
  induction cells generalizing ws with
  | nil =>
    change ws.liveTarget? reference = some target at live
    rw [idle] at live
    cases live
  | cons cell rest inductionHypothesis =>
    rw [after_resolveEach_cons] at distinct live
    have here : (ws.resolve ⟨document, cell.1⟩).after.supply.Distinct :=
      distinct.earlier (Steps.keeps (resolveEach_steps _ document rest)).2
    have soundThen := sound.steps (ws.resolve_steps _) here
    have resolved := liveTarget?_resolve sound here reference
    cases linked : (ws.resolve ⟨document, cell.1⟩).after.liveTarget? reference with
    | none =>
      obtain ⟨earlier, location, later, own, listed, stillIdle, done⟩ :=
        inductionHypothesis soundThen distinct linked live
      refine ⟨cell :: earlier, location, later, own, by rw [listed, List.cons_append], ?_⟩
      rw [after_resolveEach_cons]
      exact ⟨stillIdle, done⟩
    | some first =>
      have final := liveTarget?_resolveEach_of_live soundThen document rest distinct linked
      rw [live, Option.some.injEq] at final
      subst final
      rw [linked] at resolved
      split at resolved
      · next same =>
        refine ⟨[], cell.2, rest, by rw [same], by rw [same]; rfl, idle, ?_⟩
        rw [same]
        cases result : (ws.resolve ⟨document, cell.1⟩).result with
        | error =>
          rw [result] at resolved
          cases resolved
        | ok yielded =>
          rw [result] at resolved
          cases resolved
          exact result
      · rw [idle] at resolved
        cases resolved

/-- A value that is there under a condition only is the same or is lost against the condition. -/
theorem same_or_lost {α : Type} {before after : Option α} {keeps : α → Prop}
    (kept : ∀ value, after = some value ↔ before = some value ∧ keeps value) :
    after = before ∨ ∃ value, before = some value ∧ after = none ∧ ¬ keeps value := by
  cases was : before with
  | none =>
    refine .inl (Option.eq_none_iff_forall_ne_some.mpr fun value is => ?_)
    rw [kept, was] at is
    cases is.1
  | some value =>
    by_cases keep : keeps value
    · exact .inl ((kept value).mpr ⟨was, keep⟩)
    · refine .inr ⟨value, rfl, Option.eq_none_iff_forall_ne_some.mpr fun other is => ?_, keep⟩
      obtain ⟨same, keepOther⟩ := (kept other).mp is
      rw [was, Option.some.injEq] at same
      exact keep (same ▸ keepOther)

/-- An action takes a link away: it closes the target or the document of the reference, or it
removes its node or one above it. -/
def Unlinks (ws : Workspace) (reference : NodeRef) (target : DocumentId) (action : Action) : Prop :=
  action = .close target ∨ action = .close reference.document ∨
    ∃ edit doc, action = .edit reference.document edit ∧
      ws.document? reference.document = some doc ∧ doc.Drops edit reference.node

/-- How an action can change what a reference stands for. -/
inductive Turn (ws : Workspace) (reference : NodeRef) (action : Action) :
    Option DocumentId → Option DocumentId → Prop where
  /-- It does not. -/
  | same (held : Option DocumentId) : Turn ws reference action held held
  /-- The reference stood for none and was resolved. -/
  | resolved {middle : Workspace} {target : DocumentId} (calls : ws.Calls reference action middle)
      (idle : middle.liveTarget? reference = none)
      (done : (middle.resolve reference).result = .ok target) :
      Turn ws reference action none (some target)
  /-- The reference stood for a document and the link was taken away. -/
  | unlinked {target : DocumentId} (unlinks : ws.Unlinks reference target action) :
      Turn ws reference action (some target) none

/-- Whatever is done with a sound workspace, references turn only as `Turn` says. -/
theorem turn_of_perform (sound : ws.Sound) {action : Action} (admits : ws.Admits action)
    (distinct : (ws.perform action).supply.Distinct) (reference : NodeRef) :
    ws.Turn reference action (ws.liveTarget? reference)
      ((ws.perform action).liveTarget? reference) := by
  have unchanged {held : Option DocumentId} (kept : held = ws.liveTarget? reference) :
      ws.Turn reference action (ws.liveTarget? reference) held := by
    rw [kept]
    exact .same _
  cases action with
  | create location rootType => exact unchanged (liveTarget?_create sound distinct reference)
  | openAt location => exact unchanged (liveTarget?_openAt sound distinct reference)
  | save id => exact unchanged ((ws.sameDocuments_save id).liveTarget? reference)
  | saveTo id location =>
    exact unchanged ((ws.sameDocuments_saveTo id location).liveTarget? reference)
  | saveSweep game => exact unchanged ((ws.sameDocuments_saveSweep game).liveTarget? reference)
  | saveGame game => exact unchanged ((ws.sameDocuments_saveGame game).liveTarget? reference)
  | changeStore repository => exact unchanged rfl
  | close id =>
    change ws.Turn reference _ _ ((ws.close id).after.liveTarget? reference)
    rcases same_or_lost (fun target => ws.liveTarget?_close id) with same | ⟨target, live, idle, lost⟩
    · exact unchanged same
    · rw [live, idle]
      refine .unlinked ?_
      by_cases own : reference.document = id
      · exact .inr (.inl (by rw [own]))
      · refine .inl ?_
        have isTarget : target = id := Classical.byContradiction fun other => lost ⟨own, other⟩
        rw [isTarget]
  | resolve other =>
    change (ws.resolve other).after.supply.Distinct at distinct
    change ws.Turn reference _ _ ((ws.resolve other).after.liveTarget? reference)
    have resolved := liveTarget?_resolve sound distinct reference
    split at resolved
    · next same =>
      subst same
      rw [resolved]
      cases live : ws.liveTarget? reference with
      | some target =>
        simp only [Workspace.resolve, live, Except.toOption]
        exact .same _
      | none =>
        cases result : (ws.resolve reference).result with
        | error => exact .same _
        | ok target => exact .resolved .directly live result
    · exact unchanged resolved
  | loadSweep game =>
    change (ws.loadSweep game).after.supply.Distinct at distinct
    change ws.Turn reference _ _ ((ws.loadSweep game).after.liveTarget? reference)
    cases listed : ws.cellsOf? game with
    | none => exact unchanged (by simp only [loadSweep, listed])
    | some cells =>
      have after : (ws.loadSweep game).after = (resolveEach game.document cells ws).after := by
        simp only [loadSweep, listed]
      rw [after] at distinct ⊢
      cases live : ws.liveTarget? reference with
      | some target =>
        rw [liveTarget?_resolveEach_of_live sound _ _ distinct live]
        exact .same _
      | none =>
        cases final : (resolveEach game.document cells ws).after.liveTarget? reference with
        | none => exact .same _
        | some target =>
          obtain ⟨earlier, location, later, own, split_, idle, done⟩ :=
            liveTarget?_resolveEach_of_idle sound _ _ distinct live final
          rw [split_] at listed
          exact .resolved (.swept own listed) idle done
  | edit id edit =>
    change ws.Turn reference _ _ ((ws.edit id edit).liveTarget? reference)
    rcases same_or_lost (fun target => liveTarget?_edit sound admits.1) with
      same | ⟨target, live, idle, lost⟩
    · exact unchanged same
    · rw [live, idle]
      obtain ⟨own, doc, found, drops⟩ := Classical.not_not.mp lost
      subst own
      exact .unlinked (.inr (.inr ⟨edit, doc, rfl, found, drops⟩))

/-- A document that is not open is stood for by no reference. -/
theorem liveTarget?_ne_of_closed (closed : ws.document? target = none) (reference : NodeRef) :
    ws.liveTarget? reference ≠ some target := by
  intro live
  obtain ⟨-, -, -, held, found⟩ := liveTarget?_eq_some_iff.mp live
  rw [closed] at found
  cases found

/-- A reference that an action resolves with success stands for the document yielded. -/
theorem liveTarget?_of_calls (sound : ws.Sound) {action : Action} {middle : Workspace}
    (distinct : (ws.perform action).supply.Distinct) (calls : ws.Calls reference action middle)
    (done : (middle.resolve reference).result = .ok target) :
    (ws.perform action).liveTarget? reference = some target := by
  cases calls with
  | directly =>
    change (ws.resolve reference).after.supply.Distinct at distinct
    change (ws.resolve reference).after.liveTarget? reference = some target
    rw [liveTarget?_resolve sound distinct, if_pos rfl]
    exact congrArg Except.toOption done
  | @swept game earlier later location sameDocument cells =>
    change (ws.loadSweep game).after.supply.Distinct at distinct
    change (ws.loadSweep game).after.liveTarget? reference = some target
    simp only [loadSweep, cells, sameDocument] at distinct done ⊢
    exact liveTarget?_resolveEach_of_resolved sound distinct done

/-- After an action that unlinks it, a reference stands for no document. -/
theorem liveTarget?_of_unlinks (sound : ws.Sound) {action : Action} (admits : ws.Admits action)
    (live : ws.liveTarget? reference = some target) (unlinks : ws.Unlinks reference target action) :
    (ws.perform action).liveTarget? reference = none := by
  refine Option.eq_none_iff_forall_ne_some.mpr fun other liveAfter => ?_
  rcases unlinks with rfl | rfl | ⟨edit, doc, rfl, found, drops⟩
  · obtain ⟨was, -, different⟩ := (ws.liveTarget?_close target).mp liveAfter
    rw [live, Option.some.injEq] at was
    exact different was.symm
  · obtain ⟨-, different, -⟩ := (ws.liveTarget?_close reference.document).mp liveAfter
    exact different rfl
  · obtain ⟨-, spared⟩ := (liveTarget?_edit sound admits.1).mp liveAfter
    exact spared ⟨rfl, doc, found, drops⟩

/-- The life of a link, in any session. A reference that stands for no document comes to stand for
one exactly when it is resolved with success, by itself or in a load sweep. One that stands for a
document comes to stand for none exactly when that document or its own is closed, or when its
node or one above it is removed. It never passes from one document to another in one action. And
a document that is closed, be it by that action or in passing, is never stood for again, whatever
is done later and whatever is open then at its location. -/
theorem life_of_link (reachable : ws.Reachable) {action : Action} (admits : ws.Admits action)
    (distinct : (ws.perform action).supply.Distinct) :
    (∀ reference target, ws.liveTarget? reference = none →
      ((ws.perform action).liveTarget? reference = some target ↔
        ∃ middle, ws.Calls reference action middle ∧ middle.liveTarget? reference = none ∧
          (middle.resolve reference).result = .ok target)) ∧
    (∀ reference target, ws.liveTarget? reference = some target →
      ((ws.perform action).liveTarget? reference = none ↔ ws.Unlinks reference target action)) ∧
    (∀ reference target other, ws.liveTarget? reference = some target →
      (ws.perform action).liveTarget? reference = some other → other = target) ∧
    (∀ target, ws.documents.contains target = true ∨ (ws.perform action).supply.Issued target →
      (ws.perform action).documents.contains target = false →
      ∀ actions, (ws.perform action).AdmitsAll actions →
        ∀ reference, ((ws.perform action).run actions).liveTarget? reference ≠ some target) := by
  have sound := reachable.sound
  have turn := turn_of_perform sound admits distinct
  refine ⟨?comes, ?goes, ?stays, ?never⟩
  case comes =>
    intro reference target idle
    constructor
    · intro live
      have turned := turn reference
      rw [idle, live] at turned
      cases turned with
      | resolved calls middleIdle done => exact ⟨_, calls, middleIdle, done⟩
    · rintro ⟨middle, calls, -, done⟩
      exact liveTarget?_of_calls sound distinct calls done
  case goes =>
    intro reference target live
    constructor
    · intro idle
      have turned := turn reference
      rw [live, idle] at turned
      cases turned with
      | unlinked unlinks => exact unlinks
    · exact liveTarget?_of_unlinks sound admits live
  case stays =>
    intro reference target other live liveAfter
    have turned := turn reference
    rw [live, liveAfter] at turned
    cases turned with
    | same => rfl
  case never =>
    intro target known closed actions later reference
    have issued : (ws.perform action).supply.Issued target := by
      rcases known with open_ | drawn
      · obtain ⟨doc, found⟩ := (Table.contains_iff _ _).mp open_
        exact (sound.issued found).later (Steps.keeps (perform_steps admits)).2
      · exact drawn
    have closed_ := (Table.not_contains_iff _ _).mp closed
    exact liveTarget?_ne_of_closed (run_stays_closed later issued closed_) reference

/-- A game refers to a stored cell document that is open. -/
def referringActions : List Action :=
  [.create "a.cell" ⟨3⟩, .save (Uuid.ofNat 1), .create "level.game" ⟨0⟩,
    .edit (Uuid.ofNat 3) (.append (Uuid.ofNat 2) Names.placementsFolderChild ⟨1⟩ (Uuid.ofNat 10)),
    .edit (Uuid.ofNat 3) (.append (Uuid.ofNat 10) Names.cellChild ⟨2⟩ (Uuid.ofNat 11)),
    .edit (Uuid.ofNat 3) (.setAttribute (Uuid.ofNat 11) Names.uriAttribute "a.cell")]

/-- The reference of that game. -/
def referring : NodeRef := ⟨Uuid.ofNat 3, Uuid.ofNat 11⟩

/-- The reference comes to stand for the cell document by being resolved. When that is closed and
its location opened again, the reference comes to stand for another document, and none stands for
the closed one. -/
theorem life_of_link_reopened :
    (∃ middle, (blank.run referringActions).Calls referring (.resolve referring) middle ∧
      middle.liveTarget? referring = none ∧
      (middle.resolve referring).result = .ok (Uuid.ofNat 1)) ∧
    (((blank.run (referringActions ++ [.resolve referring])).perform (.close (Uuid.ofNat 1))).run
      [.openAt "a.cell", .resolve referring]).liveTarget? referring = some (Uuid.ofNat 4) ∧
    ∀ reference,
      (((blank.run (referringActions ++ [.resolve referring])).perform (.close (Uuid.ofNat 1))).run
        [.openAt "a.cell", .resolve referring]).liveTarget? reference ≠ some (Uuid.ofNat 1) := by
  have before : (blank.run referringActions).Reachable := reachable_blank.run (by decide +kernel)
  have after : (blank.run (referringActions ++ [.resolve referring])).Reachable :=
    reachable_blank.run (by decide +kernel)
  obtain ⟨comes, -⟩ := life_of_link before (show Admits _ (.resolve referring) from trivial)
    (by decide +kernel)
  obtain ⟨-, -, -, never⟩ := life_of_link after (show Admits _ (.close (Uuid.ofNat 1)) from trivial)
    (by decide +kernel)
  refine ⟨(comes referring (Uuid.ofNat 1) (by decide +kernel)).mp (by decide +kernel),
    by decide +kernel, ?_⟩
  exact never (Uuid.ofNat 1) (.inl (by decide +kernel)) (by decide +kernel) _ (by decide +kernel)

end Workspace

end LevelGraph
