import LevelGraph.Proofs.Workspace.Verdict

/-!
# What a resolve leaves as it was

A reference is resolved in one of three ways. It may stand for an open document already, which is
then yielded. Or it is linked to the document at its declared location, which is open there or is
opened for it. A target left over from a document that was closed counts for nothing in this, and
the linked document may be the one that holds the reference.

Whichever way it was, `ResolvedTo` says what is true afterwards. The reference stands for what was
yielded, which is a cell document. At most that one document has been opened. Every document that
was open has the tree, the location and the mark of being clean that it had, and no target has
changed but the one of the reference.
-/

namespace LevelGraph

namespace Workspace

variable {ws after : Workspace} {reference : NodeRef} {target : DocumentId} {location : String}

/-- The documents that are open once a reference has its target. -/
inductive Adds (ws : Workspace) (reference : NodeRef) (target : DocumentId) (after : Workspace) :
    Prop where
  /-- The target was open, and the same documents are open at the same locations. -/
  | held (open_ : ws.documents.contains target = true)
      (documents : ∀ id, after.documents.contains id = ws.documents.contains id)
      (locations : after.locations = ws.locations) : Adds ws reference target after
  /-- The target was not open. It alone has been opened: the stored document at the declared
  location, which is clean. -/
  | loaded {location : String} {doc : Document}
      (declares : ws.declaredLocation reference = .ok location)
      (closed : ws.documents.contains target = false) (found : after.document? target = some doc)
      (stored : ws.loadAt target location = .ok doc) (located : doc.location = location)
      (clean : doc.dirty = false)
      (documents : ∀ id,
        after.documents.contains id = (decide (id = target) || ws.documents.contains id))
      (locations : after.locations = ws.locations.insert location target) :
      Adds ws reference target after

/-- Every document that was open is open with the same tree, location and mark, and with the same
targets but for the one of a reference. -/
def Keeps (ws : Workspace) (reference : NodeRef) (after : Workspace) : Prop :=
  ∀ id doc, ws.document? id = some doc →
    ∃ targets, after.document? id = some { doc with targets := targets } ∧
      ∀ node, (⟨id, node⟩ : NodeRef) ≠ reference → targets.find? node = doc.targets.find? node

/-- What a workspace is once a reference has been resolved. -/
structure ResolvedTo (ws : Workspace) (reference : NodeRef) (target : DocumentId)
    (after : Workspace) : Prop where
  /-- The reference stands for the target. -/
  live : after.liveTarget? reference = some target
  /-- The root of the target has the type of cell documents or one that derives from it. -/
  cell : ∃ doc, after.document? target = some doc ∧ doc.IsCell ws.schema
  /-- At most the target has been opened. -/
  adds : ws.Adds reference target after
  /-- What was open is as it was, but for the target of the reference. -/
  keeps : ws.Keeps reference after
  /-- In particular the document of the reference is stored as before and dirty as before. -/
  own : ∃ doc held, ws.document? reference.document = some doc ∧
    after.document? reference.document = some held ∧
    held.toRecord after.schema = doc.toRecord ws.schema ∧ held.dirty = doc.dirty
  /-- The schema is the same. -/
  schema : after.schema = ws.schema
  /-- The store is the same. -/
  repository : after.repository = ws.repository

/-- A document that is as it was keeps its targets. -/
theorem Keeps.refl (ws : Workspace) (reference : NodeRef) : ws.Keeps reference ws :=
  fun _ doc found => ⟨doc.targets, found, fun _ _ => rfl⟩

/-- What was open at a location is what is open there after opening it; otherwise the stored
document is opened, which was not open before. -/
theorem adds_of_openAt (sound : ws.Sound) (distinct : (ws.openAt location).after.supply.Distinct)
    (declares : ws.declaredLocation reference = .ok location)
    (placed : (ws.openAt location).after.documentAt? location = some target) :
    ws.Adds reference target (ws.openAt location).after := by
  cases before : ws.documentAt? location with
  | some id =>
    rw [openAt_of_placed before] at placed ⊢
    rw [before, Option.some.injEq] at placed
    subst placed
    obtain ⟨doc, found, -⟩ := sound.indexed before
    exact .held ((Table.contains_iff _ _).mpr ⟨doc, found⟩) (fun _ => rfl) rfl
  | none =>
    cases loaded : ws.loadAt ws.supply.next location with
    | error error =>
      rw [openAt_of_unloadable before loaded] at placed
      change ws.documentAt? location = some target at placed
      rw [before] at placed
      cases placed
    | ok doc =>
      obtain ⟨events, opening⟩ := openAt_of_loadable before loaded
      obtain ⟨identified, located, -, clean, -⟩ := loadAt_spec loaded
      rw [opening] at distinct placed ⊢
      rw [documentAt?_register, if_pos located.symm, Option.some.injEq] at placed
      subst placed
      have absent := sound.document?_next distinct
      rw [← identified] at absent loaded
      have found : ({ ws with supply := ws.supply.advance }.register doc).document? doc.id =
          some doc := by
        rw [document?_register, if_pos rfl]
      apply Adds.loaded declares ((Table.not_contains_iff _ _).mpr absent) found loaded located clean
      · exact fun id => Table.contains_insert ws.documents doc.id id doc
      · rw [← located]
        rfl

/-- Replacing a document that was open opens none. -/
theorem Adds.replace (adds : ws.Adds reference target after) {id : DocumentId} {doc changed : Document}
    (found : ws.document? id = some doc) : ws.Adds reference target (after.replace id changed) := by
  have same (other : DocumentId) :
      (after.replace id changed).documents.contains other = after.documents.contains other := by
    rw [Bool.eq_iff_iff, Table.contains_iff, Table.contains_iff]
    exact exists_document?_replace
  cases adds with
  | held open_ documents locations =>
    exact .held open_ (fun other => (same other).trans (documents other)) locations
  | loaded declares closed foundTarget stored located clean documents locations =>
    have apart : target ≠ id := by
      rintro rfl
      have absent : ws.document? target = none := (Table.not_contains_iff _ _).mp closed
      rw [absent] at found
      cases found
    have stillFound : (after.replace id changed).document? target = some _ :=
      (document?_replace ..).trans ((if_neg apart).trans foundTarget)
    exact .loaded declares closed stillFound stored located clean
      (fun other => (same other).trans (documents other)) locations

/-- Linking changes one target in one document. -/
theorem keeps_of_linked {doc : Document} (found : after.document? reference.document = some doc)
    (stays : ∀ {id held}, ws.document? id = some held → after.document? id = some held) :
    ws.Keeps reference (after.replace reference.document
      { doc with targets := doc.targets.insert reference.node target }) := by
  intro id held before
  have still := stays before
  by_cases own : id = reference.document
  · subst own
    rw [found, Option.some.injEq] at still
    subst still
    refine ⟨_, document?_replace_self found _, fun node other => ?_⟩
    rw [Table.find?_insert, if_neg]
    rintro rfl
    exact other rfl
  · refine ⟨held.targets, ?_, fun _ _ => rfl⟩
    rw [document?_replace, if_neg own]
    exact still

/-- What is open after a resolve that succeeded, and how it relates to what was open before.

Proof: a reference that stands for a document changes nothing, and its target is a cell document by
the invariant. Otherwise opening adds at most the target and changes no document, and linking adds
none and changes one target. -/
theorem adds_and_keeps_of_resolve (sound : ws.Sound)
    (distinct : (ws.resolve reference).after.supply.Distinct)
    (done : (ws.resolve reference).result = .ok target) :
    (∃ doc, (ws.resolve reference).after.document? target = some doc ∧ doc.IsCell ws.schema) ∧
      ws.Adds reference target (ws.resolve reference).after ∧
      ws.Keeps reference (ws.resolve reference).after ∧
      ws.documents.contains reference.document = true ∧
      (ws.resolve reference).after.schema = ws.schema ∧
      (ws.resolve reference).after.repository = ws.repository := by
  have resolves := resolve_resolves sound distinct
  generalize ws.resolve reference = outcome at distinct done resolves ⊢
  cases resolves with
  | live live =>
    cases done
    obtain ⟨doc, found, targeted, held, heldFound⟩ := liveTarget?_eq_some_iff.mp live
    refine ⟨⟨held, heldFound, sound.targetCell found targeted heldFound⟩, ?_, Keeps.refl _ _, ?_,
      rfl, rfl⟩
    · exact .held ((Table.contains_iff _ _).mpr ⟨held, heldFound⟩) (fun _ => rfl) rfl
    · exact (Table.contains_iff _ _).mpr ⟨doc, found⟩
  | refused => cases done
  | @linked location _ doc idle declares placed cell found =>
    cases done
    change (ws.openAt location).after.supply.Distinct at distinct
    have opens := ws.openAt_opens location
    obtain ⟨own, ownFound, -⟩ := declaredLocation_eq_ok_iff.mp declares
    have sameSchema := opens.schema
    refine ⟨?cell, ?adds, ?keeps, (Table.contains_iff _ _).mpr ⟨own, ownFound⟩, sameSchema,
      ?repository⟩
    case cell =>
      obtain ⟨held, heldFound, isCell⟩ := isCellDocument_iff.mp cell
      rw [sameSchema] at isCell
      by_cases own : target = reference.document
      · subst own
        rw [found, Option.some.injEq] at heldFound
        subst heldFound
        exact ⟨_, document?_replace_self found _, isCell⟩
      · exact ⟨held, (document?_replace ..).trans ((if_neg own).trans heldFound), isCell⟩
    case adds => exact (adds_of_openAt sound distinct declares placed).replace ownFound
    case keeps => exact keeps_of_linked found fun before => opens.stays sound distinct before
    case repository =>
      change (ws.openAt location).after.repository = ws.repository
      generalize ws.openAt location = opening at opens
      cases opens <;> rfl

/-- A reference is resolved: it stands for the document yielded, a cell document, which may have
been opened for it from its declared location and is clean then. Nothing else is opened or closed,
no document changes but in the target of the reference, and the store is the same. To resolve the
reference again yields the same document and changes nothing. -/
theorem resolve_settles (reachable : ws.Reachable)
    (distinct : (ws.resolve reference).after.supply.Distinct)
    (done : (ws.resolve reference).result = .ok target) :
    ws.ResolvedTo reference target (ws.resolve reference).after ∧
      (ws.resolve reference).after.resolve reference =
        ⟨.ok target, (ws.resolve reference).after, []⟩ := by
  have sound := reachable.sound
  obtain ⟨cell, adds, keeps, open_, schema, repository⟩ := adds_and_keeps_of_resolve sound distinct done
  have live : (ws.resolve reference).after.liveTarget? reference = some target := by
    rw [liveTarget?_resolve sound distinct, if_pos rfl, done]
    rfl
  refine ⟨⟨live, cell, adds, keeps, ?own, schema, repository⟩, ?again⟩
  case own =>
    obtain ⟨doc, found⟩ := (Table.contains_iff _ _).mp open_
    obtain ⟨targets, foundAfter, -⟩ := keeps _ _ found
    refine ⟨doc, _, found, foundAfter, ?_, rfl⟩
    rw [schema]
    rfl
  case again =>
    generalize (ws.resolve reference).after = after at live ⊢
    simp only [resolve, live]

/-- A cell document holds a reference that declares the location of the document itself. -/
def selfReferringActions : List Action :=
  [.create "a.cell" ⟨3⟩,
    .edit (Uuid.ofNat 1) (.append (Uuid.ofNat 0) Names.cellChild ⟨2⟩ (Uuid.ofNat 10)),
    .edit (Uuid.ofNat 1) (.setAttribute (Uuid.ofNat 10) Names.uriAttribute "a.cell"),
    .save (Uuid.ofNat 1)]

/-- Such a reference is resolved to the document that it is in. And one whose target was closed is
resolved to the document that is opened for it. -/
theorem resolve_settles_self_and_dangling :
    (blank.run selfReferringActions).ResolvedTo ⟨Uuid.ofNat 1, Uuid.ofNat 10⟩ (Uuid.ofNat 1)
      ((blank.run selfReferringActions).resolve ⟨Uuid.ofNat 1, Uuid.ofNat 10⟩).after ∧
    (blank.run (referringActions ++ [.resolve referring, .close (Uuid.ofNat 1)])).ResolvedTo
      referring (Uuid.ofNat 4)
      ((blank.run (referringActions ++ [.resolve referring, .close (Uuid.ofNat 1)])).resolve
        referring).after := by
  have self : (blank.run selfReferringActions).Reachable := reachable_blank.run (by decide +kernel)
  have dangling :
      (blank.run (referringActions ++ [.resolve referring, .close (Uuid.ofNat 1)])).Reachable :=
    reachable_blank.run (by decide +kernel)
  exact ⟨(resolve_settles self (by decide +kernel) (by decide +kernel)).1,
    (resolve_settles dangling (by decide +kernel) (by decide +kernel)).1⟩

end Workspace

end LevelGraph
