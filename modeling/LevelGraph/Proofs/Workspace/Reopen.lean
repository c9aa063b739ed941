import LevelGraph.Proofs.Document.Alike
import LevelGraph.Proofs.Repositories
import LevelGraph.Proofs.Workspace.Reachable

/-!
# Saving and opening again

A save stores the document's record and otherwise changes no more than whether a document
is clean. Opening a location where a document's record is stored gives a document with
the same record, provided the record's brackets stay within the reader's limit. There is
no such limit when saving, so a document that nests deeper can be saved but never opened
again; `openAt_stored` has both cases.
-/

namespace LevelGraph

namespace Workspace

/-- Two workspaces have the same documents open, up to which of them are clean. -/
structure SameDocuments (ws after : Workspace) : Prop where
  /-- The schemas agree. -/
  schema : after.schema = ws.schema
  /-- The same documents are open at the same locations. -/
  locations : after.locations = ws.locations
  /-- The supplies agree. -/
  supply : after.supply = ws.supply
  /-- The documents agree up to being clean. -/
  documents : ∀ id, (after.document? id).map Document.markClean =
    (ws.document? id).map Document.markClean

/-- A workspace has its own documents. -/
theorem SameDocuments.refl (ws : Workspace) : ws.SameDocuments ws := ⟨rfl, rfl, rfl, fun _ => rfl⟩

/-- Documents that stay the same twice, up to being clean, stay the same. -/
theorem SameDocuments.trans {first second third : Workspace} (earlier : first.SameDocuments second)
    (later : second.SameDocuments third) : first.SameDocuments third :=
  ⟨later.schema.trans earlier.schema, later.locations.trans earlier.locations,
    later.supply.trans earlier.supply, fun id => (later.documents id).trans (earlier.documents id)⟩

variable {ws after : Workspace}

/-- A document that is open before is open afterwards, clean or not. -/
theorem SameDocuments.document? (same : ws.SameDocuments after) {id : DocumentId} {doc : Document}
    (found : ws.document? id = some doc) :
    ∃ held, after.document? id = some held ∧ held.markClean = doc.markClean := by
  have agree := same.documents id
  rw [found, Option.map_some] at agree
  exact Option.map_eq_some_iff.mp agree

/-- Which of two workspaces comes first makes no difference to that. -/
theorem SameDocuments.symm (same : ws.SameDocuments after) : after.SameDocuments ws :=
  ⟨same.schema.symm, same.locations.symm, same.supply.symm, fun id => (same.documents id).symm⟩

/-- Being clean has no part in a record. -/
theorem toRecord_of_markClean {doc held : Document} (same : held.markClean = doc.markClean)
    (schema : Schema) : held.toRecord schema = doc.toRecord schema := by
  change held.markClean.toRecord schema = doc.markClean.toRecord schema
  rw [same]

/-- What a save does. Where documents can be saved it stores the record, elsewhere it
changes nothing. -/
theorem saveTo_spec {id : DocumentId} {doc : Document} (found : ws.document? id = some doc)
    (location : String) :
    (ws.repository.Writable location →
      (ws.saveTo id location).result = .ok () ∧
      (ws.saveTo id location).after.repository =
        ws.repository.put location (doc.toRecord ws.schema) ∧
      ws.SameDocuments (ws.saveTo id location).after) ∧
    (¬ ws.repository.Writable location →
      (∃ error, (ws.saveTo id location).result = .error error) ∧
      (ws.saveTo id location).after = ws) := by
  constructor
  · intro writable
    have saved := Repository.save_of_writable writable (doc.toRecord ws.schema)
    simp only [saveTo, found, saved]
    refine ⟨trivial, ?_, ?_⟩
    · split <;> rfl
    · split
      · refine ⟨rfl, rfl, rfl, fun other => ?_⟩
        rw [document?_replace]
        split
        · next same =>
          subst same
          change ((ws.document? other).map fun _ => doc.markClean).map _ = _
          rw [found]
          rfl
        · rfl
      · exact ⟨rfl, rfl, rfl, fun _ => rfl⟩
  · intro closed
    cases saved : ws.repository.save location (doc.toRecord ws.schema) with
    | ok repository => exact absurd (Repository.writable_of_save saved).1 closed
    | error error =>
      simp only [saveTo, found, saved]
      exact ⟨⟨_, rfl⟩, trivial⟩

/-- A document that was saved was open, and documents can be saved where it was. -/
theorem saveTo_ok {id : DocumentId} {location : String}
    (saved : (ws.saveTo id location).result = .ok ()) :
    ∃ doc, ws.document? id = some doc ∧ ws.repository.Writable location := by
  cases found : ws.document? id with
  | none =>
    simp only [saveTo, found, fail] at saved
    cases saved
  | some doc =>
    refine ⟨doc, rfl, Classical.byContradiction fun closed => ?_⟩
    obtain ⟨⟨error, failed⟩, -⟩ := (saveTo_spec found location).2 closed
    rw [failed] at saved
    cases saved

/-- A document is saved at its own location. -/
theorem save_eq_saveTo {id : DocumentId} {doc : Document} (found : ws.document? id = some doc) :
    ws.save id = ws.saveTo id doc.location := by
  simp only [save, found]

/-- A document that was saved at its own location was open, and documents can be saved there. -/
theorem save_ok {id : DocumentId} (saved : (ws.save id).result = .ok ()) :
    ∃ doc, ws.document? id = some doc ∧ ws.repository.Writable doc.location := by
  cases found : ws.document? id with
  | none =>
    simp only [save, found, fail] at saved
    cases saved
  | some doc =>
    rw [save_eq_saveTo found] at saved
    obtain ⟨-, -, writable⟩ := saveTo_ok saved
    exact ⟨doc, rfl, writable⟩

/-- What opening a location does where the record of a document is stored.

Proof: the body is read as the record, whose types are declared and whose identifiers are
distinct because the document is sound, so it can be laid out again, and the record of what
is laid out is the record itself. -/
theorem openAt_stored {doc : Document} (sound : doc.Sound) (named : ws.schema.DistinctNames)
    (declared : doc.Declared ws.schema) {location : String} (free : ws.documentAt? location = none)
    (visible : Text.isBlankText location = false)
    (body : ws.repository.database.readBody location =
      .ok (some (doc.toRecord ws.schema).stored)) :
    ((doc.toRecord ws.schema).nesting ≤ Json.maxDepth →
      ∃ opened, ws.openAt location =
          ⟨.ok opened.id, { ws with supply := ws.supply.advance }.register opened,
            [.documentOpened location (doc.toRecord ws.schema).nodeCount]⟩ ∧
        opened.id = ws.supply.next ∧ opened.location = location ∧ opened.targets = Table.empty ∧
        opened.Sound ∧ opened.Declared ws.schema ∧
        opened.toRecord ws.schema = doc.toRecord ws.schema) ∧
    (¬ (doc.toRecord ws.schema).nesting ≤ Json.maxDepth →
      ws.openAt location = ws.fail (.repository (.encoding .malformed))) := by
  obtain ⟨-, -, ordered, pruned, distinct, -⟩ := sound.record ws.schema
  have loaded := Repository.load_of_readBody visible ordered body
  constructor
  · intro fits
    obtain ⟨opened, laid⟩ := Document.ofRecord_ok ws.supply.next location ordered
      (sound.declares named declared) distinct
    obtain ⟨identified, located, -, untargeted, -⟩ := Document.represents_of_ofRecord ordered laid
    refine ⟨opened, ?_, identified, located, untargeted, Document.sound_of_ofRecord ordered laid,
      Document.declared_of_ofRecord laid,
      (Document.toRecord_of_ofRecord ordered laid).trans pruned⟩
    rw [if_pos fits] at loaded
    simp only [openAt, free, loaded, laid]
  · intro deep
    rw [if_neg deep] at loaded
    simp only [openAt, free, loaded]

/-- Save a document, close it and open the location where it was. -/
def reopen (ws : Workspace) (id : DocumentId) (location : String) :
    Outcome (Except WorkspaceError DocumentId) :=
  ((ws.save id).after.close id).after.openAt location

/-- A document that was saved and closed is opened again with the record that was saved,
exactly where the record's brackets stay within the reader's limit. Deeper, its location
has a body that the reader refuses. -/
theorem reopen_of_save (reachable : ws.Reachable) {id : DocumentId} {doc : Document}
    (found : ws.document? id = some doc) (declared : doc.Declared ws.schema)
    (saved : (ws.save id).result = .ok ()) :
    ((doc.toRecord ws.schema).nesting ≤ Json.maxDepth →
      ∃ opened, (ws.reopen id doc.location).result = .ok opened.id ∧
        (ws.reopen id doc.location).after.document? opened.id = some opened ∧
        opened.location = doc.location ∧
        opened.toRecord ws.schema = doc.toRecord ws.schema) ∧
    (Json.maxDepth < (doc.toRecord ws.schema).nesting →
      (ws.reopen id doc.location).result = .error (.repository (.encoding .malformed))) := by
  have sound := reachable.sound
  rw [save_eq_saveTo found] at saved
  obtain ⟨-, -, writable⟩ := saveTo_ok saved
  obtain ⟨-, stored, same⟩ := (saveTo_spec found doc.location).1 writable
  obtain ⟨held, heldFound, sameDoc⟩ := same.document? found
  obtain ⟨sameSchema, sameStore, -⟩ := (ws.saveTo id doc.location).after.close_after id
  have schema : ((ws.saveTo id doc.location).after.close id).after.schema = ws.schema :=
    sameSchema.trans same.schema
  have free : ((ws.saveTo id doc.location).after.close id).after.documentAt? doc.location = none := by
    have sameLocation : doc.location = held.location := (congrArg Document.location sameDoc).symm
    rw [documentAt?_close heldFound, if_pos sameLocation]
  have body : ((ws.saveTo id doc.location).after.close id).after.repository.database.readBody
      doc.location = .ok (some (doc.toRecord ws.schema).stored) := by
    rw [sameStore, stored, Repository.readBody_put writable.table, if_pos rfl]
  rw [reopen, save_eq_saveTo found]
  generalize ((ws.saveTo id doc.location).after.close id).after = closed at schema free body ⊢
  rw [← schema] at body declared ⊢
  obtain ⟨whole, refused⟩ := openAt_stored (sound.arises found).sound (schema ▸ sound.named) declared
    free writable.visible body
  constructor
  · intro fits
    obtain ⟨opened, opening, -, located, -, -, -, sameRecord⟩ := whole fits
    rw [opening]
    exact ⟨opened, rfl, by rw [document?_register, if_pos rfl], located, sameRecord⟩
  · intro deep
    rw [refused (Nat.not_le_of_gt deep)]
    rfl

/-- The edits that hang a chain of so many nodes below a root. -/
def chainEdits (levels : Nat) : List Edit :=
  (List.range levels).map fun level =>
    .append (Uuid.ofNat level) Names.terrainChild ⟨0⟩ (Uuid.ofNat (level + 1))

/-- What is done to come to a document with such a chain. -/
def chainActions (levels : Nat) : List Action :=
  .create "chain.level" ⟨0⟩ :: (chainEdits levels).map (.edit (Uuid.ofNat 1))

/-- The document with such a chain. -/
def chainDocument (levels : Nat) : Document :=
  (chainEdits levels).foldl Document.after
    (Document.create (Uuid.ofNat 1) (Uuid.ofNat 0) "chain.level" ⟨0⟩)

/-- A chain of forty-two nodes comes back, one of forty-three is saved and cannot be opened. -/
theorem reopen_chain :
    (((blank.run (chainActions 42)).save (Uuid.ofNat 1)).result = .ok () ∧
      ∃ opened,
        ((blank.run (chainActions 42)).reopen (Uuid.ofNat 1) (chainDocument 42).location).result =
          .ok opened.id ∧
        ((blank.run (chainActions 42)).reopen (Uuid.ofNat 1)
          (chainDocument 42).location).after.document? opened.id = some opened ∧
        opened.location = (chainDocument 42).location ∧
        opened.toRecord (blank.run (chainActions 42)).schema =
          (chainDocument 42).toRecord (blank.run (chainActions 42)).schema) ∧
    ((blank.run (chainActions 43)).save (Uuid.ofNat 1)).result = .ok () ∧
    ((blank.run (chainActions 43)).reopen (Uuid.ofNat 1) (chainDocument 43).location).result =
      .error (.repository (.encoding .malformed)) := by
  have shallowSaved : ((blank.run (chainActions 42)).save (Uuid.ofNat 1)).result = .ok () :=
    by decide +kernel
  have shallow : (blank.run (chainActions 42)).document? (Uuid.ofNat 1) = some (chainDocument 42) := by
    decide +kernel
  have deepSaved : ((blank.run (chainActions 43)).save (Uuid.ofNat 1)).result = .ok () :=
    by decide +kernel
  have deep : (blank.run (chainActions 43)).document? (Uuid.ofNat 1) = some (chainDocument 43) := by
    decide +kernel
  exact ⟨⟨shallowSaved, (reopen_of_save (reachable_blank.run (by decide +kernel)) shallow
      (by decide +kernel) shallowSaved).1 (by decide +kernel)⟩,
    deepSaved, (reopen_of_save (reachable_blank.run (by decide +kernel)) deep (by decide +kernel)
      deepSaved).2 (by decide +kernel)⟩

end Workspace

end LevelGraph
