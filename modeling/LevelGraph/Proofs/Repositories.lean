import LevelGraph.Proofs.Stored
import LevelGraph.Store.Repository

/-!
# Laws of the repository

Whether a record can be saved at a location is a matter of the location and of the
database's layout alone, not of the record or of anything saved before. A saved record's
text is the body at its location, and no other body changes. Loading reads a body as the
stored form says, so what was saved is loaded again unless it nests too deep.
-/

namespace LevelGraph

/-- A written row's text is the body at its location, and no other body changes. -/
theorem Database.readBody_of_rows {db : Database} (table : db.documents = some .table)
    (location : String) (row : Row) (content : String) (text : row.body = .text content)
    (other : String) :
    ({ db with rows := db.rows.insert location row } : Database).readBody other =
      if other = location then .ok (some content) else db.readBody other := by
  by_cases same : other = location
  · simp only [readBody, table, Table.find?_insert, if_pos same, text]
  · simp only [readBody, table, Table.find?_insert, if_neg same]

namespace Repository

/-- Whether documents can be saved at the location. -/
structure Writable (repository : Repository) (location : String) : Prop where
  /-- The location is open. -/
  open_ : repository.closed location = false
  /-- The location is not blank. -/
  visible : Text.isBlankText location = false
  /-- There is a table of documents. -/
  table : repository.database.documents = some .table
  /-- The table's check lets the location through. -/
  accepted : Database.accepts location = true

/-- The repository with a record stored at a location. -/
def put (repository : Repository) (location : String) (record : NodeRecord) : Repository :=
  { repository with
    database := { repository.database with
      rows := repository.database.rows.insert location ⟨record.typeName, .text record.stored⟩ } }

variable {repository : Repository} {location : String}

/-- Where documents can be saved, the record is stored. -/
theorem save_of_writable (writable : repository.Writable location) (record : NodeRecord) :
    repository.save location record = .ok (repository.put location record) := by
  simp [save, Database.writeRow, writable.open_, writable.visible, writable.table,
    writable.accepted, put]

/-- A successful save shows that documents can be saved there, and has stored the record. -/
theorem writable_of_save {record : NodeRecord} {saved : Repository}
    (done : repository.save location record = .ok saved) :
    repository.Writable location ∧ saved = repository.put location record := by
  unfold save at done
  split at done
  · cases done
  · next allowed =>
    rw [not_or, Bool.not_eq_true, Bool.not_eq_true] at allowed
    split at done
    · cases done
    · next database written =>
      unfold Database.writeRow at written
      split at written
      · next table =>
        split at written
        · next accepted =>
          cases written
          cases done
          exact ⟨⟨allowed.1, allowed.2, table, accepted⟩, rfl⟩
        · cases written
      · cases written
      · cases written
      · cases written

/-- A save that is refused is refused for any record, and after other saves as before. -/
theorem save_error {record other : NodeRecord} {error : RepositoryError} {changed : Repository}
    (sameClosed : changed.closed = repository.closed)
    (sameLayout : changed.database.documents = repository.database.documents)
    (failed : repository.save location record = .error error) :
    changed.save location other = .error error := by
  unfold save Database.writeRow at failed ⊢
  rw [sameClosed, sameLayout]
  split at failed
  · next refused => rw [if_pos refused, failed]
  · next allowed =>
    rw [if_neg allowed]
    cases layout : repository.database.documents with
    | none =>
      rw [layout] at failed
      exact failed
    | some kind =>
      rw [layout] at failed
      cases kind with
      | table =>
        by_cases accepted : Database.accepts location = true
        · rw [if_pos accepted] at failed
          cases failed
        · rw [if_neg accepted] at failed ⊢
          exact failed
      | bareTable => exact failed
      | view => exact failed

/-- Why nothing can be saved at a location, if so: what a save of any record there says. -/
def refusal? (repository : Repository) (location : String) : Option RepositoryError :=
  match repository.save location default with
  | .error error => some error
  | .ok _ => none

/-- A save is refused or stores its record. -/
theorem save_eq (repository : Repository) (location : String) (record : NodeRecord) :
    repository.save location record =
      match repository.refusal? location with
      | some error => .error error
      | none => .ok (repository.put location record) := by
  unfold refusal?
  cases tried : repository.save location default with
  | error error => exact save_error rfl rfl tried
  | ok saved => exact save_of_writable (writable_of_save tried).1 record

/-- Documents can be saved at a location where no save is refused. -/
theorem writable_iff : repository.Writable location ↔ repository.refusal? location = none := by
  unfold refusal?
  constructor
  · intro writable
    rw [save_of_writable writable]
  · intro open_
    split at open_
    · cases open_
    · next done => exact (writable_of_save done).1

instance (repository : Repository) (location : String) : Decidable (repository.Writable location) :=
  decidable_of_iff _ writable_iff.symm

/-- A save changes no refusal. -/
theorem refusal?_put (record : NodeRecord) (other : String) :
    (repository.put location record).refusal? other = repository.refusal? other := by
  unfold refusal?
  cases tried : repository.save other default with
  | error error =>
    have sameClosed : (repository.put location record).closed = repository.closed := rfl
    rw [save_error sameClosed rfl tried]
  | ok saved =>
    have writable := (writable_of_save tried).1
    have still : (repository.put location record).Writable other :=
      ⟨writable.open_, writable.visible, writable.table, writable.accepted⟩
    rw [save_of_writable still]

/-- Saving changes nothing about where documents can be saved. -/
theorem writable_put (record : NodeRecord) (other : String) :
    (repository.put location record).Writable other ↔ repository.Writable other :=
  ⟨fun writable => ⟨writable.open_, writable.visible, writable.table, writable.accepted⟩,
    fun writable => ⟨writable.open_, writable.visible, writable.table, writable.accepted⟩⟩

/-- A saved record's text is the body at its location, and no other body changes. -/
theorem readBody_put (table : repository.database.documents = some .table) (record : NodeRecord)
    (other : String) :
    (repository.put location record).database.readBody other =
      if other = location then .ok (some record.stored)
      else repository.database.readBody other :=
  Database.readBody_of_rows table location _ _ rfl other

/-- Loading reads the body as a stored record. -/
theorem load_of_readBody (visible : Text.isBlankText location = false) {record : NodeRecord}
    (ordered : record.Ordered)
    (body : repository.database.readBody location = .ok (some record.stored)) :
    repository.load location =
      if record.nesting ≤ Json.maxDepth then .ok (some record)
      else .error (.encoding .malformed) := by
  simp only [load, visible, Bool.false_eq_true, if_false, body, NodeRecord.ofStored_stored ordered]
  by_cases fits : record.nesting ≤ Json.maxDepth
  · simp only [if_pos fits]
  · simp only [if_neg fits]

end Repository

end LevelGraph
