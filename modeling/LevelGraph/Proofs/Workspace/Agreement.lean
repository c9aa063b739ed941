import LevelGraph.Proofs.Document.Represent
import LevelGraph.Proofs.Document.Veiled
import LevelGraph.Proofs.Stored
import LevelGraph.Proofs.Workspace.Mirror

/-!
# Workspaces that agree but for the values of attributes

Two workspaces agree when they have the same schema and the same supply of identifiers, and when
the same documents are open and stored, but for the values of attributes other than the location.

Open documents are compared under the veil. Stored bodies are texts, and so they are compared by
the records that they are written from. Of two records that agree both are read back, or neither is,
because both are as deep.

Whatever is looked up in a workspace to decide what an operation does is the same in both. What
changes a workspace, done in both, keeps them in agreement.
-/

namespace LevelGraph

/-- Two results are the same error, or their values are related. -/
inductive ResultRel {ε α : Type} (related : α → α → Prop) : Except ε α → Except ε α → Prop where
  /-- Both failed in the same way. -/
  | error (error : ε) : ResultRel related (.error error) (.error error)
  /-- Both succeeded. -/
  | ok {value other : α} (values : related value other) : ResultRel related (.ok value) (.ok other)

/-- Related results, one by one. -/
theorem ResultRel.inv {ε α : Type} {related : α → α → Prop} {result other : Except ε α}
    (rel : ResultRel related result other) :
    (∃ error, result = .error error ∧ other = .error error) ∨
      ∃ value held, result = .ok value ∧ other = .ok held ∧ related value held := by
  cases rel with
  | error error => exact .inl ⟨error, rfl, rfl⟩
  | ok values => exact .inr ⟨_, _, rfl, rfl, values⟩

/-- Results are related that become the same when their values are changed. -/
theorem resultRel_of_map_eq {ε α β : Type} {change : α → β} {result other : Except ε α}
    (same : other.map change = result.map change) :
    ResultRel (fun value held => change held = change value) result other := by
  cases result with
  | error error =>
    cases other with
    | error =>
      cases same
      exact .error error
    | ok => cases same
  | ok value =>
    cases other with
    | error => cases same
    | ok held => exact .ok (Except.ok.inj same)

section Stores

/-- Two bodies are the same, or the texts of records that differ under the veil only. -/
inductive StoredBody.Agrees : StoredBody → StoredBody → Prop where
  /-- The bodies are the same. -/
  | same (body : StoredBody) : Agrees body body
  /-- Each is the text of a record. -/
  | recorded {record other : NodeRecord} (ordered : record.Ordered) (otherOrdered : other.Ordered)
      (veiled : other.veiled = record.veiled) : Agrees (.text record.stored) (.text other.stored)

/-- Two rows agree. -/
structure Row.Agrees (row other : Row) : Prop where
  /-- The roots have the same type. -/
  rootType : other.rootType = row.rootType
  /-- The bodies agree. -/
  body : row.body.Agrees other.body

/-- Two repositories agree at every location. -/
structure Repository.Agrees (repository other : Repository) : Prop where
  /-- The same locations are closed. -/
  closed : other.closed = repository.closed
  /-- The layouts are of the same version. -/
  version : other.database.version = repository.database.version
  /-- The same stands under the name of the documents table. -/
  documents : other.database.documents = repository.database.documents
  /-- The same stands under the name of the index. -/
  index : other.database.index = repository.database.index
  /-- The same locations have rows, and these agree. -/
  rows : ∀ location, Option.Rel Row.Agrees (repository.database.rows.find? location)
    (other.database.rows.find? location)

/-- A row agrees with itself. -/
theorem Row.Agrees.refl (row : Row) : row.Agrees row := ⟨rfl, .same _⟩

/-- A repository agrees with itself, row by row. -/
theorem Repository.Agrees.refl (repository : Repository) : repository.Agrees repository := by
  refine ⟨rfl, rfl, rfl, rfl, fun location => ?_⟩
  cases repository.database.rows.find? location with
  | none => exact .none
  | some row => exact .some (.refl row)

variable {repository other : Repository}

/-- Where repositories agree, bodies are read that agree. -/
theorem Repository.Agrees.readBody (agrees : repository.Agrees other) (location : String) :
    ResultRel (Option.Rel fun body other => StoredBody.Agrees (.text body) (.text other))
      (repository.database.readBody location) (other.database.readBody location) := by
  have rows := agrees.rows location
  unfold Database.readBody
  rw [agrees.documents]
  split
  · generalize repository.database.rows.find? location = row at rows ⊢
    generalize other.database.rows.find? location = otherRow at rows ⊢
    cases rows with
    | none => exact .ok .none
    | @some row otherRow rowAgrees =>
      obtain ⟨_, body⟩ := row
      obtain ⟨_, otherBody⟩ := otherRow
      obtain ⟨-, bodies⟩ := rowAgrees
      cases bodies with
      | same =>
        cases body with
        | text content => exact .ok (.some (.same _))
        | blob => exact .error _
        | illFormed fault => exact .error _
      | recorded ordered otherOrdered veiled =>
        exact .ok (.some (.recorded ordered otherOrdered veiled))
  · exact .error _
  · exact .error _
  · exact .error _

/-- The texts of bodies that agree are both read, as records that agree, or both refused. -/
theorem ofStored_of_agrees {text other : String}
    (agrees : StoredBody.Agrees (.text text) (.text other)) :
    ResultRel (fun record other => other.veiled = record.veiled) (NodeRecord.ofStored text)
      (NodeRecord.ofStored other) := by
  cases agrees with
  | same =>
    cases NodeRecord.ofStored text with
    | error fault => exact .error fault
    | ok record => exact .ok rfl
  | @recorded record other ordered otherOrdered veiled =>
    have nesting : other.nesting = record.nesting := by
      rw [← other.nesting_veiled, veiled, record.nesting_veiled]
    rw [NodeRecord.ofStored_stored ordered, NodeRecord.ofStored_stored otherOrdered, nesting]
    split
    · exact .ok veiled
    · exact .error _

/-- Repositories that agree load records that agree. -/
theorem Repository.Agrees.load (agrees : repository.Agrees other) (location : String) :
    ResultRel (Option.Rel fun record other => other.veiled = record.veiled)
      (repository.load location) (other.load location) := by
  unfold Repository.load
  split
  · exact .error _
  · obtain ⟨fault, failed, otherFailed⟩ | ⟨body, otherBody, read, otherRead, bodies⟩ :=
      (agrees.readBody location).inv
    · rw [failed, otherFailed]
      exact .error _
    · rw [read, otherRead]
      cases bodies with
      | none => exact .ok .none
      | some texts =>
        obtain ⟨fault, failed, otherFailed⟩ | ⟨record, otherRecord, decoded, otherDecoded, veiled⟩ :=
          (ofStored_of_agrees texts).inv
        · simp only [failed, otherFailed]
          exact .error _
        · simp only [decoded, otherDecoded]
          exact .ok (.some veiled)

/-- Records that agree are both saved, and the repositories still agree, or both refused. -/
theorem Repository.Agrees.save (agrees : repository.Agrees other) (location : String)
    {record otherRecord : NodeRecord} (ordered : record.Ordered)
    (otherOrdered : otherRecord.Ordered) (veiled : otherRecord.veiled = record.veiled) :
    ResultRel Repository.Agrees (repository.save location record)
      (other.save location otherRecord) := by
  have typeName : otherRecord.typeName = record.typeName := by
    rw [← otherRecord.typeName_veiled, veiled, record.typeName_veiled]
  unfold Repository.save Database.writeRow
  rw [agrees.closed, agrees.documents]
  split
  · exact .error _
  · cases repository.database.documents with
    | none => exact .error _
    | some object =>
      cases object with
      | bareTable => exact .error _
      | view => exact .error _
      | table =>
        by_cases accepted : Database.accepts location = true
        · simp only [if_pos accepted]
          refine .ok ⟨rfl, agrees.version, rfl, agrees.index, fun wanted => ?_⟩
          rw [Table.find?_insert, Table.find?_insert]
          split
          · exact .some ⟨typeName, .recorded ordered otherOrdered veiled⟩
          · exact agrees.rows wanted
        · simp only [if_neg accepted]
          exact .error _

end Stores

/-- Two workspaces agree. -/
structure Workspace.Agrees (ws other : Workspace) : Prop where
  /-- The schemas are the same. -/
  schema : other.schema = ws.schema
  /-- The supplies of identifiers are the same. -/
  supply : other.supply = ws.supply
  /-- The same documents are open at the same locations. -/
  locations : other.locations = ws.locations
  /-- The open documents are the same under the veil. -/
  documents : other.documents.map Document.veiled = ws.documents.map Document.veiled
  /-- The repositories agree. -/
  repository : ws.repository.Agrees other.repository

namespace Document

variable {doc other : Document} (same : other.veiled = doc.veiled)

include same

/-- Documents that are the same under the veil have one identifier. -/
theorem id_of_veiled_eq : other.id = doc.id :=
  (congrArg Document.id same : other.veiled.id = doc.veiled.id)

/-- They have one location. -/
theorem location_of_veiled_eq : other.location = doc.location :=
  (congrArg Document.location same : other.veiled.location = doc.veiled.location)

/-- They have one root. -/
theorem root_of_veiled_eq : other.root = doc.root :=
  (congrArg Document.root same : other.veiled.root = doc.veiled.root)

/-- They have the same targets, which are no attributes. -/
theorem targets_of_veiled_eq : other.targets = doc.targets :=
  (congrArg Document.targets same : other.veiled.targets = doc.veiled.targets)

/-- They may both be declared stored. -/
theorem markClean_of_veiled_eq : other.markClean.veiled = doc.markClean.veiled :=
  (congrArg Document.markClean same : other.veiled.markClean = doc.veiled.markClean)

/-- Documents that are the same under the veil make records that are. -/
theorem toRecord_of_veiled_eq (schema : Schema) :
    (other.toRecord schema).veiled = (doc.toRecord schema).veiled := by
  rw [← toRecord_veiled, same, toRecord_veiled]

omit same in
/-- Records that are the same under the veil are laid out as documents that are. -/
theorem ofRecord_of_veiled_eq {record other : NodeRecord} (veiled : other.veiled = record.veiled)
    (id : DocumentId) (location : String) (schema : Schema) :
    ResultRel (fun doc other => other.veiled = doc.veiled) (ofRecord id location record schema)
      (ofRecord id location other schema) := by
  apply resultRel_of_map_eq
  rw [← ofRecord_veiled, veiled, ofRecord_veiled]

/-- Their roots are of one type. -/
theorem rootType?_of_veiled_eq : other.rootType? = doc.rootType? := by
  rw [← rootType?_veiled, same, rootType?_veiled]

/-- Their nodes are of the same types. -/
theorem adaptsTo_of_veiled_eq (schema : Schema) (id : NodeId) (tag : TypeId) :
    other.adaptsTo schema id tag = doc.adaptsTo schema id tag := by
  rw [← adaptsTo_veiled, same, adaptsTo_veiled]

/-- Their references declare the same locations. -/
theorem uri_of_veiled_eq (id : NodeId) :
    other.attribute? id Names.uriAttribute = doc.attribute? id Names.uriAttribute := by
  rw [← uri_veiled, same, uri_veiled]

/-- They refer to the same cells. -/
theorem gameCells?_of_veiled_eq (schema : Schema) (id : NodeId) :
    other.gameCells? schema id = doc.gameCells? schema id := by
  rw [← gameCells?_veiled, same, gameCells?_veiled]

/-- A node can be linked in both or in none. -/
theorem setTarget_of_veiled_eq (id : NodeId) (target : DocumentId) :
    ResultRel (fun doc other => other.veiled = doc.veiled) (doc.setTarget id target)
      (other.setTarget id target) := by
  apply resultRel_of_map_eq
  rw [← setTarget_veiled, same, setTarget_veiled]

end Document

namespace Workspace

variable {ws other : Workspace}

/-- A workspace agrees with itself. -/
theorem Agrees.refl (ws : Workspace) : ws.Agrees ws := ⟨rfl, rfl, rfl, rfl, .refl _⟩

namespace Agrees

section Looking

variable (agrees : ws.Agrees other)

include agrees

/-- The same documents are open, and they are the same under the veil. -/
theorem document? (id : DocumentId) :
    (ws.document? id = none ∧ other.document? id = none) ∨
      ∃ doc held, ws.document? id = some doc ∧ other.document? id = some held ∧
        held.veiled = doc.veiled := by
  have same := congrArg (Table.find? · id) agrees.documents
  simp only [Table.find?_map] at same
  cases found : ws.documents.find? id with
  | none =>
    rw [found, Option.map_none, Option.map_eq_none_iff] at same
    exact .inl ⟨found, same⟩
  | some doc =>
    rw [found, Option.map_some, Option.map_eq_some_iff] at same
    obtain ⟨held, heldFound, veiled⟩ := same
    exact .inr ⟨doc, held, found, heldFound, veiled⟩

/-- The same documents are open. -/
theorem contains (id : DocumentId) : other.documents.contains id = ws.documents.contains id := by
  rw [← Table.contains_map Document.veiled, agrees.documents, Table.contains_map]

/-- They are open at the same locations. -/
theorem documentAt? (location : String) : other.documentAt? location = ws.documentAt? location :=
  congrArg (Table.find? · location) agrees.locations

/-- References stand for the same documents. -/
theorem liveTarget? (reference : NodeRef) :
    other.liveTarget? reference = ws.liveTarget? reference := by
  unfold Workspace.liveTarget?
  rw [funext agrees.contains]
  obtain ⟨absent, otherAbsent⟩ | ⟨doc, held, found, otherFound, veiled⟩ :=
    agrees.document? reference.document
  · rw [absent, otherAbsent]
  · rw [found, otherFound, Option.bind_some, Option.bind_some, Document.target?,
      Document.targets_of_veiled_eq veiled, Document.target?]

/-- They declare the same locations, or fail for the same reason. -/
theorem declaredLocation (reference : NodeRef) :
    other.declaredLocation reference = ws.declaredLocation reference := by
  unfold Workspace.declaredLocation
  obtain ⟨absent, otherAbsent⟩ | ⟨doc, held, found, otherFound, veiled⟩ :=
    agrees.document? reference.document
  · rw [absent, otherAbsent]
  · simp only [found, otherFound, Document.cellReference?, agrees.schema,
      Document.adaptsTo_of_veiled_eq veiled, Document.uri_of_veiled_eq veiled]
    by_cases adapts :
        doc.adaptsTo ws.schema reference.node ws.schema.tags.placementsCellReference = true
    · simp only [if_pos adapts]
    · simp only [if_neg adapts]

/-- Roots are of the same types. -/
theorem rootType? (id : DocumentId) : other.rootType? id = ws.rootType? id := by
  unfold Workspace.rootType?
  obtain ⟨absent, otherAbsent⟩ | ⟨doc, held, found, otherFound, veiled⟩ := agrees.document? id
  · rw [absent, otherAbsent]
  · rw [found, otherFound]
    exact Document.rootType?_of_veiled_eq veiled

/-- The same documents are cell documents. -/
theorem isCellDocument (id : DocumentId) : other.isCellDocument id = ws.isCellDocument id := by
  rw [Workspace.isCellDocument, agrees.rootType?, agrees.schema, Workspace.isCellDocument]

/-- Their types are told by the same names. -/
theorem rootTypeName (id : DocumentId) : other.rootTypeName id = ws.rootTypeName id := by
  rw [Workspace.rootTypeName, agrees.rootType?, agrees.schema, Workspace.rootTypeName]

/-- Games list the same references in the same order. -/
theorem cellsOf? (game : NodeRef) : other.cellsOf? game = ws.cellsOf? game := by
  rw [cellsOf?_eq, cellsOf?_eq]
  obtain ⟨absent, otherAbsent⟩ | ⟨doc, held, found, otherFound, veiled⟩ :=
    agrees.document? game.document
  · rw [absent, otherAbsent]
    rfl
  · rw [found, otherFound, agrees.schema]
    exact Document.gameCells?_of_veiled_eq veiled ws.schema game.node

end Looking

section Changing

variable (agrees : ws.Agrees other)

include agrees

/-- The same document is opened in both, under the veil. -/
theorem register {doc held : Document} (veiled : held.veiled = doc.veiled) :
    (ws.register doc).Agrees (other.register held) := by
  have id := Document.id_of_veiled_eq veiled
  have location := Document.location_of_veiled_eq veiled
  refine ⟨agrees.schema, agrees.supply, ?_, ?_, agrees.repository⟩
  · simp only [Workspace.register, id, location, agrees.locations]
  · simp only [Workspace.register, Table.map_insert, id, veiled, agrees.documents]

/-- A document is replaced by the same one in both, under the veil. -/
theorem replace (id : DocumentId) {doc held : Document} (veiled : held.veiled = doc.veiled) :
    (ws.replace id doc).Agrees (other.replace id held) := by
  refine ⟨agrees.schema, agrees.supply, agrees.locations, ?_, agrees.repository⟩
  have changed (doc : Document) (table : Table DocumentId Document) :
      (table.modify id fun _ => doc).map Document.veiled =
        (table.map Document.veiled).modify id fun _ => doc.veiled :=
    Table.map_modify _ _ _ fun _ => rfl
  simp only [Workspace.replace, changed, veiled, agrees.documents]

/-- The same identifiers are issued in both. -/
theorem issue {supply otherSupply : IdSupply} (same : otherSupply = supply) :
    Workspace.Agrees { ws with supply := supply } { other with supply := otherSupply } :=
  ⟨agrees.schema, same, agrees.locations, agrees.documents, agrees.repository⟩

/-- Both go on over other repositories, which agree. -/
theorem store {repository otherRepository : Repository}
    (repositories : repository.Agrees otherRepository) :
    Workspace.Agrees { ws with repository := repository }
      { other with repository := otherRepository } :=
  ⟨agrees.schema, agrees.supply, agrees.locations, agrees.documents, repositories⟩

end Changing

end Agrees

end Workspace

end LevelGraph
