import LevelGraph.Proofs.Workspace.LiveTarget

/-!
# The verdict on a reference

Whether a reference can be resolved, and with what error if not, is settled before anything is
opened: by what it stands for, by what it declares and by the type of the root that is found at
the declared location. That root is the one of the document open there, and otherwise the one of
the stored document. The identifier under which a stored document is opened has no part in it.

`verdict` computes this from the workspace as it is, and `resolve_verdict` says that resolving
ends accordingly. `Joins` names the references that stand for nothing and would be linked.
-/

namespace LevelGraph

/-- Whether a root of this type is the root of a cell document. -/
def Schema.isCellRoot (schema : Schema) : Option TypeId → Bool
  | some type => schema.isAssignableFrom schema.tags.placementsDocument type
  | none => false

/-- The name of a root's type. -/
def Schema.rootName (schema : Schema) : Option TypeId → String
  | some type => schema.typeName type
  | none => "<unknown>"

namespace Workspace

variable {ws : Workspace} {reference : NodeRef} {location : String}

/-- The stored document at a location, laid out under an identifier. -/
def loadAt (ws : Workspace) (id : DocumentId) (location : String) :
    Except WorkspaceError Document :=
  match ws.repository.load location with
  | .error error => .error (.repository error)
  | .ok none => .error (.documentNotFound location)
  | .ok (some record) =>
    match Document.ofRecord id location record ws.schema with
    | .error error => .error (.document error)
    | .ok doc => .ok doc

/-- Under another identifier the stored document is the same, but for the identifier. -/
theorem loadAt_identifier (ws : Workspace) (id other : DocumentId) (location : String) :
    ws.loadAt other location =
      (ws.loadAt id location).map fun doc => { doc with id := other } := by
  unfold loadAt
  cases ws.repository.load location with
  | error error => rfl
  | ok loaded =>
    cases loaded with
    | none => rfl
    | some record =>
      simp only [Document.ofRecord]
      cases Document.layOut ws.schema none record Table.empty <;> rfl

/-- What is laid out was read from the store. -/
theorem exists_record_of_loadAt {id : DocumentId} {doc : Document}
    (loaded : ws.loadAt id location = .ok doc) :
    ∃ record, ws.repository.load location = .ok (some record) ∧
      Document.ofRecord id location record ws.schema = .ok doc := by
  unfold loadAt at loaded
  split at loaded
  · cases loaded
  · cases loaded
  · next record read =>
    split at loaded
    · cases loaded
    · next laidDoc laid =>
      cases loaded
      exact ⟨record, read, laid⟩

/-- A stored record that can be laid out is. -/
theorem loadAt_of_record {id : DocumentId} {record : NodeRecord} {doc : Document}
    (read : ws.repository.load location = .ok (some record))
    (laid : Document.ofRecord id location record ws.schema = .ok doc) :
    ws.loadAt id location = .ok doc := by
  simp only [loadAt, read, laid]

/-- A document that is laid out is at its location, clean and without targets. Its record is the
stored one without the empty slots. -/
theorem loadAt_spec {id : DocumentId} {doc : Document} (loaded : ws.loadAt id location = .ok doc) :
    doc.id = id ∧ doc.location = location ∧ doc.targets = Table.empty ∧ doc.dirty = false ∧
      ∃ body record, ws.repository.database.readBody location = .ok (some body) ∧
        NodeRecord.ofStored body = .ok record ∧ record.pruned = doc.toRecord ws.schema := by
  obtain ⟨record, read, laid⟩ := exists_record_of_loadAt loaded
  have ordered := Repository.ordered_of_load read
  obtain ⟨identified, located, -, untargeted, clean, -⟩ :=
    Document.represents_of_ofRecord ordered laid
  refine ⟨identified, located, untargeted, clean, ?_⟩
  have pruned := (Document.toRecord_of_ofRecord ordered laid).symm
  unfold Repository.load at read
  split at read
  · cases read
  · split at read
    · cases read
    · cases read
    · next body stored =>
      split at read
      · cases read
      · next decoded =>
        cases read
        exact ⟨body, record, stored, decoded, pruned⟩

/-- Opening a location where a document is open yields that document. -/
theorem openAt_of_placed {id : DocumentId} (placed : ws.documentAt? location = some id) :
    ws.openAt location = ⟨.ok id, ws, []⟩ := by
  simp only [openAt, placed]

/-- Opening a free location whose stored document cannot be laid out fails. -/
theorem openAt_of_unloadable (free : ws.documentAt? location = none) {error : WorkspaceError}
    (failed : ws.loadAt ws.supply.next location = .error error) :
    ws.openAt location = ws.fail error := by
  unfold loadAt at failed
  unfold openAt
  rw [free]
  dsimp only
  cases read : ws.repository.load location with
  | error fault =>
    rw [read] at failed
    cases failed
    rfl
  | ok loaded =>
    rw [read] at failed
    cases loaded with
    | none =>
      cases failed
      rfl
    | some record =>
      dsimp only at failed ⊢
      cases laid : Document.ofRecord ws.supply.next location record ws.schema with
      | error fault =>
        rw [laid] at failed
        cases failed
        rfl
      | ok doc =>
        rw [laid] at failed
        cases failed

/-- Opening a free location registers the stored document under the next identifier. -/
theorem openAt_of_loadable (free : ws.documentAt? location = none) {doc : Document}
    (loaded : ws.loadAt ws.supply.next location = .ok doc) :
    ∃ events, ws.openAt location =
      ⟨.ok doc.id, { ws with supply := ws.supply.advance }.register doc, events⟩ := by
  obtain ⟨record, read, laid⟩ := exists_record_of_loadAt loaded
  refine ⟨[.documentOpened location record.nodeCount], ?_⟩
  simp only [openAt, free, read, laid]

/-- The type of the root found at a location, in the document open there or the stored one. -/
def rootTypeAt (ws : Workspace) (location : String) : Except WorkspaceError (Option TypeId) :=
  match ws.documentAt? location with
  | some id => .ok (ws.rootType? id)
  | none => (ws.loadAt ws.supply.next location).map (·.rootType?)

/-- Whether what is found at a location can be stood for, and why not otherwise. -/
def judge (ws : Workspace) (location : String) : Except WorkspaceError Unit :=
  match ws.rootTypeAt location with
  | .error error => .error error
  | .ok type =>
    if ws.schema.isCellRoot type then .ok ()
    else .error (.targetTypeMismatch location (ws.schema.rootName type))

/-- Whether a reference can be resolved, and why not otherwise. -/
def verdict (ws : Workspace) (reference : NodeRef) : Except WorkspaceError Unit :=
  match ws.liveTarget? reference with
  | some _ => .ok ()
  | none =>
    match ws.declaredLocation reference with
    | .error error => .error error
    | .ok location => ws.judge location

/-- The reference stands for nothing and can be linked to what is found at a location. -/
structure Joins (ws : Workspace) (reference : NodeRef) (location : String) : Prop where
  /-- It stands for no open document. -/
  idle : ws.liveTarget? reference = none
  /-- It declares the location. -/
  declares : ws.declaredLocation reference = .ok location
  /-- A cell document is found there. -/
  judged : ws.judge location = .ok ()

/-- A reference can be resolved when it stands for a document or can be linked to one. -/
theorem verdict_eq_ok_iff :
    ws.verdict reference = .ok () ↔
      (∃ target, ws.liveTarget? reference = some target) ∨
        ∃ location, ws.Joins reference location := by
  unfold verdict
  cases live : ws.liveTarget? reference with
  | some target => simp
  | none =>
    cases declares : ws.declaredLocation reference with
    | error error =>
      have never : ¬ ∃ location, ws.Joins reference location := by
        rintro ⟨location, joins⟩
        have other := joins.declares
        rw [declares] at other
        cases other
      simp [never]
    | ok location =>
      constructor
      · exact fun judged => .inr ⟨location, live, declares, judged⟩
      · rintro (⟨target, other⟩ | ⟨other, joins⟩)
        · cases other
        · have same := joins.declares
          rw [declares, Except.ok.injEq] at same
          exact same ▸ joins.judged

/-- Resolving at a declared location ends as what is found there is judged.

Proof: opening yields the document that is open or laid out, whose root is the one judged. The
reference is still there afterwards, so linking it is not refused. -/
theorem resolveAt_judge (sound : ws.Sound) (declares : ws.declaredLocation reference = .ok location)
    (distinct : (ws.resolveAt reference location).after.supply.Distinct) :
    (ws.resolveAt reference location).result.map (fun _ => ()) = ws.judge location := by
  have opens := ws.openAt_opens location
  have openedDistinct : (ws.openAt location).after.supply.Distinct :=
    distinct.earlier (Steps.keeps (ws.resolveAt_steps_of_openAt reference location)).2
  obtain ⟨doc, found, adapts, -⟩ := declaredLocation_eq_ok_iff.mp declares
  have link (target : DocumentId) : ∃ linked,
      (ws.openAt location).after.link reference target = .ok linked := by
    have stillFound := opens.stays sound openedDistinct found
    simp only [Workspace.link, stillFound, Document.setTarget,
      Document.contains_of_adaptsTo adapts, if_true]
    exact ⟨_, rfl⟩
  have ends {target : DocumentId} {type : Option TypeId}
      (opened : (ws.openAt location).result = .ok target)
      (rooted : (ws.openAt location).after.rootType? target = type) :
      (ws.resolveAt reference location).result.map (fun _ => ()) =
        if ws.schema.isCellRoot type then .ok ()
        else .error (.targetTypeMismatch location (ws.schema.rootName type)) := by
    obtain ⟨linked, linking⟩ := link target
    have cell : (ws.openAt location).after.isCellDocument target = ws.schema.isCellRoot type := by
      unfold isCellDocument
      rw [rooted, opens.schema]
      rfl
    have name : (ws.openAt location).after.rootTypeName target = ws.schema.rootName type := by
      unfold rootTypeName
      rw [rooted, opens.schema]
      rfl
    simp only [resolveAt, opened, cell, name, linking]
    split
    · rfl
    · split <;> rfl
  unfold judge rootTypeAt
  cases placed : ws.documentAt? location with
  | some id =>
    have opening := openAt_of_placed placed
    exact ends (by rw [opening]) (by rw [opening])
  | none =>
    cases loaded : ws.loadAt ws.supply.next location with
    | error error =>
      have opening := openAt_of_unloadable placed loaded
      simp only [resolveAt, opening, fail]
      rfl
    | ok opened =>
      obtain ⟨events, opening⟩ := openAt_of_loadable placed loaded
      refine ends (by rw [opening]) ?_
      rw [opening]
      simp only [rootType?, document?_register, if_true, Option.bind_some]

/-- Resolving a reference ends as its verdict says. -/
theorem resolve_verdict (sound : ws.Sound)
    (distinct : (ws.resolve reference).after.supply.Distinct) :
    (ws.resolve reference).result.map (fun _ => ()) = ws.verdict reference := by
  unfold verdict
  cases live : ws.liveTarget? reference with
  | some target =>
    simp only [resolve, live]
    rfl
  | none =>
    cases declares : ws.declaredLocation reference with
    | error error =>
      simp only [resolve, live, declares]
      rfl
    | ok location =>
      have resolving : ws.resolve reference = ws.resolveAt reference location := by
        simp only [resolve, live, declares]
      rw [resolving] at distinct ⊢
      exact resolveAt_judge sound declares distinct

/-- A resolve that fails does so with the error of the verdict. -/
theorem verdict_of_error (sound : ws.Sound)
    (distinct : (ws.resolve reference).after.supply.Distinct) {error : WorkspaceError} :
    (ws.resolve reference).result = .error error ↔ ws.verdict reference = .error error := by
  rw [← resolve_verdict sound distinct]
  cases (ws.resolve reference).result with
  | ok target => simp [Except.map]
  | error other => simp [Except.map]

/-- A resolve succeeds when the verdict allows it. -/
theorem verdict_of_ok (sound : ws.Sound)
    (distinct : (ws.resolve reference).after.supply.Distinct) :
    (∃ target, (ws.resolve reference).result = .ok target) ↔ ws.verdict reference = .ok () := by
  rw [← resolve_verdict sound distinct]
  cases (ws.resolve reference).result with
  | ok target => simp [Except.map]
  | error other => simp [Except.map]

end Workspace

end LevelGraph
