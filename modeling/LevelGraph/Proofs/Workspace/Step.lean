import LevelGraph.Proofs.Document.History
import LevelGraph.Proofs.Document.Targets
import LevelGraph.Proofs.Schemas
import LevelGraph.Workspace.Sweep

/-!
# Steps of a workspace

Whatever is done with a workspace comes down to six steps: an identifier is issued, the
store changes, a document is opened at a free location, an open document is edited, a
node is linked to a cell document, or a document is closed. `Sound` says what holds
between them. The two tables of open documents agree, every open document has come about
under the schema, and a target names either a cell document or none that is open.

The last rule needs identifiers that are never issued twice. A workspace alone cannot promise
that, so every statement about steps asks it of the supply they end with.
-/

namespace LevelGraph

namespace IdSupply

/-- No identifier has been issued twice. -/
def Distinct (supply : IdSupply) : Prop :=
  ∀ earlier later, earlier < later → later < supply.issued →
    supply.issue earlier ≠ supply.issue later

instance (supply : IdSupply) : Decidable supply.Distinct :=
  decidable_of_iff
    (∀ later, later < supply.issued → ∀ earlier, earlier < later →
      supply.issue earlier ≠ supply.issue later)
    ⟨fun distinct earlier later before issued => distinct later issued earlier before,
      fun distinct later issued earlier before => distinct earlier later before issued⟩

/-- The identifier has been issued. -/
def Issued (supply : IdSupply) (id : Uuid) : Prop :=
  ∃ turn, turn < supply.issued ∧ supply.issue turn = id

/-- One supply is another one, some turns later. -/
structure Precedes (earlier later : IdSupply) : Prop where
  /-- Both issue the same. -/
  same : later.issue = earlier.issue
  /-- The later one has issued more. -/
  more : earlier.issued ≤ later.issued

/-- A supply precedes itself. -/
theorem Precedes.refl (supply : IdSupply) : supply.Precedes supply := ⟨rfl, Nat.le_refl _⟩

/-- What precedes an earlier supply precedes the later one. -/
theorem Precedes.trans {first second third : IdSupply} (earlier : first.Precedes second)
    (later : second.Precedes third) : first.Precedes third :=
  ⟨later.same.trans earlier.same, Nat.le_trans earlier.more later.more⟩

/-- A supply precedes itself, one turn later. -/
theorem precedes_advance (supply : IdSupply) : supply.Precedes supply.advance :=
  ⟨rfl, Nat.le_succ _⟩

variable {first last : IdSupply}

/-- What is issued once stays issued. -/
theorem Issued.later {id : Uuid} (issued : first.Issued id) (precedes : first.Precedes last) :
    last.Issued id := by
  obtain ⟨turn, early, same⟩ := issued
  exact ⟨turn, Nat.lt_of_lt_of_le early precedes.more, by rw [precedes.same, same]⟩

/-- A supply that has issued nothing twice had not done so before. -/
theorem Distinct.earlier (distinct : last.Distinct) (precedes : first.Precedes last) :
    first.Distinct := by
  intro earlier later before issued
  have different := distinct earlier later before (Nat.lt_of_lt_of_le issued precedes.more)
  rw [precedes.same] at different
  exact different

/-- The next identifier has been issued once the supply goes on. -/
theorem issued_next (supply : IdSupply) : supply.advance.Issued supply.next :=
  ⟨supply.issued, Nat.lt_succ_self _, rfl⟩

/-- The next identifier is a new one. -/
theorem Distinct.not_issued_next {supply : IdSupply} (distinct : supply.advance.Distinct) :
    ¬ supply.Issued supply.next := by
  rintro ⟨turn, early, same⟩
  exact distinct turn supply.issued early (Nat.lt_succ_self _) same

end IdSupply

/-- The document is a cell document: the type of its root derives from the one that the
schema has for them. -/
def Document.IsCell (schema : Schema) (doc : Document) : Prop :=
  ∃ type, doc.rootType? = some type ∧
    schema.isAssignableFrom schema.tags.placementsDocument type = true

namespace Workspace

variable {ws next : Workspace}

section Lookups

variable (ws)

/-- A document is found under its identifier once it is registered, and the others as before. -/
@[simp] theorem document?_register (doc : Document) (id : DocumentId) :
    (ws.register doc).document? id = if id = doc.id then some doc else ws.document? id :=
  Table.find?_insert _ _ _ _

/-- It is found at its location, and the others as before. -/
@[simp] theorem documentAt?_register (doc : Document) (location : String) :
    (ws.register doc).documentAt? location =
      if location = doc.location then some doc.id else ws.documentAt? location :=
  Table.find?_insert _ _ _ _

/-- A document takes the place of an open one, and opens none where there was none. -/
@[simp] theorem document?_replace (doc : Document) (id other : DocumentId) :
    (ws.replace id doc).document? other =
      if other = id then (ws.document? other).map fun _ => doc else ws.document? other :=
  Table.find?_modify _ _ _ _

variable {ws}

/-- What is open is open still, after a document was opened under an identifier of none. -/
theorem document?_register_of_found {doc held : Document} {id : DocumentId}
    (absent : ws.document? doc.id = none) (found : ws.document? id = some held) :
    (ws.register doc).document? id = some held := by
  have different : id ≠ doc.id := by
    rintro rfl
    rw [absent] at found
    cases found
  rw [document?_register, if_neg different]
  exact found

/-- And it is at the location where it was, if that of the opened document was free. -/
theorem documentAt?_register_of_placed {doc : Document} {location : String} {id : DocumentId}
    (free : ws.documentAt? doc.location = none) (placed : ws.documentAt? location = some id) :
    (ws.register doc).documentAt? location = some id := by
  have elsewhere : location ≠ doc.location := by
    rintro rfl
    rw [free] at placed
    cases placed
  rw [documentAt?_register, if_neg elsewhere]
  exact placed

/-- A replaced document is the new one under its own identifier. -/
theorem document?_replace_self {id : DocumentId} {doc : Document} (found : ws.document? id = some doc)
    (changed : Document) : (ws.replace id changed).document? id = some changed := by
  rw [document?_replace, if_pos rfl, found, Option.map_some]

/-- A document open after a replacement is the new one or was open before. -/
theorem of_document?_replace {id other : DocumentId} {doc changed : Document}
    (found : (ws.replace id changed).document? other = some doc) :
    (other = id ∧ doc = changed) ∨ (other ≠ id ∧ ws.document? other = some doc) := by
  rw [document?_replace] at found
  split at found
  · next same =>
    obtain ⟨old, _, isChanged⟩ := Option.map_eq_some_iff.mp found
    exact .inl ⟨same, isChanged.symm⟩
  · next different => exact .inr ⟨different, found⟩

/-- A closed document is not found any more, and the others are. -/
theorem document?_close {id : DocumentId} {doc : Document} (found : ws.document? id = some doc)
    (other : DocumentId) :
    (ws.close id).after.document? other = if other = id then none else ws.document? other := by
  simp only [close, found]
  exact Table.find?_erase _ _ _

/-- Its location is free, and the others are taken as before. -/
theorem documentAt?_close {id : DocumentId} {doc : Document} (found : ws.document? id = some doc)
    (location : String) :
    (ws.close id).after.documentAt? location =
      if location = doc.location then none else ws.documentAt? location := by
  simp only [close, found]
  exact Table.find?_erase _ _ _

/-- Closing a document touches neither schema nor store nor supply. -/
theorem close_after (ws : Workspace) (id : DocumentId) :
    (ws.close id).after.schema = ws.schema ∧ (ws.close id).after.repository = ws.repository ∧
      (ws.close id).after.supply = ws.supply := by
  unfold close
  split <;> exact ⟨rfl, rfl, rfl⟩

/-- A document counts as a cell document in a workspace when it is open and is one. -/
theorem isCellDocument_iff {id : DocumentId} :
    ws.isCellDocument id = true ↔
      ∃ doc, ws.document? id = some doc ∧ doc.IsCell ws.schema := by
  unfold isCellDocument rootType? Document.IsCell
  cases ws.document? id with
  | none => simp
  | some doc =>
    cases rooted : doc.rootType? with
    | none => simp [rooted]
    | some type => simp [rooted]

end Lookups

/-- One step of a workspace. -/
inductive Step (ws : Workspace) : Workspace → Prop where
  /-- An identifier is issued. -/
  | issued : Step ws { ws with supply := ws.supply.advance }
  /-- The store changes. -/
  | stored (repository : Repository) : Step ws { ws with repository := repository }
  /-- A document without targets is opened under the next identifier at a free location. -/
  | opened {doc : Document} (identified : doc.id = ws.supply.next)
      (free : ws.documentAt? doc.location = none) (arises : Document.Arises ws.schema doc)
      (untargeted : doc.targets = Table.empty) :
      Step ws ({ ws with supply := ws.supply.advance }.register doc)
  /-- An open document is edited without a node being linked. -/
  | edited {id : DocumentId} {doc : Document} {edit : Edit} (found : ws.document? id = some doc)
      (unlinked : edit.links = false) (admits : doc.Admits edit) :
      Step ws (ws.replace id (doc.after edit))
  /-- A node of an open document is linked to an open cell document. -/
  | linked {id target : DocumentId} {doc : Document} (found : ws.document? id = some doc)
      (node : NodeId) (cell : ws.isCellDocument target = true) :
      Step ws (ws.replace id (doc.after (.setTarget node target)))
  /-- A document is closed. -/
  | closed {id : DocumentId} {doc : Document} (found : ws.document? id = some doc) :
      Step ws (ws.close id).after

/-- Any number of steps. -/
abbrev Steps : Workspace → Workspace → Prop := Relation.ReflTransGen Step

/-- A step keeps the schema, and the supply only moves on. -/
theorem Step.keeps (step : Step ws next) :
    next.schema = ws.schema ∧ ws.supply.Precedes next.supply := by
  cases step with
  | issued => exact ⟨rfl, ws.supply.precedes_advance⟩
  | stored repository => exact ⟨rfl, .refl _⟩
  | opened => exact ⟨rfl, ws.supply.precedes_advance⟩
  | edited => exact ⟨rfl, .refl _⟩
  | linked => exact ⟨rfl, .refl _⟩
  | @closed id doc found =>
    obtain ⟨schema, _, supply⟩ := ws.close_after id
    exact ⟨schema, supply ▸ .refl _⟩

/-- Steps keep the schema, and the supply only moves on. -/
theorem Steps.keeps (steps : Steps ws next) :
    next.schema = ws.schema ∧ ws.supply.Precedes next.supply := by
  induction steps with
  | refl => exact ⟨rfl, .refl _⟩
  | tail _ step inductionHypothesis =>
    obtain ⟨schema, supply⟩ := step.keeps
    exact ⟨schema.trans inductionHypothesis.1, inductionHypothesis.2.trans supply⟩

/-- What holds of a workspace between its steps. -/
structure Sound (ws : Workspace) : Prop where
  /-- No two types have one name. -/
  named : ws.schema.DistinctNames
  /-- An open document is filed under its identifier and its location. -/
  filed : ∀ {id doc}, ws.document? id = some doc →
    doc.id = id ∧ ws.documentAt? doc.location = some id
  /-- The document at a location is open and located there. -/
  indexed : ∀ {location id}, ws.documentAt? location = some id →
    ∃ doc, ws.document? id = some doc ∧ doc.location = location
  /-- An open document has come about under the schema. -/
  arises : ∀ {id doc}, ws.document? id = some doc → Document.Arises ws.schema doc
  /-- The identifier of an open document has been issued. -/
  issued : ∀ {id doc}, ws.document? id = some doc → ws.supply.Issued id
  /-- So has a target, whether it is open or not. -/
  targetIssued : ∀ {id doc node target}, ws.document? id = some doc →
    doc.target? node = some target → ws.supply.Issued target
  /-- A target that is open is a cell document. -/
  targetCell : ∀ {id doc node target cell}, ws.document? id = some doc →
    doc.target? node = some target → ws.document? target = some cell → cell.IsCell ws.schema

/-- A workspace without open documents is sound. -/
theorem sound_start {schema : Schema} (named : schema.DistinctNames) (repository : Repository)
    (supply : IdSupply) : (start schema repository supply).Sound := by
  have nothing (id : DocumentId) : (start schema repository supply).document? id = none := rfl
  refine ⟨named, ?filed, ?indexed, ?arises, ?issued, ?targetIssued, ?targetCell⟩
  case filed =>
    exact fun found => nomatch (nothing _).symm.trans found
  case indexed =>
    intro location id found
    cases found
  case arises =>
    exact fun found => nomatch (nothing _).symm.trans found
  case issued =>
    exact fun found => nomatch (nothing _).symm.trans found
  case targetIssued =>
    exact fun found => nomatch (nothing _).symm.trans found
  case targetCell =>
    exact fun found => nomatch (nothing _).symm.trans found

/-- The next identifier names no open document. -/
theorem Sound.document?_next (sound : ws.Sound) (distinct : ws.supply.advance.Distinct) :
    ws.document? ws.supply.next = none := by
  cases found : ws.document? ws.supply.next with
  | none => rfl
  | some doc => exact absurd (sound.issued found) distinct.not_issued_next

/-- Documents at one location are one document. -/
theorem Sound.eq_of_location (sound : ws.Sound) {first second : DocumentId} {doc other : Document}
    (found : ws.document? first = some doc) (otherFound : ws.document? second = some other)
    (same : doc.location = other.location) : first = second := by
  have left := (sound.filed found).2
  rw [same, (sound.filed otherFound).2] at left
  exact (Option.some.inj left).symm

/-- Issuing an identifier or changing the store concerns no open document. -/
theorem Sound.of_same_documents (sound : ws.Sound) (repository : Repository) {supply : IdSupply}
    (precedes : ws.supply.Precedes supply) :
    ({ ws with repository := repository, supply := supply } : Workspace).Sound :=
  ⟨sound.named, sound.filed, sound.indexed, sound.arises,
    fun found => (sound.issued found).later precedes,
    fun found held => (sound.targetIssued found held).later precedes, sound.targetCell⟩

/-- A document opened under a new identifier at a free location.

Proof: a target of the documents that are there has been issued before, so it cannot name
the new document, and the new document has no target. -/
theorem Sound.opened (sound : ws.Sound) (distinct : ws.supply.advance.Distinct) {doc : Document}
    (identified : doc.id = ws.supply.next) (free : ws.documentAt? doc.location = none)
    (arises : Document.Arises ws.schema doc) (untargeted : doc.targets = Table.empty) :
    ({ ws with supply := ws.supply.advance }.register doc).Sound := by
  have absent := sound.document?_next distinct
  rw [← identified] at absent
  have precedes := ws.supply.precedes_advance
  have found_iff {id : DocumentId} {other : Document}
      (found : ({ ws with supply := ws.supply.advance }.register doc).document? id = some other) :
      (id = doc.id ∧ other = doc) ∨ (id ≠ doc.id ∧ ws.document? id = some other) := by
    rw [document?_register] at found
    split at found
    · next same => exact .inl ⟨same, (Option.some.inj found).symm⟩
    · next different => exact .inr ⟨different, found⟩
  have noTarget (node : NodeId) : doc.target? node = none := by
    rw [Document.target?, untargeted, Table.find?_empty]
  refine ⟨sound.named, ?filed, ?indexed, ?arises, ?issued, ?targetIssued, ?targetCell⟩
  case filed =>
    intro id other found
    rcases found_iff found with ⟨sameId, same⟩ | ⟨-, old⟩
    · rw [sameId, same]
      exact ⟨rfl, by rw [documentAt?_register, if_pos rfl]⟩
    · obtain ⟨sameId, placed⟩ := sound.filed old
      exact ⟨sameId, documentAt?_register_of_placed free placed⟩
  case indexed =>
    intro location id placed
    rw [documentAt?_register] at placed
    split at placed
    · next same =>
      cases placed
      exact ⟨doc, by rw [document?_register, if_pos rfl], same.symm⟩
    · obtain ⟨other, found, same⟩ := sound.indexed placed
      exact ⟨other, document?_register_of_found absent found, same⟩
  case arises =>
    intro id other found
    rcases found_iff found with ⟨-, same⟩ | ⟨-, old⟩
    · rw [same]
      exact arises
    · exact sound.arises old
  case issued =>
    intro id other found
    rcases found_iff found with ⟨sameId, -⟩ | ⟨-, old⟩
    · rw [sameId, identified]
      exact ws.supply.issued_next
    · exact (sound.issued old).later precedes
  case targetIssued =>
    intro id other node target found held
    rcases found_iff found with ⟨-, same⟩ | ⟨-, old⟩
    · rw [same, noTarget] at held
      cases held
    · exact (sound.targetIssued old held).later precedes
  case targetCell =>
    intro id other node target cell found held targetFound
    rcases found_iff found with ⟨-, same⟩ | ⟨-, old⟩
    · rw [same, noTarget] at held
      cases held
    · rcases found_iff targetFound with ⟨sameTarget, -⟩ | ⟨-, targetOld⟩
      · have issued := sound.targetIssued old held
        rw [sameTarget, identified] at issued
        exact absurd issued distinct.not_issued_next
      · exact sound.targetCell old held targetOld

/-- An open document replaced by another of the same place and root type, all of whose new
targets are cell documents. -/
theorem Sound.replaced (sound : ws.Sound) {id : DocumentId} {doc changed : Document}
    (found : ws.document? id = some doc) (arises : Document.Arises ws.schema changed)
    (sameId : changed.id = doc.id) (sameLocation : changed.location = doc.location)
    (sameRootType : changed.rootType? = doc.rootType?)
    (targets : ∀ node target, changed.target? node = some target →
      doc.target? node = some target ∨ ws.isCellDocument target = true) :
    (ws.replace id changed).Sound := by
  have sameCell {other : DocumentId} {cell : Document}
      (cellFound : (ws.replace id changed).document? other = some cell) :
      ∃ old, ws.document? other = some old ∧ (old.IsCell ws.schema → cell.IsCell ws.schema) := by
    rcases of_document?_replace cellFound with ⟨same, isChanged⟩ | ⟨-, old⟩
    · refine ⟨doc, same ▸ found, ?_⟩
      rintro ⟨type, rooted, derived⟩
      exact ⟨type, by rw [isChanged, sameRootType, rooted], derived⟩
    · exact ⟨cell, old, fun isCell => isCell⟩
  refine ⟨sound.named, ?filed, ?indexed, ?arises, ?issued, ?targetIssued, ?targetCell⟩
  case filed =>
    intro other held heldFound
    rcases of_document?_replace heldFound with ⟨same, isChanged⟩ | ⟨-, old⟩
    · rw [isChanged, sameId, sameLocation, same]
      exact sound.filed found
    · exact sound.filed old
  case indexed =>
    intro location other placed
    obtain ⟨old, oldFound, there⟩ := sound.indexed placed
    by_cases same : other = id
    · rw [same, found, Option.some.injEq] at oldFound
      refine ⟨changed, ?_, by rw [sameLocation, oldFound, there]⟩
      rw [same]
      exact document?_replace_self found changed
    · exact ⟨old, by rw [document?_replace, if_neg same, oldFound], there⟩
  case arises =>
    intro other held heldFound
    rcases of_document?_replace heldFound with ⟨-, isChanged⟩ | ⟨-, old⟩
    · rw [isChanged]
      exact arises
    · exact sound.arises old
  case issued =>
    intro other held heldFound
    obtain ⟨old, oldFound, -⟩ := sameCell heldFound
    exact sound.issued oldFound
  case targetIssued =>
    intro other held node target heldFound targeted
    rcases of_document?_replace heldFound with ⟨-, isChanged⟩ | ⟨-, old⟩
    · rcases targets node target (isChanged ▸ targeted) with before | cell
      · exact sound.targetIssued found before
      · obtain ⟨cell, cellFound, -⟩ := isCellDocument_iff.mp cell
        exact sound.issued cellFound
    · exact sound.targetIssued old targeted
  case targetCell =>
    intro other held node target cell heldFound targeted cellFound
    obtain ⟨oldCell, oldCellFound, stays⟩ := sameCell cellFound
    rcases of_document?_replace heldFound with ⟨-, isChanged⟩ | ⟨-, old⟩
    · rcases targets node target (isChanged ▸ targeted) with before | isCell
      · exact stays (sound.targetCell found before oldCellFound)
      · obtain ⟨another, anotherFound, holds⟩ := isCellDocument_iff.mp isCell
        rw [oldCellFound, Option.some.injEq] at anotherFound
        exact stays (anotherFound ▸ holds)
    · exact stays (sound.targetCell old targeted oldCellFound)

/-- A document closed leaves the others as they are, and frees no location but its own. -/
theorem Sound.closed (sound : ws.Sound) {id : DocumentId} {doc : Document}
    (found : ws.document? id = some doc) : (ws.close id).after.Sound := by
  obtain ⟨sameSchema, -, sameSupply⟩ := ws.close_after id
  have open_ {other : DocumentId} {held : Document}
      (heldFound : (ws.close id).after.document? other = some held) :
      other ≠ id ∧ ws.document? other = some held := by
    rw [document?_close found] at heldFound
    split at heldFound
    · cases heldFound
    · next different => exact ⟨different, heldFound⟩
  refine ⟨sameSchema ▸ sound.named, ?filed, ?indexed, ?arises, ?issued, ?targetIssued, ?targetCell⟩
  case filed =>
    intro other held heldFound
    obtain ⟨different, old⟩ := open_ heldFound
    obtain ⟨sameId, placed⟩ := sound.filed old
    refine ⟨sameId, ?_⟩
    rw [documentAt?_close found, if_neg fun same => different (sound.eq_of_location old found same)]
    exact placed
  case indexed =>
    intro location other placed
    rw [documentAt?_close found] at placed
    split at placed
    · cases placed
    · next elsewhere =>
      obtain ⟨held, heldFound, there⟩ := sound.indexed placed
      have different : other ≠ id := by
        intro same
        rw [same, found, Option.some.injEq] at heldFound
        exact elsewhere (by rw [heldFound, there])
      exact ⟨held, by rw [document?_close found, if_neg different, heldFound], there⟩
  case arises =>
    intro other held heldFound
    exact sameSchema ▸ sound.arises (open_ heldFound).2
  case issued =>
    intro other held heldFound
    exact sameSupply ▸ sound.issued (open_ heldFound).2
  case targetIssued =>
    intro other held node target heldFound targeted
    exact sameSupply ▸ sound.targetIssued (open_ heldFound).2 targeted
  case targetCell =>
    intro other held node target cell heldFound targeted cellFound
    exact sameSchema ▸ sound.targetCell (open_ heldFound).2 targeted (open_ cellFound).2

/-- An edit leaves a document where it is and its root of the type that it was. -/
theorem Sound.document_after (sound : ws.Sound) {id : DocumentId} {doc : Document}
    (found : ws.document? id = some doc) {edit : Edit} (admits : doc.Admits edit) :
    (doc.after edit).id = doc.id ∧ (doc.after edit).location = doc.location ∧
      (doc.after edit).rootType? = doc.rootType? := by
  have soundDoc := (sound.arises found).sound
  unfold Document.after
  cases applied : edit.result? doc with
  | none => exact ⟨rfl, rfl, rfl⟩
  | some changed =>
    have change := Document.change_of_result? soundDoc admits applied
    exact ⟨change.same_place.1, change.same_place.2.1, change.same_rootType soundDoc⟩

/-- A step leaves a sound workspace sound, as long as no identifier is issued twice. -/
theorem Sound.step (sound : ws.Sound) (step : Step ws next) (distinct : next.supply.Distinct) :
    next.Sound := by
  cases step with
  | issued => exact sound.of_same_documents ws.repository ws.supply.precedes_advance
  | stored repository => exact sound.of_same_documents repository (.refl _)
  | opened identified free arises untargeted =>
    exact sound.opened distinct identified free arises untargeted
  | @edited id doc edit found unlinked admits =>
    obtain ⟨sameId, sameLocation, sameRootType⟩ := sound.document_after found admits
    refine sound.replaced found (.edited (sound.arises found) admits) sameId sameLocation
      sameRootType fun node target held => .inl ?_
    exact ((Document.target?_after (sound.arises found).sound unlinked).mp held).1
  | @linked id target doc found node cell =>
    have admits : doc.Admits (.setTarget node target) := fun fresh given => nomatch given
    obtain ⟨sameId, sameLocation, sameRootType⟩ := sound.document_after found admits
    refine sound.replaced found (.edited (sound.arises found) admits) sameId sameLocation
      sameRootType fun other held targeted => ?_
    unfold Document.after at targeted
    cases applied : (Edit.setTarget node target).result? doc with
    | none =>
      rw [applied] at targeted
      exact .inl targeted
    | some changed =>
      rw [applied] at targeted
      simp only [Edit.result?, Document.setTarget] at applied
      split at applied
      · cases applied
        rw [Option.getD_some, Document.target?, Table.find?_insert] at targeted
        split at targeted
        · cases targeted
          exact .inr cell
        · exact .inl targeted
      · cases applied
  | closed found => exact sound.closed found

/-- Steps leave a sound workspace sound. -/
theorem Sound.steps (sound : ws.Sound) (steps : Steps ws next) (distinct : next.supply.Distinct) :
    next.Sound := by
  induction steps with
  | refl => exact sound
  | tail _ step inductionHypothesis =>
    exact (inductionHypothesis (distinct.earlier step.keeps.2)).step step distinct

end Workspace

end LevelGraph
