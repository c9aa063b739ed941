import LevelGraph.Document.Persisted
import LevelGraph.Proofs.Document.Targets
import LevelGraph.Proofs.Schemas

/-!
# The mark of unsaved edits

An edit applies or it is refused, and `Applies` says when. A refused edit leaves the document as it
is, its mark included. One that applies marks the document dirty, with one exception: to link a node
changes targets only, which are not stored, and leaves the mark alone. Declaring a document stored is
the one thing that takes the mark away, and it is done from outside.

So a document that is clean after edits, and was clean before them, has had no edit but links. Its
tree and its record are what they were.
-/

namespace LevelGraph

/-- Whether an edit can be made of a document: what it is about is there, and it is not the root that
is to go. -/
def Document.Applies (doc : Document) : Edit → Prop
  | .setAttribute node _ _ | .setTarget node _ => doc.contains node = true
  | .append parent _ _ _ | .insertItem _ parent _ _ => doc.contains parent = true
  | .removeChild parent slot child | .removeItem _ parent slot child =>
    child ∈ doc.children parent slot
  | .removeNode node => doc.contains node = true ∧ node ≠ doc.root
  | .moveItem _ owner slot item offset =>
    (moveByOffset (doc.children owner slot) item offset).isSome = true
  | .markClean => True

namespace Document

variable {doc changed : Document} {edit : Edit}

/-- An edit yields a document exactly when it applies. -/
theorem isSome_result?_iff : (edit.result? doc).isSome = true ↔ doc.Applies edit := by
  cases edit with
  | setAttribute node name value =>
    simp only [Edit.result?, setAttribute, Applies, contains]
    cases doc.node? node <;> simp [Except.toOption]
  | append parent slot type fresh | insertItem editor parent slot fresh =>
    simp only [Edit.result?, CollectionEditor.insert, append, Applies, contains]
    cases doc.node? parent <;> simp [Except.toOption]
  | removeChild parent slot child | removeItem editor parent slot child =>
    simp only [Edit.result?, CollectionEditor.remove, removeChild, Applies, children]
    cases doc.node? parent with
    | none => simp
    | some node => by_cases listed : child ∈ node.slot slot <;> simp [listed]
  | removeNode node =>
    simp only [Edit.result?, removeNode, Applies, contains]
    by_cases root : node = doc.root
    · simp [root, Except.toOption]
    · cases doc.node? node <;> simp [root, Except.toOption]
  | setTarget node target =>
    simp only [Edit.result?, setTarget, Applies]
    cases doc.contains node <;> simp [Except.toOption]
  | moveItem editor owner slot item offset =>
    simp only [Edit.result?, CollectionEditor.move, moveChild, Applies, children]
    cases doc.node? owner with
    | none => simp [moveByOffset]
    | some node => cases moved : moveByOffset (node.slot slot) item offset <;> simp [moved]
  | markClean => simp [Edit.result?, Applies]

/-- It yields none exactly when it does not. -/
theorem result?_eq_none_iff : edit.result? doc = none ↔ ¬ doc.Applies edit := by
  rw [← isSome_result?_iff, Bool.not_eq_true, Option.isSome_eq_false_iff,
    Option.isNone_iff_eq_none]

/-- An edit that changes a document makes it dirty. -/
theorem dirty_of_result? (unlinked : edit.links = false) (own : edit ≠ .markClean)
    (done : edit.result? doc = some changed) : changed.dirty = true := by
  obtain ⟨nodes, targets, rfl, -⟩ := marked_of_result? unlinked own done
  rfl

/-- Nothing of the one document is different in the other but for targets. -/
def SameButTargets (doc other : Document) : Prop := ∃ targets, other = { doc with targets := targets }

/-- A document has its own targets. -/
theorem SameButTargets.refl (doc : Document) : doc.SameButTargets doc := ⟨doc.targets, rfl⟩

/-- Of two changes of targets only the later ones stay. -/
theorem SameButTargets.trans {middle last : Document} (first : doc.SameButTargets middle)
    (second : middle.SameButTargets last) : doc.SameButTargets last := by
  obtain ⟨_, rfl⟩ := first
  obtain ⟨targets, rfl⟩ := second
  exact ⟨targets, rfl⟩

/-- Targets are neither stored nor marked. -/
theorem SameButTargets.saved {other : Document} (same : doc.SameButTargets other) :
    (∀ schema, other.toRecord schema = doc.toRecord schema) ∧ other.dirty = doc.dirty := by
  obtain ⟨targets, rfl⟩ := same
  exact ⟨fun _ => rfl, rfl⟩

/-- An edit that does not apply leaves the document as it is. -/
theorem after_of_refused (refused : ¬ doc.Applies edit) : doc.after edit = doc := by
  rw [Document.after, result?_eq_none_iff.mpr refused, Option.getD_none]

/-- To link a node leaves all but the targets as it is. -/
theorem sameButTargets_of_links (links : edit.links = true) : doc.SameButTargets (doc.after edit) := by
  cases edit with
  | setTarget node target =>
    simp only [Document.after, Edit.result?, setTarget]
    split
    · exact ⟨doc.targets.insert node target, rfl⟩
    · exact .refl doc
  | setAttribute | append | removeChild | removeNode | insertItem | removeItem | moveItem | markClean =>
    cases links

/-- After an edit a document is dirty if it was, or if the edit applies and is no link. -/
theorem dirty_after_iff (own : edit ≠ .markClean) :
    (doc.after edit).dirty = true ↔ doc.dirty = true ∨ (doc.Applies edit ∧ edit.links = false) := by
  by_cases links : edit.links = true
  · rw [(sameButTargets_of_links links).saved.2, links]
    simp
  · rw [Bool.not_eq_true] at links
    by_cases applies : doc.Applies edit
    · obtain ⟨changed, done⟩ := Option.isSome_iff_exists.mp (isSome_result?_iff.mpr applies)
      have dirty := dirty_of_result? links own done
      simp [Document.after, done, dirty, applies, links]
    · simp [after_of_refused applies, applies]

/-- An edit after which a document is clean, other than declaring it stored, was refused or a link. -/
theorem sameButTargets_of_clean (own : edit ≠ .markClean) (clean : (doc.after edit).dirty = false) :
    doc.SameButTargets (doc.after edit) := by
  have marked : (doc.after edit).dirty = true ↔ _ := dirty_after_iff own
  rw [clean] at marked
  by_cases links : edit.links = true
  · exact sameButTargets_of_links links
  · by_cases applies : doc.Applies edit
    · exact absurd (marked.mpr (.inr ⟨applies, Bool.eq_false_iff.mpr links⟩)) Bool.false_ne_true
    · rw [after_of_refused applies]
      exact .refl doc

/-- The document after several edits. -/
def afterAll (doc : Document) (edits : List Edit) : Document := edits.foldl Document.after doc

/-- A document that is clean after edits, of which none declared it stored, is what it was but for
targets. Proof: induction on the edits. Those that follow the first one leave the mark as it was after
that one, so the first did not set it. -/
theorem sameButTargets_afterAll {edits : List Edit} (own : ∀ edit ∈ edits, edit ≠ .markClean)
    (clean : (doc.afterAll edits).dirty = false) : doc.SameButTargets (doc.afterAll edits) := by
  induction edits generalizing doc with
  | nil => exact .refl doc
  | cons edit rest inductionHypothesis =>
    obtain ⟨ownFirst, ownRest⟩ := List.forall_mem_cons.mp own
    have later := inductionHypothesis ownRest clean
    have cleanBetween : (doc.after edit).dirty = false := later.saved.2.symm.trans clean
    exact (sameButTargets_of_clean ownFirst cleanBetween).trans later

/-- Unsaved edits are marked and refused ones are not, whatever the document and its history. An edit
that yields nothing is one that does not apply, and it leaves the whole document as it is. Of the
others only links leave the mark alone, and they leave the record alone as well, so an edit after
which the record is another has made the document dirty. And a document that is clean after any
edits, none of which declared it stored, has the record that it had before them. -/
theorem dirty_of_changed (doc : Document) (schema : Schema) :
    (∀ edit, edit.result? doc = none ↔ ¬ doc.Applies edit) ∧
    (∀ edit, edit.result? doc = none → doc.after edit = doc) ∧
    (∀ edit, edit ≠ .markClean → ((doc.after edit).dirty = true ↔
      doc.dirty = true ∨ (doc.Applies edit ∧ edit.links = false))) ∧
    (∀ edit, edit ≠ .markClean → (doc.after edit).toRecord schema ≠ doc.toRecord schema →
      (doc.after edit).dirty = true) ∧
    (∀ node target, (doc.after (.setTarget node target)).toRecord schema = doc.toRecord schema ∧
      (doc.after (.setTarget node target)).dirty = doc.dirty) ∧
    ∀ edits : List Edit, (∀ edit ∈ edits, edit ≠ .markClean) → (doc.afterAll edits).dirty = false →
      (doc.afterAll edits).toRecord schema = doc.toRecord schema := by
  refine ⟨fun _ => result?_eq_none_iff, fun _ none => after_of_refused (result?_eq_none_iff.mp none),
    fun edit own => dirty_after_iff own, ?changed, ?linked, ?since⟩
  case changed =>
    intro edit own differs
    by_contra clean
    exact differs ((sameButTargets_of_clean own (Bool.not_eq_true _ ▸ clean)).saved.1 schema)
  case linked =>
    intro node target
    have same : doc.SameButTargets (doc.after (.setTarget node target)) := sameButTargets_of_links rfl
    obtain ⟨record, mark⟩ := same.saved
    exact ⟨record schema, mark⟩
  case since =>
    exact fun edits own clean => (sameButTargets_afterAll own clean).saved.1 schema

/-- A stored cell document with one reference. -/
def storedCell : Document :=
  ((create (Uuid.ofNat 1) (Uuid.ofNat 2) "a.cell" ⟨3⟩).after
    (.append (Uuid.ofNat 2) "cell" ⟨2⟩ (Uuid.ofNat 3))).after .markClean

/-- Three refusals and a link leave it clean, and so with the record that is stored. To give the
reference another location makes it dirty. -/
theorem dirty_of_changed_cell :
    (storedCell.afterAll [.append (Uuid.ofNat 4) "cell" ⟨2⟩ (Uuid.ofNat 5), .removeNode (Uuid.ofNat 2),
        .moveItem ⟨"Cell", ⟨2⟩⟩ (Uuid.ofNat 2) "cell" (Uuid.ofNat 3) 1,
        .setTarget (Uuid.ofNat 3) (Uuid.ofNat 9)]).toRecord Schema.builtin =
      storedCell.toRecord Schema.builtin ∧
    (storedCell.after (.setAttribute (Uuid.ofNat 3) "uri" "b.cell")).dirty = true := by
  obtain ⟨-, -, marks, -, -, since⟩ := dirty_of_changed storedCell Schema.builtin
  exact ⟨since _ (by decide) (by decide +kernel),
    (marks _ (by decide)).mpr (.inr ⟨by unfold Applies; decide +kernel, rfl⟩)⟩

end Document

end LevelGraph
