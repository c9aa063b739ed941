import LevelGraph.Proofs.Workspace.LiveTarget

/-!
# What a live link means

A link is checked once, when a reference is resolved: its node is a cell reference, and the
document linked to is a cell document that is open at the location the node declares. None of
this is checked again, and all of it stays true. Types of nodes and roots never change,
documents keep their locations, and an identifier is never used again. Only the declared
location can be edited under a live link, so the last part is said of sessions that do not.

`Passage` says in four cases what an action other than an edit does to the open documents, and
`Typed` and `Aimed` are shown once for each case and once for an edit.
-/

namespace LevelGraph

/-- The node whose declared location an edit is to set. -/
def Edit.relocated? : Edit → Option NodeId
  | setAttribute node name _ => if name = Names.uriAttribute then some node else none
  | _ => none

/-- The reference whose declared location an action is to set. -/
def Action.relocated? : Action → Option NodeRef
  | .edit id change => change.relocated?.map fun node => ⟨id, node⟩
  | _ => none

namespace Workspace

variable {ws after : Workspace} {reference : NodeRef} {location : String}

/-- What a reference declares depends on the type and the attributes of its node only. -/
theorem declaredLocation_of_alike (declares : ws.declaredLocation reference = .ok location)
    (schema : after.schema = ws.schema)
    (alike : ∀ doc, ws.document? reference.document = some doc →
      ∃ held, after.document? reference.document = some held ∧
        (doc.adaptsTo ws.schema reference.node ws.schema.tags.placementsCellReference = true →
          held.adaptsTo ws.schema reference.node ws.schema.tags.placementsCellReference = true ∧
          held.attribute? reference.node Names.uriAttribute =
            doc.attribute? reference.node Names.uriAttribute)) :
    after.declaredLocation reference = .ok location := by
  obtain ⟨doc, found, adapts, declared, visible⟩ := declaredLocation_eq_ok_iff.mp declares
  obtain ⟨held, heldFound, stays⟩ := alike doc found
  obtain ⟨adaptsAfter, sameAttribute⟩ := stays adapts
  refine declaredLocation_eq_ok_iff.mpr ⟨held, heldFound, ?_, sameAttribute.trans declared, visible⟩
  rw [schema]
  exact adaptsAfter

/-- What an action other than an edit does to the open documents, step by step. -/
inductive Passage (ws : Workspace) : Workspace → Prop where
  /-- They stay as they are, but for which of them are clean. -/
  | kept {after : Workspace}
      (same : ({ ws with supply := after.supply } : Workspace).SameDocuments after) :
      Passage ws after
  /-- A document without targets is opened under the next identifier at a free location. -/
  | opened {doc : Document} (sound : ws.Sound) (distinct : ws.supply.advance.Distinct)
      (identified : doc.id = ws.supply.next) (free : ws.documentAt? doc.location = none)
      (untargeted : doc.targets = Table.empty) :
      Passage ws ({ ws with supply := ws.supply.advance }.register doc)
  /-- A reference is linked to the document that is open at its declared location. -/
  | linked {reference : NodeRef} {location : String} {target : DocumentId} {doc : Document}
      (sound : ws.Sound) (declares : ws.declaredLocation reference = .ok location)
      (placed : ws.documentAt? location = some target)
      (found : ws.document? reference.document = some doc) :
      Passage ws (ws.replace reference.document
        { doc with targets := doc.targets.insert reference.node target })
  /-- A document is closed. -/
  | closed {id : DocumentId} {doc : Document} (sound : ws.Sound)
      (found : ws.document? id = some doc) : Passage ws (ws.close id).after

/-- Any number of these. -/
abbrev Passages : Workspace → Workspace → Prop := Relation.ReflTransGen Passage

/-- Where only documents become clean, that is one passage. -/
theorem SameDocuments.passages (same : ws.SameDocuments after) : Passages ws after :=
  .single (.kept ⟨same.schema, same.locations, rfl, same.documents⟩)

/-- Issuing identifiers keeps the open documents. -/
theorem passages_supply (ws : Workspace) (supply : IdSupply) :
    Passages ws { ws with supply := supply } :=
  .single (.kept ⟨rfl, rfl, rfl, fun _ => rfl⟩)

/-- Creating a document issues two identifiers and opens the document under one of them. -/
theorem passages_create (sound : ws.Sound) {rootType : TypeId}
    (distinct : (ws.create location rootType).after.supply.Distinct) :
    Passages ws (ws.create location rootType).after := by
  unfold create at distinct ⊢
  split at distinct
  · next used =>
    rw [if_pos used]
    exact .refl
  · next unused =>
    rw [if_neg unused]
    have free : ws.documentAt? location = none := by
      rw [Bool.not_eq_true] at unused
      exact (Table.not_contains_iff _ _).mp unused
    have drawn : ({ ws with supply := ws.supply.advance } : Workspace).Sound :=
      sound.of_same_documents ws.repository ws.supply.precedes_advance
    exact (ws.passages_supply ws.supply.advance).tail (.opened drawn distinct rfl free rfl)

/-- Opening a location opens one document at most. -/
theorem passages_openAt (sound : ws.Sound)
    (distinct : (ws.openAt location).after.supply.Distinct) :
    Passages ws (ws.openAt location).after := by
  have opens := ws.openAt_opens location
  generalize ws.openAt location = outcome at distinct opens ⊢
  cases opens with
  | held => exact .refl
  | refused => exact .refl
  | loaded free identified located untargeted =>
    exact .single (.opened sound distinct identified (located ▸ free) untargeted)

/-- Resolving a reference opens a document and links it, closes it again, or does less than that. -/
theorem passages_resolve (sound : ws.Sound)
    (distinct : (ws.resolve reference).after.supply.Distinct) :
    Passages ws (ws.resolve reference).after := by
  have resolves := resolve_resolves sound distinct
  generalize ws.resolve reference = outcome at distinct resolves ⊢
  cases resolves with
  | live => exact .refl
  | refused idle error supply => exact ws.passages_supply supply
  | @linked location target doc idle declares placed cell found =>
    change (ws.openAt location).after.supply.Distinct at distinct
    have opens := ws.openAt_opens location
    have openedSound := sound.steps (ws.openAt_steps location) distinct
    have stillDeclares : (ws.openAt location).after.declaredLocation reference = .ok location :=
      declaredLocation_of_alike declares opens.schema fun held heldFound =>
        ⟨held, opens.stays sound distinct heldFound, fun adapts => ⟨adapts, rfl⟩⟩
    exact (passages_openAt sound distinct).tail (.linked openedSound stillDeclares placed found)

/-- Resolving references one after the other makes the passages of each in turn. -/
theorem passages_resolveEach (sound : ws.Sound) (document : DocumentId)
    (cells : List (NodeId × Option String))
    (distinct : (resolveEach document cells ws).after.supply.Distinct) :
    Passages ws (resolveEach document cells ws).after := by
  induction cells generalizing ws with
  | nil => exact .refl
  | cons cell rest inductionHypothesis =>
    rw [after_resolveEach_cons] at distinct ⊢
    have here : (ws.resolve ⟨document, cell.1⟩).after.supply.Distinct :=
      distinct.earlier (Steps.keeps (resolveEach_steps _ document rest)).2
    exact (passages_resolve sound here).trans
      (inductionHypothesis (sound.steps (ws.resolve_steps _) here) distinct)

/-- An action is an edit or consists of passages. -/
theorem passages_of_perform (sound : ws.Sound) {action : Action}
    (distinct : (ws.perform action).supply.Distinct) :
    (∃ id edit, action = .edit id edit) ∨ Passages ws (ws.perform action) := by
  cases action with
  | create location rootType => exact .inr (passages_create sound distinct)
  | openAt location => exact .inr (passages_openAt sound distinct)
  | save id => exact .inr (ws.sameDocuments_save id).passages
  | saveTo id location => exact .inr (ws.sameDocuments_saveTo id location).passages
  | saveSweep game => exact .inr (ws.sameDocuments_saveSweep game).passages
  | saveGame game => exact .inr (ws.sameDocuments_saveGame game).passages
  | changeStore repository => exact .inr (.single (.kept ⟨rfl, rfl, rfl, fun _ => rfl⟩))
  | resolve reference => exact .inr (passages_resolve sound distinct)
  | edit id edit => exact .inl ⟨id, edit, rfl⟩
  | close id =>
    change _ ∨ Passages ws (ws.close id).after
    cases found : ws.document? id with
    | none =>
      simp only [close, found]
      exact .inr .refl
    | some doc => exact .inr (.single (.closed sound found))
  | loadSweep game =>
    change (ws.loadSweep game).after.supply.Distinct at distinct
    change _ ∨ Passages ws (ws.loadSweep game).after
    cases listed : ws.cellsOf? game with
    | none =>
      simp only [loadSweep, listed]
      exact .inr .refl
    | some cells =>
      simp only [loadSweep, listed] at distinct ⊢
      exact .inr (passages_resolveEach sound game.document cells distinct)

/-- Only cell references have targets. -/
def Typed (ws : Workspace) : Prop :=
  ∀ {id doc node target}, ws.document? id = some doc → doc.target? node = some target →
    doc.adaptsTo ws.schema node ws.schema.tags.placementsCellReference = true

/-- A reference that stands for a document declares the location where that document is open. -/
def Aimed (ws : Workspace) : Prop :=
  ∀ {reference target}, ws.liveTarget? reference = some target →
    ∃ location, ws.declaredLocation reference = .ok location ∧
      ws.documentAt? location = some target

/-- A passage links only what is a cell reference. -/
theorem Typed.passage (typed : ws.Typed) (passage : Passage ws after) : after.Typed := by
  intro id doc node target found targeted
  cases passage with
  | kept same =>
    obtain ⟨held, heldFound, sameDoc⟩ := same.symm.document? found
    change doc.markClean.target? node = some target at targeted
    rw [← sameDoc] at targeted
    have adapts := typed heldFound targeted
    change doc.markClean.adaptsTo after.schema node after.schema.tags.placementsCellReference = true
    rw [same.schema, ← sameDoc]
    exact adapts
  | opened sound distinct identified free untargeted =>
    rw [document?_register] at found
    split at found
    · cases found
      rw [Document.target?, untargeted, Table.find?_empty] at targeted
      cases targeted
    · exact typed found targeted
  | @linked reference location linkTarget old sound declares placed oldFound =>
    rcases of_document?_replace found with ⟨-, isLinked⟩ | ⟨-, before⟩
    · subst isLinked
      rw [Document.target?, Table.find?_insert] at targeted
      split at targeted
      · next same =>
        obtain ⟨held, heldFound, adapts, -⟩ := declaredLocation_eq_ok_iff.mp declares
        rw [oldFound, Option.some.injEq] at heldFound
        rw [same]
        exact heldFound ▸ adapts
      · have adapts := typed oldFound (show old.target? node = some target from targeted)
        exact adapts
    · exact typed before targeted
  | @closed gone doc sound goneFound =>
    rw [document?_close goneFound] at found
    split at found
    · cases found
    · rw [(ws.close_after gone).1]
      exact typed found targeted

/-- Types stay right over any number of passages. -/
theorem Typed.passages (typed : ws.Typed) (passages : Passages ws after) : after.Typed := by
  induction passages with
  | refl => exact typed
  | tail _ passage inductionHypothesis => exact inductionHypothesis.passage passage

/-- An edit that links nothing leaves targets only with nodes that had them. -/
theorem Typed.edit (typed : ws.Typed) (sound : ws.Sound) {id : DocumentId} {edit : Edit}
    (admits : ws.Admits (.edit id edit)) : (ws.edit id edit).Typed := by
  intro other doc node target found targeted
  unfold Workspace.edit at found ⊢
  cases old : ws.document? id with
  | none =>
    rw [old] at found
    exact typed found targeted
  | some before =>
    rw [old] at found
    rcases of_document?_replace found with ⟨-, isEdited⟩ | ⟨-, stays⟩
    · subst isEdited
      have soundBefore := (sound.arises old).sound
      have admitted := admits.2 before old
      obtain ⟨had, -⟩ := (Document.target?_after soundBefore admits.1).mp targeted
      obtain ⟨left, leftFound⟩ := (soundBefore.after admitted).targetsHeld targeted
      exact Document.adaptsTo_after soundBefore admitted (typed old had)
        ((Table.contains_iff _ _).mpr ⟨left, leftFound⟩)
    · exact typed stays targeted

/-- An action sets no declared location while its node is linked to an open document. -/
def SparesLinks (ws : Workspace) (action : Action) : Prop :=
  action.relocated?.bind ws.liveTarget? = none

instance (ws : Workspace) (action : Action) : Decidable (ws.SparesLinks action) :=
  inferInstanceAs (Decidable (_ = none))

/-- A passage moves no document and changes no node under a live link.

Proof: a document that is opened lies at a location that was free, and one that is closed is not
the one linked to; so the location declared leads where it led. -/
theorem Aimed.passage (aimed : ws.Aimed) (passage : Passage ws after) : after.Aimed := by
  intro reference target live
  cases passage with
  | kept same =>
    rw [same.liveTarget?] at live
    obtain ⟨location, declares, placed⟩ := aimed live
    refine ⟨location, declaredLocation_of_alike declares same.schema fun doc found => ?_, ?_⟩
    · obtain ⟨held, heldFound, sameDoc⟩ := same.document? found
      refine ⟨held, heldFound, fun adapts => ?_⟩
      change held.markClean.adaptsTo ws.schema reference.node
          ws.schema.tags.placementsCellReference = true ∧
        held.markClean.attribute? reference.node Names.uriAttribute =
          doc.markClean.attribute? reference.node Names.uriAttribute
      rw [sameDoc]
      exact ⟨adapts, rfl⟩
    · rw [documentAt?, same.locations]
      exact placed
  | @opened doc sound distinct identified free untargeted =>
    rw [liveTarget?_opened sound distinct identified untargeted] at live
    obtain ⟨location, declares, placed⟩ := aimed live
    have absent := sound.document?_next distinct
    rw [← identified] at absent
    refine ⟨location, declaredLocation_of_alike declares rfl fun held found => ?_, ?_⟩
    · exact ⟨held, document?_register_of_found absent found, fun adapts => ⟨adapts, rfl⟩⟩
    · exact documentAt?_register_of_placed free placed
  | @linked linkedRef linkLocation linkTarget doc sound linkDeclares linkPlaced found =>
    obtain ⟨held, heldFound, -⟩ := sound.indexed linkPlaced
    rw [liveTarget?_linked found ⟨held, heldFound⟩] at live
    obtain ⟨location, declares, placed⟩ : ∃ location,
        ws.declaredLocation reference = .ok location ∧
          ws.documentAt? location = some target := by
      split at live
      · next same =>
        cases live
        exact ⟨linkLocation, same ▸ linkDeclares, linkPlaced⟩
      · exact aimed live
    refine ⟨location, declaredLocation_of_alike declares rfl fun old oldFound => ?_, placed⟩
    rw [document?_replace]
    split
    · next same =>
      rw [same, found, Option.some.injEq] at oldFound
      subst oldFound
      rw [same, found]
      exact ⟨_, rfl, fun adapts => ⟨adapts, rfl⟩⟩
    · exact ⟨old, oldFound, fun adapts => ⟨adapts, rfl⟩⟩
  | @closed id doc sound found =>
    obtain ⟨liveBefore, notOwn, notTarget⟩ := (ws.liveTarget?_close id).mp live
    obtain ⟨location, declares, placed⟩ := aimed liveBefore
    refine ⟨location, declaredLocation_of_alike declares (ws.close_after id).1
      fun held heldFound => ?_, ?_⟩
    · rw [document?_close found, if_neg notOwn]
      exact ⟨held, heldFound, fun adapts => ⟨adapts, rfl⟩⟩
    · have elsewhere : location ≠ doc.location := by
        rintro rfl
        rw [(sound.filed found).2, Option.some.injEq] at placed
        exact notTarget placed.symm
      rw [documentAt?_close found, if_neg elsewhere]
      exact placed

/-- Live links stay aimed over any number of passages. -/
theorem Aimed.passages (aimed : ws.Aimed) (passages : Passages ws after) : after.Aimed := by
  induction passages with
  | refl => exact aimed
  | tail _ passage inductionHypothesis => exact inductionHypothesis.passage passage

/-- An edit that spares the locations under live links changes no other part of what they rest on:
a node that is still linked is still there, with its type and its location. -/
theorem Aimed.edit (aimed : ws.Aimed) (sound : ws.Sound) {id : DocumentId} {edit : Edit}
    (admits : ws.Admits (.edit id edit)) (spares : ws.SparesLinks (.edit id edit)) :
    (ws.edit id edit).Aimed := by
  intro reference target live
  obtain ⟨liveBefore, -⟩ := (liveTarget?_edit sound admits.1).mp live
  obtain ⟨location, declares, placed⟩ := aimed liveBefore
  unfold Workspace.edit at live ⊢
  cases found : ws.document? id with
  | none => exact ⟨location, declares, placed⟩
  | some doc =>
    rw [found] at live
    refine ⟨location, declaredLocation_of_alike declares rfl fun old oldFound => ?_, placed⟩
    by_cases own : reference.document = id
    · subst own
      rw [found, Option.some.injEq] at oldFound
      subst oldFound
      have soundDoc := (sound.arises found).sound
      have admitted := admits.2 doc found
      obtain ⟨targeted, -⟩ := (liveTarget?_replace found).mp live
      have left := (Table.contains_iff _ _).mpr ((soundDoc.after admitted).targetsHeld targeted)
      have spared (value : String) :
          edit ≠ .setAttribute reference.node Names.uriAttribute value := by
        rintro rfl
        rw [SparesLinks, Action.relocated?, Edit.relocated?, if_pos rfl] at spares
        exact nomatch liveBefore.symm.trans spares
      exact ⟨_, document?_replace_self found _, fun adapts =>
        ⟨Document.adaptsTo_after soundDoc admitted adapts left,
          Document.attribute?_after soundDoc admitted (Document.contains_of_adaptsTo adapts) left
            spared⟩⟩
    · exact ⟨old, by rw [document?_replace, if_neg own, oldFound], fun adapts => ⟨adapts, rfl⟩⟩

/-- In every session only cell references have targets. -/
theorem Reachable.typed (reachable : ws.Reachable) : ws.Typed := by
  induction reachable with
  | start declared repository issue => exact fun found => nomatch found
  | performed earlier action admits distinct inductionHypothesis =>
    rcases passages_of_perform earlier.sound distinct with ⟨id, edit, rfl⟩ | passages
    · exact inductionHypothesis.edit earlier.sound admits
    · exact inductionHypothesis.passages passages

/-- In a session that spares the locations under live links, these links lead to the documents at
the locations. -/
theorem ReachableBy.aimed (reachable : ReachableBy SparesLinks ws) : ws.Aimed := by
  induction reachable with
  | start declared repository issue => exact fun live => nomatch live
  | performed earlier action admits distinct spares inductionHypothesis =>
    rcases passages_of_perform earlier.reachable.sound distinct with ⟨id, edit, rfl⟩ | passages
    · exact inductionHypothesis.edit earlier.reachable.sound admits spares
    · exact inductionHypothesis.passages passages

/-- What a link means, in any session. A target belongs to a node whose type derives from the one
for cell references, and the document that it names is, when open, one whose root type derives
from the one for cell documents. And if no location was edited while its node was linked, the
node of a live link declares a location, not blank, at which the document linked to is open. -/
theorem meaning_of_link (reachable : ws.Reachable) :
    (∀ id doc node target, ws.document? id = some doc → doc.target? node = some target →
      doc.adaptsTo ws.schema node ws.schema.tags.placementsCellReference = true ∧
      ∀ held, ws.document? target = some held → held.IsCell ws.schema) ∧
    (ReachableBy SparesLinks ws → ∀ reference target, ws.liveTarget? reference = some target →
      ∃ doc location, ws.document? reference.document = some doc ∧
        doc.attribute? reference.node Names.uriAttribute = some location ∧
        Text.isBlankText location = false ∧ ws.documentAt? location = some target) := by
  constructor
  · intro id doc node target found targeted
    exact ⟨reachable.typed found targeted, fun held heldFound =>
      reachable.sound.targetCell found targeted heldFound⟩
  · intro spared reference target live
    obtain ⟨location, declares, placed⟩ := spared.aimed live
    obtain ⟨doc, found, -, declared, visible⟩ := declaredLocation_eq_ok_iff.mp declares
    exact ⟨doc, location, found, declared, visible, placed⟩

/-- The location was edited before the reference was resolved, which spares every link. -/
theorem meaning_of_link_referring :
    (∃ doc, (blank.run (referringActions ++ [.resolve referring])).document?
        referring.document = some doc ∧ doc.adaptsTo Schema.builtin referring.node
          Schema.builtin.tags.placementsCellReference = true) ∧
    ∃ doc location, (blank.run (referringActions ++ [.resolve referring])).document?
        referring.document = some doc ∧
      doc.attribute? referring.node Names.uriAttribute = some location ∧
      Text.isBlankText location = false ∧
      (blank.run (referringActions ++ [.resolve referring])).documentAt? location =
        some (Uuid.ofNat 1) := by
  have spared : ReachableBy SparesLinks (blank.run (referringActions ++ [.resolve referring])) :=
    ReachableBy.run (.start Schema.ofCollection_baseline _ _) (by decide +kernel)
      (by decide +kernel)
  have live : (blank.run (referringActions ++ [.resolve referring])).liveTarget? referring =
      some (Uuid.ofNat 1) := by
    decide +kernel
  obtain ⟨typed, aimed⟩ := meaning_of_link spared.reachable
  obtain ⟨doc, found, targeted, -⟩ := liveTarget?_eq_some_iff.mp live
  have sameSchema : (blank.run (referringActions ++ [.resolve referring])).schema =
      Schema.builtin := by
    rfl
  obtain ⟨adapts, -⟩ := typed _ doc _ _ found targeted
  rw [sameSchema] at adapts
  exact ⟨⟨doc, found, adapts⟩, aimed spared referring (Uuid.ofNat 1) live⟩

end Workspace

end LevelGraph
