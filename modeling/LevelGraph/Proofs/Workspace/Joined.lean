import LevelGraph.Proofs.Workspace.Verdict

/-!
# References joined to their documents

A resolve changes a workspace in one way only: an idle reference is linked to the document at its
declared location, which is opened for it if none was open there. `Joined` says that of any number
of references of one document. Everything else is as it was: every document that was open is open
with its tree, and no other target changes.

The state described is fixed by the references and not by their order, because one reference joined
changes no verdict on another. What was open at a location is open there still, and what was opened
since has the root that was found there before.
-/

namespace LevelGraph

namespace Workspace

variable {ws middle after : Workspace} {document : DocumentId} {earlier later cells : List NodeId}

/-- The target of a node of an open document, whether it is open or not. -/
def targetOf? (ws : Workspace) (reference : NodeRef) : Option DocumentId :=
  (ws.document? reference.document).bind fun doc => doc.target? reference.node

/-- A reference stands for its target if that is open. -/
theorem liveTarget?_eq_some_iff_targetOf? {reference : NodeRef} {target : DocumentId} :
    ws.liveTarget? reference = some target ↔
      ws.targetOf? reference = some target ∧ ∃ held, ws.document? target = some held := by
  unfold liveTarget? targetOf?
  rw [Option.filter_eq_some_iff, Table.contains_iff]
  rfl

/-- What a workspace is once the listed references of a document have been joined. -/
structure Joined (ws : Workspace) (document : DocumentId) (cells : List NodeId)
    (after : Workspace) : Prop where
  /-- It is sound. -/
  sound : after.Sound
  /-- The schemas agree. -/
  schema : after.schema = ws.schema
  /-- The stores agree. -/
  repository : after.repository = ws.repository
  /-- Identifiers may have been issued. -/
  supply : ws.supply.Precedes after.supply
  /-- The document of the references is open and has at most other targets. -/
  own : ∃ doc targets, ws.document? document = some doc ∧
    after.document? document = some { doc with targets := targets }
  /-- Every other document that was open is as it was. -/
  others : ∀ {id held}, id ≠ document → ws.document? id = some held →
    after.document? id = some held
  /-- A listed reference that could be linked has been. -/
  linked : ∀ {cell location}, cell ∈ cells → ws.Joins ⟨document, cell⟩ location →
    ∃ target, after.documentAt? location = some target ∧
      after.targetOf? ⟨document, cell⟩ = some target
  /-- Every other node of the document has the target that it had. -/
  kept : ∀ {node}, (∀ location, node ∈ cells → ¬ ws.Joins ⟨document, node⟩ location) →
    after.targetOf? ⟨document, node⟩ = ws.targetOf? ⟨document, node⟩
  /-- A document that was not open is the stored one, opened under a new identifier at a free
  location for a listed reference. -/
  opened : ∀ {id held}, after.document? id = some held → ws.document? id = none →
    ¬ ws.supply.Issued id ∧ ws.documentAt? held.location = none ∧
      ws.loadAt id held.location = .ok held ∧
      ∃ cell ∈ cells, ws.Joins ⟨document, cell⟩ held.location

namespace Joined

variable (joined : ws.Joined document cells after)

include joined

/-- A document that was open has at most other targets. -/
theorem held {id : DocumentId} {doc : Document} (found : ws.document? id = some doc) :
    ∃ targets, after.document? id = some { doc with targets := targets } := by
  by_cases same : id = document
  · obtain ⟨own, targets, ownFound, ownAfter⟩ := joined.own
    rw [same, ownFound, Option.some.injEq] at found
    exact ⟨targets, by rw [same, ownAfter, found]⟩
  · exact ⟨doc.targets, joined.others same found⟩

/-- What was open at a location is open there. -/
theorem placed (sound : ws.Sound) {location : String} {id : DocumentId}
    (placed : ws.documentAt? location = some id) : after.documentAt? location = some id := by
  obtain ⟨doc, found, located⟩ := sound.indexed placed
  obtain ⟨targets, foundAfter⟩ := joined.held found
  have filed := (joined.sound.filed foundAfter).2
  change after.documentAt? doc.location = some id at filed
  rwa [located] at filed

/-- A target that was not open is not open. -/
theorem closed {target : DocumentId} (issued : ws.supply.Issued target)
    (closed : ws.document? target = none) : after.document? target = none := by
  cases found : after.document? target with
  | none => rfl
  | some held => exact absurd issued (joined.opened found closed).1

/-- A reference that stood for a document stands for it. -/
theorem live {reference : NodeRef} {target : DocumentId}
    (live : ws.liveTarget? reference = some target) : after.liveTarget? reference = some target := by
  obtain ⟨targeted, cell, cellFound⟩ := liveTarget?_eq_some_iff_targetOf?.mp live
  obtain ⟨targets, cellAfter⟩ := joined.held cellFound
  refine liveTarget?_eq_some_iff_targetOf?.mpr ⟨?_, _, cellAfter⟩
  by_cases same : reference.document = document
  · obtain ⟨place, node⟩ := reference
    change place = document at same
    subst same
    have apart (location : String) (_ : node ∈ cells) :
        ¬ ws.Joins ⟨place, node⟩ location := by
      intro joins
      have idle := joins.idle
      rw [live] at idle
      cases idle
    rw [joined.kept apart]
    exact targeted
  · obtain ⟨doc, found, held⟩ := Option.bind_eq_some_iff.mp targeted
    rw [targetOf?, joined.others same found]
    exact held

/-- A reference of the document that stood for nothing, and was not joined, stands for nothing. -/
theorem idle (sound : ws.Sound) {node : NodeId} (idle : ws.liveTarget? ⟨document, node⟩ = none)
    (apart : ∀ location, node ∈ cells → ¬ ws.Joins ⟨document, node⟩ location) :
    after.liveTarget? ⟨document, node⟩ = none := by
  refine Option.eq_none_iff_forall_ne_some.mpr fun target live => ?_
  obtain ⟨targeted, cell, cellFound⟩ := liveTarget?_eq_some_iff_targetOf?.mp live
  rw [joined.kept apart] at targeted
  obtain ⟨doc, found, held⟩ := Option.bind_eq_some_iff.mp targeted
  have closed : ws.document? target = none := by
    cases open_ : ws.document? target with
    | none => rfl
    | some other =>
      rw [liveTarget?_eq_some_iff_targetOf?.mpr ⟨targeted, other, open_⟩] at idle
      cases idle
  rw [joined.closed (sound.targetIssued found held) closed] at cellFound
  cases cellFound

/-- A joined reference stands for the document at its declared location. -/
theorem linked_live {cell : NodeId} (listed : cell ∈ cells) {location : String}
    (joins : ws.Joins ⟨document, cell⟩ location) :
    ∃ target, after.documentAt? location = some target ∧
      after.liveTarget? ⟨document, cell⟩ = some target := by
  obtain ⟨target, placed, targeted⟩ := joined.linked listed joins
  obtain ⟨held, found, -⟩ := joined.sound.indexed placed
  exact ⟨target, placed, liveTarget?_eq_some_iff_targetOf?.mpr ⟨targeted, held, found⟩⟩

/-- References declare what they declared. -/
theorem declaredLocation (node : NodeId) :
    after.declaredLocation ⟨document, node⟩ = ws.declaredLocation ⟨document, node⟩ := by
  obtain ⟨doc, targets, found, foundAfter⟩ := joined.own
  simp only [Workspace.declaredLocation, found, foundAfter, joined.schema]
  have views : ({ doc with targets := targets } : Document).cellReference? ws.schema node =
      (doc.cellReference? ws.schema node).map fun cell =>
        { cell with target := targets.find? node } := by
    unfold Document.cellReference?
    have adapts : ({ doc with targets := targets } : Document).adaptsTo ws.schema node =
        doc.adaptsTo ws.schema node := rfl
    rw [adapts]
    split <;> rfl
  rw [views]
  cases doc.cellReference? ws.schema node <;> rfl

/-- A document at a location that was free is the stored one, opened for a listed reference. -/
theorem newlyPlaced (sound : ws.Sound) {location : String} {id : DocumentId}
    (free : ws.documentAt? location = none) (placed : after.documentAt? location = some id) :
    ws.document? id = none ∧ ∃ held, after.document? id = some held ∧ held.location = location ∧
      ws.loadAt id location = .ok held ∧ ∃ cell ∈ cells, ws.Joins ⟨document, cell⟩ location := by
  obtain ⟨held, found, located⟩ := joined.sound.indexed placed
  have absent : ws.document? id = none := by
    cases before : ws.document? id with
    | none => rfl
    | some doc =>
      obtain ⟨targets, foundAfter⟩ := joined.held before
      rw [found, Option.some.injEq] at foundAfter
      rw [foundAfter] at located
      change doc.location = location at located
      have filed := (sound.filed before).2
      rw [located, free] at filed
      cases filed
  obtain ⟨-, -, loaded, needed⟩ := joined.opened found absent
  rw [located] at loaded needed
  exact ⟨absent, held, found, located, loaded, needed⟩

/-- What is found at a location has the root that was found there. -/
theorem rootTypeAt (sound : ws.Sound) (location : String) :
    after.rootTypeAt location = ws.rootTypeAt location := by
  have loads (id : DocumentId) : after.loadAt id location = ws.loadAt id location := by
    simp only [loadAt, joined.repository, joined.schema]
  unfold Workspace.rootTypeAt
  cases was : ws.documentAt? location with
  | some id =>
    obtain ⟨doc, found, -⟩ := sound.indexed was
    obtain ⟨targets, foundAfter⟩ := joined.held found
    rw [joined.placed sound was]
    simp only [rootType?, found, foundAfter]
    rfl
  | none =>
    cases now : after.documentAt? location with
    | none =>
      dsimp only
      rw [loads, ws.loadAt_identifier ws.supply.next after.supply.next]
      cases ws.loadAt ws.supply.next location <;> rfl
    | some id =>
      -- It was opened since, so it is the stored document that would have been opened before.
      obtain ⟨-, held, found, -, loaded, -⟩ := joined.newlyPlaced sound was now
      rw [ws.loadAt_identifier id ws.supply.next, loaded]
      simp only [rootType?, found]
      rfl

/-- It is judged as it was. -/
theorem judge (sound : ws.Sound) (location : String) : after.judge location = ws.judge location := by
  simp only [Workspace.judge, joined.rootTypeAt sound, joined.schema]

/-- A reference can still be linked if it could be and was not. -/
theorem joins_iff (sound : ws.Sound) {node : NodeId} {location : String} :
    after.Joins ⟨document, node⟩ location ↔
      ws.Joins ⟨document, node⟩ location ∧ node ∉ cells := by
  constructor
  · intro joins
    have declares := joins.declares
    have judged := joins.judged
    rw [joined.declaredLocation] at declares
    rw [joined.judge sound] at judged
    have idle : ws.liveTarget? ⟨document, node⟩ = none := by
      cases live : ws.liveTarget? ⟨document, node⟩ with
      | none => rfl
      | some target =>
        have idle := joins.idle
        rw [joined.live live] at idle
        cases idle
    refine ⟨⟨idle, declares, judged⟩, fun listed => ?_⟩
    obtain ⟨target, -, live⟩ := joined.linked_live listed ⟨idle, declares, judged⟩
    rw [joins.idle] at live
    cases live
  · rintro ⟨joins, unlisted⟩
    exact ⟨joined.idle sound joins.idle fun _ listed => absurd listed unlisted,
      (joined.declaredLocation node).trans joins.declares,
      (joined.judge sound location).trans joins.judged⟩

/-- A reference that came to stand for a document was listed and could be linked to it. -/
theorem joins_of_live (sound : ws.Sound) {node : NodeId}
    (idle : ws.liveTarget? ⟨document, node⟩ = none) {target : DocumentId}
    (live : after.liveTarget? ⟨document, node⟩ = some target) :
    node ∈ cells ∧ ∃ location, ws.Joins ⟨document, node⟩ location ∧
      after.documentAt? location = some target := by
  have could : ∃ location, node ∈ cells ∧ ws.Joins ⟨document, node⟩ location := by
    by_contra apart
    rw [not_exists] at apart
    rw [joined.idle sound idle fun location listed joins => apart location ⟨listed, joins⟩] at live
    cases live
  obtain ⟨location, listed, joins⟩ := could
  obtain ⟨linked, placed, stands⟩ := joined.linked_live listed joins
  rw [live, Option.some.injEq] at stands
  exact ⟨listed, location, joins, stands ▸ placed⟩

/-- No verdict changes. -/
theorem verdict (sound : ws.Sound) (node : NodeId) :
    after.verdict ⟨document, node⟩ = ws.verdict ⟨document, node⟩ := by
  cases live : ws.liveTarget? ⟨document, node⟩ with
  | some target => simp only [Workspace.verdict, live, joined.live live]
  | none =>
    cases liveAfter : after.liveTarget? ⟨document, node⟩ with
    | none =>
      simp only [Workspace.verdict, live, liveAfter, joined.declaredLocation node,
        joined.judge sound]
    | some target =>
      obtain ⟨-, location, joins, -⟩ := joined.joins_of_live sound live liveAfter
      rw [verdict_eq_ok_iff.mpr (.inr ⟨location, joins⟩),
        verdict_eq_ok_iff.mpr (.inl ⟨target, liveAfter⟩)]

/-- A reference of the document can be resolved exactly when it stands for a document once the
listed ones are joined, if it is one of these. -/
theorem live_iff (sound : ws.Sound) {cell : NodeId} (listed : cell ∈ cells) :
    (∃ target, after.liveTarget? ⟨document, cell⟩ = some target) ↔
      ws.verdict ⟨document, cell⟩ = .ok () := by
  rw [← joined.verdict sound, verdict_eq_ok_iff]
  constructor
  · exact .inl
  · rintro (live | ⟨location, joins⟩)
    · exact live
    · exact absurd listed ((joined.joins_iff sound).mp joins).2

end Joined

/-- Where nothing is joined, at most identifiers are issued. -/
theorem joined_of_none (sound : ws.Sound) {doc : Document} (found : ws.document? document = some doc)
    (none_ : ∀ cell ∈ cells, ∀ location, ¬ ws.Joins ⟨document, cell⟩ location) {supply : IdSupply}
    (precedes : ws.supply.Precedes supply) :
    ws.Joined document cells { ws with supply := supply } := by
  refine ⟨sound.of_same_documents ws.repository precedes, rfl, rfl, precedes,
    ⟨doc, doc.targets, found, found⟩, fun _ held => held, ?_, fun _ => rfl, ?_⟩
  · intro cell location listed joins
    exact absurd joins (none_ cell listed location)
  · intro id held open_ closed
    change ws.document? id = some held at open_
    rw [closed] at open_
    cases open_

/-- Conversely, where nothing was left to join, only identifiers may have been issued. -/
theorem Joined.eq_of_none (joined : ws.Joined document cells after) (sound : ws.Sound)
    (none_ : ∀ cell ∈ cells, ∀ location, ¬ ws.Joins ⟨document, cell⟩ location) :
    after = { ws with supply := after.supply } := by
  have documents : after.documents = ws.documents := by
    refine Table.eq_of_find?_eq fun id => ?_
    change after.document? id = ws.document? id
    cases before : ws.document? id with
    | none =>
      refine Option.eq_none_iff_forall_ne_some.mpr fun held found => ?_
      obtain ⟨-, -, -, cell, listed, joins⟩ := joined.opened found before
      exact none_ cell listed held.location joins
    | some doc =>
      by_cases swept : id = document
      · subst swept
        obtain ⟨targets, held⟩ := joined.held before
        have same : targets = doc.targets := by
          refine Table.eq_of_find?_eq fun node => ?_
          have kept := joined.kept fun location listed joins => none_ node listed location joins
          simp only [targetOf?, held, before, Option.bind_some] at kept
          exact kept
        rw [held, same]
      · exact joined.others swept before
  have locations : after.locations = ws.locations := by
    refine Table.eq_of_find?_eq fun location => ?_
    change after.documentAt? location = ws.documentAt? location
    cases was : ws.documentAt? location with
    | some id => exact joined.placed sound was
    | none =>
      refine Option.eq_none_iff_forall_ne_some.mpr fun id placed => ?_
      obtain ⟨-, -, -, -, -, cell, listed, joins⟩ := joined.newlyPlaced sound was placed
      exact none_ cell listed location joins
  obtain ⟨sameSchema, sameStore⟩ := And.intro joined.schema joined.repository
  cases after
  cases sameSchema
  cases sameStore
  cases documents
  cases locations
  rfl

/-- References joined one list after the other are joined.

Proof: what the first list joined stays linked, because a reference that stands for a document is
joined to no other; and what the second list could join after the first could be joined before. -/
theorem Joined.trans (sound : ws.Sound) (first : ws.Joined document earlier middle)
    (second : middle.Joined document later after) :
    ws.Joined document (earlier ++ later) after := by
  refine ⟨second.sound, second.schema.trans first.schema, second.repository.trans first.repository,
    first.supply.trans second.supply, ?own, ?others, ?linked, ?kept, ?opened⟩
  case own =>
    obtain ⟨doc, targets, found, foundMiddle⟩ := first.own
    obtain ⟨targetsAfter, foundAfter⟩ := second.held foundMiddle
    exact ⟨doc, targetsAfter, found, foundAfter⟩
  case others =>
    intro id held other found
    exact second.others other (first.others other found)
  case linked =>
    intro cell location listed joins
    by_cases early : cell ∈ earlier
    · obtain ⟨target, placed, live⟩ := first.linked_live early joins
      have liveAfter := second.live live
      exact ⟨target, second.placed first.sound placed,
        (liveTarget?_eq_some_iff_targetOf?.mp liveAfter).1⟩
    · have late : cell ∈ later := (List.mem_append.mp listed).resolve_left early
      exact second.linked late ((first.joins_iff sound).mpr ⟨joins, early⟩)
  case kept =>
    intro node apart
    rw [second.kept, first.kept]
    · exact fun location early => apart location (List.mem_append_left later early)
    · intro location late joins
      exact apart location (List.mem_append_right earlier late) ((first.joins_iff sound).mp joins).1
  case opened =>
    intro id held open_ closed
    cases before : middle.document? id with
    | some was =>
      -- The second list gives targets to its own document only, and that one was open before.
      obtain ⟨new, free, loaded, cell, listed, joins⟩ := first.opened before closed
      have other : id ≠ document := by
        rintro rfl
        obtain ⟨doc, -, found, -⟩ := first.own
        rw [closed] at found
        cases found
      rw [second.others other before, Option.some.injEq] at open_
      subst open_
      exact ⟨new, free, loaded, cell, List.mem_append_left later listed, joins⟩
    | none =>
      obtain ⟨new, free, loaded, cell, listed, joins⟩ := second.opened open_ before
      refine ⟨fun issued => new (issued.later first.supply), ?_, ?_, cell,
        List.mem_append_right earlier listed, ((first.joins_iff sound).mp joins).1⟩
      · cases was : ws.documentAt? held.location with
        | none => rfl
        | some other =>
          rw [first.placed sound was] at free
          cases free
      · rw [← loaded]
        simp only [loadAt, first.repository, first.schema]

/-- What a workspace is once a location was opened. -/
structure Opened (ws : Workspace) (location : String) (after : Workspace) : Prop where
  /-- The schemas agree. -/
  schema : after.schema = ws.schema
  /-- The stores agree. -/
  repository : after.repository = ws.repository
  /-- Identifiers may have been issued. -/
  supply : ws.supply.Precedes after.supply
  /-- A document that was open is as it was. -/
  held : ∀ {id held}, ws.document? id = some held → after.document? id = some held
  /-- A document that was not open is the stored one under a new identifier. -/
  opened : ∀ {id held}, after.document? id = some held → ws.document? id = none →
    held.location = location ∧ ¬ ws.supply.Issued id ∧ ws.documentAt? location = none ∧
      ws.loadAt id location = .ok held

/-- Opening a location opens the document stored there, or nothing. -/
theorem opened_openAt (sound : ws.Sound) (location : String)
    (distinct : (ws.openAt location).after.supply.Distinct) :
    ws.Opened location (ws.openAt location).after := by
  have unchanged : ws.Opened location ws := by
    refine ⟨rfl, rfl, .refl _, fun found => found, fun found closed => ?_⟩
    rw [closed] at found
    cases found
  cases placed : ws.documentAt? location with
  | some id =>
    rw [openAt_of_placed placed]
    exact unchanged
  | none =>
    cases loaded : ws.loadAt ws.supply.next location with
    | error error =>
      rw [openAt_of_unloadable placed loaded]
      exact unchanged
    | ok doc =>
      obtain ⟨events, opening⟩ := openAt_of_loadable placed loaded
      obtain ⟨identified, located, -⟩ := loadAt_spec loaded
      rw [opening] at distinct ⊢
      have absent := sound.document?_next distinct
      rw [← identified] at absent
      refine ⟨rfl, rfl, ws.supply.precedes_advance, ?held, ?opened⟩
      case held => exact fun found => document?_register_of_found absent found
      case opened =>
        intro id held found closed
        rw [document?_register] at found
        split at found
        · next same =>
          cases found
          rw [same, identified]
          exact ⟨located, distinct.not_issued_next, placed, loaded⟩
        · change ws.document? id = some held at found
          rw [closed] at found
          cases found

/-- One reference linked to the document at its location is joined. -/
theorem joined_of_linked {opening : Workspace} {location : String} {cell : NodeId}
    {target : DocumentId} {doc : Document} (opened : ws.Opened location opening)
    (found : ws.document? document = some doc) (joins : ws.Joins ⟨document, cell⟩ location)
    (placed : opening.documentAt? location = some target)
    (sound : (opening.replace document
      { doc with targets := doc.targets.insert cell target }).Sound) :
    ws.Joined document [cell]
      (opening.replace document { doc with targets := doc.targets.insert cell target }) := by
  have foundAfter := document?_replace_self (opened.held found)
    { doc with targets := doc.targets.insert cell target }
  refine ⟨sound, opened.schema, opened.repository, opened.supply, ⟨doc, _, found, foundAfter⟩,
    ?others, ?linked, ?kept, ?opened⟩
  case others =>
    intro id held other heldFound
    rw [document?_replace, if_neg other]
    exact opened.held heldFound
  case linked =>
    intro listed place isListed otherJoins
    rw [List.mem_singleton] at isListed
    subst isListed
    have same := joins.declares.symm.trans otherJoins.declares
    rw [Except.ok.injEq] at same
    refine ⟨target, same ▸ placed, ?_⟩
    rw [targetOf?, foundAfter, Option.bind_some, Document.target?, Table.find?_insert, if_pos rfl]
  case kept =>
    intro node apart
    have other : node ≠ cell := by
      rintro rfl
      exact apart location (List.mem_singleton.mpr rfl) joins
    simp only [targetOf?, foundAfter, found, Option.bind_some, Document.target?,
      Table.find?_insert, if_neg other]
  case opened =>
    intro id held heldFound closed
    rcases of_document?_replace heldFound with ⟨same, -⟩ | ⟨-, inOpening⟩
    · rw [same, found] at closed
      cases closed
    · obtain ⟨located, new, free, loaded⟩ := opened.opened inOpening closed
      rw [← located] at free loaded joins
      exact ⟨new, free, loaded, cell, List.mem_singleton.mpr rfl, joins⟩

/-- A resolve joins its reference. -/
theorem joined_resolve (sound : ws.Sound) {doc : Document}
    (found : ws.document? document = some doc) (cell : NodeId)
    (distinct : (ws.resolve ⟨document, cell⟩).after.supply.Distinct) :
    ws.Joined document [cell] (ws.resolve ⟨document, cell⟩).after := by
  have soundAfter := sound.steps (ws.resolve_steps _) distinct
  have precedes := (Steps.keeps (ws.resolve_steps ⟨document, cell⟩)).2
  have allowed := verdict_of_ok sound distinct
  have resolves := resolve_resolves sound distinct
  generalize ws.resolve ⟨document, cell⟩ = outcome at *
  cases resolves with
  | live live =>
    refine joined_of_none sound found (fun other listed location joins => ?_) (.refl _)
    rw [List.mem_singleton] at listed
    have idle := joins.idle
    rw [listed, live] at idle
    cases idle
  | refused idle error supply events =>
    refine joined_of_none sound found (fun other listed location joins => ?_) precedes
    rw [List.mem_singleton] at listed
    obtain ⟨target, done⟩ := allowed.mpr (verdict_eq_ok_iff.mpr (.inr ⟨location, listed ▸ joins⟩))
    cases done
  | @linked location target held idle declares placed isCell heldFound events =>
    have opened := opened_openAt sound location distinct
    have same := (opened.held found).symm.trans heldFound
    rw [Option.some.injEq] at same
    subst same
    rcases verdict_eq_ok_iff.mp (allowed.mp ⟨target, rfl⟩) with ⟨other, live⟩ | ⟨other, joins⟩
    · rw [idle] at live
      cases live
    · have sameLocation := joins.declares.symm.trans declares
      rw [Except.ok.injEq] at sameLocation
      subst sameLocation
      exact joined_of_linked opened found joins placed soundAfter

/-- Resolving several references joins them.

Proof: induction on the references, each of which is joined after those before it. -/
theorem joined_resolveEach (sound : ws.Sound) {doc : Document}
    (found : ws.document? document = some doc) (cells : List (NodeId × Option String))
    (distinct : (resolveEach document cells ws).after.supply.Distinct) :
    ws.Joined document (cells.map (·.1)) (resolveEach document cells ws).after := by
  induction cells generalizing ws doc with
  | nil => exact joined_of_none sound found (fun _ listed => absurd listed List.not_mem_nil) (.refl _)
  | cons cell rest inductionHypothesis =>
    rw [after_resolveEach_cons] at distinct ⊢
    have hereDistinct := distinct.earlier (Steps.keeps (resolveEach_steps _ document rest)).2
    have here := joined_resolve sound found cell.1 hereDistinct
    obtain ⟨own, targets, -, foundAfter⟩ := here.own
    exact here.trans sound (inductionHypothesis here.sound foundAfter distinct)

end Workspace

end LevelGraph
