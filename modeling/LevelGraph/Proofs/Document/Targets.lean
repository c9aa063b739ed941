import LevelGraph.Document.View
import LevelGraph.Proofs.Document.Change

/-!
# What an edit leaves of a node

A node that is there before and after an edit has the type that it had, and every attribute but
the one that the edit sets. Its target goes with the node and not otherwise: a removal takes
away the targets of exactly the nodes that are, or are below, the one it is to remove. So what
was true of a node when it was linked stays true for as long as nobody edits just that.
-/

namespace LevelGraph

/-- The node that an edit is to take out of the tree, with all that is below it. -/
def Edit.gone? : Edit → Option NodeId
  | removeChild _ _ child => some child
  | removeNode node => some node
  | removeItem _ _ _ item => some item
  | _ => none

namespace Document

variable {doc changed : Document} {edit : Edit}

/-- An edit that is to take out a node strikes it off the tree and drops it. -/
theorem struck_of_gone? {gone : NodeId} (sound : doc.Sound) (removes : edit.gone? = some gone)
    (done : edit.result? doc = some changed) :
    ∃ struck, Struck doc.nodes struck gone ∧ changed = doc.withoutSubtree struck gone := by
  cases edit with
  | removeChild parent slot child =>
    cases removes
    obtain ⟨struck, strike, -, same⟩ := struck_of_removeChild sound done
    exact ⟨struck, strike, same⟩
  | removeNode node =>
    cases removes
    obtain ⟨struck, strike, -, same⟩ := struck_of_removeNode sound (ok_of_toOption done)
    exact ⟨struck, strike, same⟩
  | removeItem editor owner slot item =>
    cases removes
    obtain ⟨struck, strike, -, same⟩ := struck_of_removeChild sound done
    exact ⟨struck, strike, same⟩
  | setAttribute | append | setTarget | insertItem | moveItem | markClean => cases removes

/-- Dropping takes away the targets of exactly the nodes below the one dropped. -/
theorem target?_withoutSubtree {struck : Table NodeId Node} {gone id : NodeId} {target : DocumentId}
    (sound : doc.Sound) (strike : Struck doc.nodes struck gone) :
    (doc.withoutSubtree struck gone).target? id = some target ↔
      doc.target? id = some target ∧ ¬ Below doc.nodes gone id := by
  have only : BelowAny struck [gone] id ↔ Below doc.nodes gone id := by
    rw [← strike.below_iff sound.tree]
    simp [BelowAny]
  obtain ⟨dropped, kept⟩ := find?_dropSubtrees struck doc.targets [gone] id
  rw [only] at dropped kept
  change (dropSubtrees struck doc.targets [gone]).2.find? id = some target ↔
    doc.targets.find? id = some target ∧ _
  by_cases below : Below doc.nodes gone id
  · simp [below, (dropped below).2]
  · simp [below, (kept below).2]

/-- Every edit but a link, and but declaring a document stored, writes nodes and marks the document. It
leaves the targets as they are unless it removes a node. -/
theorem marked_of_result? (unlinked : edit.links = false) (own : edit ≠ .markClean)
    (done : edit.result? doc = some changed) :
    ∃ nodes targets, changed = { doc with nodes := nodes, targets := targets, dirty := true } ∧
      (edit.gone? = none → targets = doc.targets) := by
  cases edit with
  | setAttribute node name value =>
    simp only [Edit.result?, setAttribute] at done
    split at done
    · cases done
    · cases done
      exact ⟨_, _, rfl, fun _ => rfl⟩
  | append parent slot type fresh | insertItem editor parent slot fresh =>
    simp only [Edit.result?, CollectionEditor.insert, append] at done
    split at done
    · cases done
    · cases done
      exact ⟨_, _, rfl, fun _ => rfl⟩
  | removeChild parent slot child | removeItem editor parent slot child =>
    simp only [Edit.result?, CollectionEditor.remove, removeChild] at done
    split at done
    · cases done
    · split at done
      · cases done
        exact ⟨_, _, rfl, nofun⟩
      · cases done
  | removeNode node =>
    simp only [Edit.result?, removeNode] at done
    split at done
    · cases done
    · split at done
      · cases done
      · cases done
        exact ⟨_, _, rfl, nofun⟩
  | moveItem editor owner slot item offset =>
    simp only [Edit.result?, CollectionEditor.move, moveChild] at done
    split at done
    · cases done
    · split at done
      · cases done
      · cases done
        exact ⟨_, _, rfl, fun _ => rfl⟩
  | markClean => exact absurd rfl own
  | setTarget node target => cases unlinked

/-- An edit that removes nothing and links nothing leaves the targets as they are. -/
theorem targets_of_result? (unlinked : edit.links = false) (removes : edit.gone? = none)
    (done : edit.result? doc = some changed) : changed.targets = doc.targets := by
  by_cases own : edit = .markClean
  · subst own
    cases done
    rfl
  · obtain ⟨nodes, targets, rfl, kept⟩ := marked_of_result? unlinked own done
    exact kept removes

/-- An edit that applies takes out a node, or one above it. -/
def Drops (doc : Document) (edit : Edit) (id : NodeId) : Prop :=
  ∃ changed gone, edit.result? doc = some changed ∧ edit.gone? = some gone ∧
    Below doc.nodes gone id

/-- After an edit other than linking, a node has the target that it had, unless the edit dropped
the node. -/
theorem target?_after (sound : doc.Sound) (unlinked : edit.links = false) {id : NodeId}
    {target : DocumentId} :
    (doc.after edit).target? id = some target ↔
      doc.target? id = some target ∧ ¬ doc.Drops edit id := by
  unfold Document.after
  cases applied : edit.result? doc with
  | none =>
    have spared : ¬ doc.Drops edit id := by
      rintro ⟨changed, gone, done, -⟩
      rw [applied] at done
      cases done
    rw [Option.getD_none, and_iff_left spared]
  | some changed =>
    rw [Option.getD_some]
    cases removes : edit.gone? with
    | none =>
      have spared : ¬ doc.Drops edit id := by
        rintro ⟨-, gone, -, given, -⟩
        rw [removes] at given
        cases given
      rw [target?, targets_of_result? unlinked removes applied, and_iff_left spared]
      rfl
    | some gone =>
      obtain ⟨struck, strike, rfl⟩ := struck_of_gone? sound removes applied
      have drops : doc.Drops edit id ↔ Below doc.nodes gone id := by
        constructor
        · rintro ⟨-, other, -, given, below⟩
          rw [removes, Option.some.injEq] at given
          exact given ▸ below
        · exact fun below => ⟨_, gone, applied, removes, below⟩
      rw [target?_withoutSubtree sound strike, drops]

/-- A node written over another one has its attributes, if it has those of the node that was
there. -/
theorem attributes_of_insert {nodes : Table NodeId Node} {place id : NodeId}
    {old node written held : Node}
    (foundAfter : (nodes.insert place written).find? id = some held)
    (found : nodes.find? id = some node) (here : nodes.find? place = some old)
    (same : written.attributes = old.attributes) : held.attributes = node.attributes := by
  rw [Table.find?_insert] at foundAfter
  split at foundAfter
  · next samePlace =>
    rw [samePlace, here, Option.some.injEq] at found
    rw [Option.some.injEq] at foundAfter
    rw [← foundAfter, same, found]
  · rw [found, Option.some.injEq] at foundAfter
    rw [foundAfter]

/-- A node that an edit leaves there has the attributes that it had, but for the one that the
edit sets. -/
theorem attribute_of_result? (sound : doc.Sound) (admits : doc.Admits edit)
    (done : edit.result? doc = some changed) {id : NodeId} {node held : Node}
    (found : doc.nodes.find? id = some node) (foundAfter : changed.nodes.find? id = some held)
    {name : String} (spared : ∀ value, edit ≠ .setAttribute id name value) :
    held.attributes.find? name = node.attributes.find? name := by
  cases edit with
  | setAttribute place written value =>
    simp only [Edit.result?, setAttribute] at done
    split at done
    · cases done
    · next old here =>
      cases done
      change (doc.nodes.insert place _).find? id = some held at foundAfter
      by_cases samePlace : id = place
      · have otherName : name ≠ written := by
          rintro rfl
          exact spared value (by rw [samePlace])
        rw [Table.find?_insert, if_pos samePlace, Option.some.injEq] at foundAfter
        rw [← foundAfter, Table.find?_insert, if_neg otherName]
        rw [samePlace, (show doc.nodes.find? place = some old from here), Option.some.injEq] at found
        rw [found]
      · rw [Table.find?_insert, if_neg samePlace, found, Option.some.injEq] at foundAfter
        rw [foundAfter]
  | append parent slot type fresh | insertItem editor parent slot fresh =>
    have notFresh : id ≠ fresh := by
      rintro rfl
      have absent := (doc.nodes.not_contains_iff id).mp (admits id rfl)
      rw [absent] at found
      cases found
    simp only [Edit.result?, CollectionEditor.insert, append] at done
    split at done
    · cases done
    · next old here =>
      cases done
      change ((doc.nodes.insert parent _).insert fresh _).find? id = some held at foundAfter
      rw [Table.find?_insert, if_neg notFresh] at foundAfter
      rw [attributes_of_insert foundAfter found here rfl]
  | moveItem editor owner slot item offset =>
    simp only [Edit.result?, CollectionEditor.move, moveChild] at done
    split at done
    · cases done
    · next old here =>
      split at done
      · cases done
      · cases done
        rw [attributes_of_insert foundAfter found here rfl]
  | removeChild _ _ gone | removeNode gone | removeItem _ _ _ gone =>
    obtain ⟨struck, strike, rfl⟩ := struck_of_gone? sound rfl done
    obtain ⟨-, left⟩ := (sound.tree.find?_dropped strike doc.targets).mp foundAfter
    obtain ⟨slots, changed, -⟩ := strike.slots found
    rw [changed, Option.some.injEq] at left
    rw [← left]
  | setTarget place target =>
    simp only [Edit.result?, setTarget] at done
    split at done
    · cases done
      rw [Option.some.inj (foundAfter.symm.trans found)]
    · cases done
  | markClean =>
    cases done
    rw [Option.some.inj (foundAfter.symm.trans found)]

/-- A node seen as something is there. -/
theorem contains_of_adaptsTo {schema : Schema} {id : NodeId} {tag : TypeId}
    (adapts : doc.adaptsTo schema id tag = true) : doc.contains id = true := by
  unfold adaptsTo at adapts
  split at adapts
  · next node found => exact (Table.contains_iff _ _).mpr ⟨node, found⟩
  · cases adapts

/-- A node that an edit leaves there is still of a type that derives from another. -/
theorem adaptsTo_after (sound : doc.Sound) (admits : doc.Admits edit) {schema : Schema}
    {id : NodeId} {tag : TypeId} (adapts : doc.adaptsTo schema id tag = true)
    (held : (doc.after edit).contains id = true) : (doc.after edit).adaptsTo schema id tag = true := by
  unfold Document.after at held ⊢
  cases applied : edit.result? doc with
  | none => exact adapts
  | some changed =>
    rw [applied, Option.getD_some] at held
    rw [Option.getD_some]
    obtain ⟨node, found⟩ := (Table.contains_iff _ _).mp (contains_of_adaptsTo adapts)
    obtain ⟨left, leftFound⟩ := (Table.contains_iff _ _).mp held
    have sameType := (change_of_result? sound admits applied).same_type found leftFound
    simp only [adaptsTo, node?, found] at adapts
    simp only [adaptsTo, node?, leftFound, sameType, adapts]

/-- A node that an edit leaves there has every attribute that it had, but for the one that the edit
sets. -/
theorem attribute?_after (sound : doc.Sound) (admits : doc.Admits edit) {id : NodeId}
    (was : doc.contains id = true) (held : (doc.after edit).contains id = true)
    {name : String} (spared : ∀ value, edit ≠ .setAttribute id name value) :
    (doc.after edit).attribute? id name = doc.attribute? id name := by
  unfold Document.after at held ⊢
  cases applied : edit.result? doc with
  | none => rfl
  | some changed =>
    rw [applied, Option.getD_some] at held
    rw [Option.getD_some]
    obtain ⟨node, found⟩ := (Table.contains_iff _ _).mp was
    obtain ⟨left, leftFound⟩ := (Table.contains_iff _ _).mp held
    have same := attribute_of_result? sound admits applied found leftFound spared
    simp only [attribute?, node?, found, leftFound, Option.bind_some, same]

end Document

end LevelGraph
