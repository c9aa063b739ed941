import LevelGraph.Proofs.Document.Cells
import LevelGraph.Proofs.Workspace.Verdict

/-!
# A folder in another order

Resolving a reference looks at types, attributes and targets of its document, never at the order
in which a folder lists its cells. So a workspace whose folder has another order reaches the same
verdicts and stands for the same documents, whether the reordered document counts as dirty or not.
Only the list of the folder's references itself is another one.

Any other order of a folder can be reached: cells are distinct, so moving them one after the other
comes to it.
-/

namespace LevelGraph

namespace Document

variable {schema : Schema}

/-- The document with the cells of a folder in another order, dirty or not. -/
def reorder (doc : Document) (folder : NodeId) (order : List NodeId) (dirty : Bool) : Document :=
  { doc with
    nodes := doc.nodes.modify folder fun node =>
      { node with children := node.children.insert Names.cellChild order }
    dirty := dirty }

variable (doc : Document) (folder : NodeId) (order : List NodeId) (dirty : Bool)

/-- Only the folder is another node, and only in its list of cells. -/
theorem node?_reorder (id : NodeId) :
    (doc.reorder folder order dirty).node? id =
      (doc.node? id).map fun node =>
        if id = folder then { node with children := node.children.insert Names.cellChild order }
        else node := by
  unfold reorder node?
  rw [Table.find?_modify]
  split
  · rfl
  · rw [Option.map_id']

/-- No node has another type. -/
theorem adaptsTo_reorder (id : NodeId) (tag : TypeId) :
    (doc.reorder folder order dirty).adaptsTo schema id tag = doc.adaptsTo schema id tag := by
  unfold adaptsTo
  rw [node?_reorder]
  cases doc.node? id with
  | none => rfl
  | some node =>
    dsimp only [Option.map_some]
    split <;> rfl

/-- No node has other attributes. -/
theorem attribute?_reorder (id : NodeId) (name : String) :
    (doc.reorder folder order dirty).attribute? id name = doc.attribute? id name := by
  unfold attribute?
  rw [node?_reorder, Option.bind_map]
  refine congrArg (Option.bind _) (funext fun node => ?_)
  dsimp only [Function.comp]
  split <;> rfl

/-- The root has the same type. -/
theorem rootType?_reorder : (doc.reorder folder order dirty).rootType? = doc.rootType? := by
  unfold rootType?
  rw [node?_reorder, Option.map_map]
  refine congrArg (Option.map · _) (funext fun node => ?_)
  dsimp only [Function.comp]
  split <;> rfl

/-- All other slots list the same children in the same order. -/
theorem children_reorder (id : NodeId) {slot : String} (other : slot ≠ Names.cellChild) :
    (doc.reorder folder order dirty).children id slot = doc.children id slot := by
  unfold children
  rw [node?_reorder]
  cases doc.node? id with
  | none => rfl
  | some node =>
    dsimp only [Option.map_some]
    split
    · rw [Node.slot, Table.find?_insert, if_neg other, Node.slot]
    · rfl

/-- The first folder of a game stays the first. -/
theorem folder?_reorder (game : NodeId) :
    (doc.reorder folder order dirty).folder? schema game = doc.folder? schema game := by
  have other : Names.placementsFolderChild ≠ Names.cellChild := by decide
  simp only [folder?, adaptsTo_reorder, children_reorder doc folder order dirty game other]

variable {doc folder order}

/-- The reordered folder lists the new order. -/
theorem children_reorder_self {node : Node} (found : doc.node? folder = some node) :
    (doc.reorder folder order dirty).children folder Names.cellChild = order := by
  unfold children
  rw [node?_reorder, found]
  dsimp only [Option.map_some]
  rw [if_pos rfl, Node.slot, Table.find?_insert, if_pos rfl, Option.getD_some]

/-- Of two orders given one after the other, the later one stays. -/
theorem reorder_reorder (doc : Document) (folder : NodeId) (earlier order : List NodeId)
    (before dirty : Bool) :
    (doc.reorder folder earlier before).reorder folder order dirty =
      doc.reorder folder order dirty := by
  simp only [reorder, Table.modify_modify, Table.insert_insert]

/-- The reordered folder's references are in the new order. -/
theorem folderCells_reorder {node : Node} (found : doc.node? folder = some node) :
    (doc.reorder folder order dirty).folderCells schema folder =
      order.filter fun child =>
        doc.adaptsTo schema child schema.tags.placementsCellReference := by
  unfold folderCells
  rw [children_reorder_self dirty found]
  simp only [adaptsTo_reorder]

/-- They are the same references. -/
theorem folderCells_reorder_perm {game : NodeId} (first : doc.folder? schema game = some folder)
    (perm : order.Perm (doc.children folder Names.cellChild)) :
    ((doc.reorder folder order dirty).folderCells schema folder).Perm
      (doc.folderCells schema folder) := by
  unfold folder? at first
  split at first
  · have adapts := List.find?_some first
    obtain ⟨node, found⟩ := (Table.contains_iff _ _).mp (contains_of_adaptsTo adapts)
    rw [folderCells_reorder dirty found]
    exact perm.filter _
  · cases first

/-- A move of a cell within its folder reorders the folder. -/
theorem after_moveItem {editor : CollectionEditor} {item : NodeId} {offset : Int}
    (moving : moveByOffset (doc.children folder Names.cellChild) item offset = some order) :
    doc.after (.moveItem editor folder Names.cellChild item offset) =
      doc.reorder folder order true := by
  cases found : doc.node? folder with
  | none =>
    simp only [children, found] at moving
    cases moving
  | some node =>
    simp only [children, found] at moving
    simp only [Document.after, Edit.result?, CollectionEditor.move, moveChild, found, moving,
      Option.getD_some, reorder, Table.modify_eq_insert found]

end Document

namespace Workspace

/-- The workspace with the cells of a folder in another order. -/
def reorder (ws : Workspace) (document : DocumentId) (folder : NodeId) (order : List NodeId)
    (dirty : Bool) : Workspace :=
  { ws with documents := ws.documents.modify document fun doc => doc.reorder folder order dirty }

variable (ws : Workspace) (document : DocumentId) (folder : NodeId) (order : List NodeId)
  (dirty : Bool)

/-- Only the document with the folder is another one. -/
theorem document?_reorder (id : DocumentId) :
    (ws.reorder document folder order dirty).document? id =
      (ws.document? id).map fun doc =>
        if id = document then doc.reorder folder order dirty else doc := by
  unfold reorder document?
  rw [Table.find?_modify]
  split
  · rfl
  · rw [Option.map_id']

variable {ws document} in
/-- It is the reordered one, if it is open. -/
theorem document?_reorder_self {doc : Document} (found : ws.document? document = some doc) :
    (ws.reorder document folder order dirty).document? document =
      some (doc.reorder folder order dirty) := by
  rw [document?_reorder, found, Option.map_some, if_pos rfl]

variable {ws document folder order} in
/-- An editor's move of a cell reorders its folder. -/
theorem edit_moveItem {doc : Document} (found : ws.document? document = some doc)
    {editor : CollectionEditor} {item : NodeId} {offset : Int}
    (moving : moveByOffset (doc.children folder Names.cellChild) item offset = some order) :
    ws.edit document (.moveItem editor folder Names.cellChild item offset) =
      ws.reorder document folder order true := by
  simp only [edit, found, Document.after_moveItem moving, replace, reorder,
    Table.modify_eq_insert found]

/-- Of two orders given one after the other, the later one stays in the workspace as well. -/
theorem reorder_reorder (earlier : List NodeId) (before : Bool) :
    (ws.reorder document folder earlier before).reorder document folder order dirty =
      ws.reorder document folder order dirty := by
  simp only [reorder, Table.modify_modify, Document.reorder_reorder]

variable {ws document folder order} in
/-- Declaring the reordered document stored makes it clean. -/
theorem edit_markClean_reorder {doc : Document} (found : ws.document? document = some doc) :
    (ws.reorder document folder order true).edit document .markClean =
      ws.reorder document folder order false := by
  unfold edit
  rw [document?_reorder_self folder order true found]
  simp only [replace, reorder]
  rw [Table.modify_modify, Table.modify_eq_insert found, Table.modify_eq_insert found]
  rfl

variable {ws document folder order} in
/-- A workspace with a folder in another order can be reached: the editor moves the cells. -/
theorem Reachable.reorder (reachable : ws.Reachable) (distinct : ws.supply.Distinct)
    {doc : Document} (found : ws.document? document = some doc)
    (perm : order.Perm (doc.children folder Names.cellChild))
    (other : order ≠ doc.children folder Names.cellChild) (dirty : Bool) :
    (ws.reorder document folder order dirty).Reachable := by
  obtain ⟨node, folderFound⟩ : ∃ node, doc.node? folder = some node := by
    cases folderFound : doc.node? folder with
    | some node => exact ⟨node, rfl⟩
    | none =>
      have nothing : doc.children folder Names.cellChild = [] := by
        simp only [Document.children, folderFound]
      rw [nothing] at perm other
      exact absurd perm.eq_nil other
  have move {now : Workspace} (before : now.Reachable) (sameSupply : now.supply = ws.supply)
      {held : Document} (heldFound : now.document? document = some held) {next : List NodeId}
      (step : Moves (held.children folder Names.cellChild) next) :
      (now.reorder document folder next true).Reachable := by
    obtain ⟨item, offset, moving⟩ := step
    have edited : now.edit document (.moveItem ⟨"", ⟨0⟩⟩ folder Names.cellChild item offset) =
        now.reorder document folder next true := edit_moveItem heldFound moving
    rw [← edited]
    refine before.performed (.edit document _) ⟨rfl, fun _ _ _ fresh => nomatch fresh⟩ ?_
    change (now.edit document _).supply.Distinct
    rw [edited]
    exact sameSupply ▸ distinct
  have arises := reachable.sound.arises found
  have moves := moves_of_perm perm.symm (arises.sound.nodup_children folder Names.cellChild)
  have moved := (Relation.reflTransGen_iff_eq_or_transGen.mp moves).resolve_left other
  have dirtied : (ws.reorder document folder order true).Reachable := by
    clear perm other moves
    induction moved with
    | single step => exact move reachable rfl found step
    | @tail middle last earlier step inductionHypothesis =>
      rw [← ws.reorder_reorder document folder last true middle true]
      refine move inductionHypothesis rfl (document?_reorder_self folder middle true found) ?_
      rw [Document.children_reorder_self true folderFound]
      exact step
  cases dirty with
  | true => exact dirtied
  | false =>
    rw [← edit_markClean_reorder found]
    refine dirtied.performed (.edit document .markClean) ⟨rfl, fun _ _ _ fresh => nomatch fresh⟩ ?_
    change ((ws.reorder document folder order true).edit document .markClean).supply.Distinct
    rw [edit_markClean_reorder found]
    exact distinct

/-- References stand for the same documents in any order. -/
theorem liveTarget?_reorder (reference : NodeRef) :
    (ws.reorder document folder order dirty).liveTarget? reference = ws.liveTarget? reference := by
  refine Option.ext fun target => ?_
  rw [liveTarget?_eq_some_iff, liveTarget?_eq_some_iff, document?_reorder, document?_reorder]
  cases ws.document? reference.document with
  | none => simp
  | some doc =>
    simp only [Option.map_some, Option.some.injEq, exists_eq_left', Option.map_eq_some_iff]
    refine and_congr ?_ ?_
    · split <;> rfl
    · constructor
      · rintro ⟨held, before, found, -⟩
        exact ⟨before, found⟩
      · rintro ⟨held, found⟩
        exact ⟨_, held, found, rfl⟩

/-- They declare the same locations in any order. -/
theorem declaredLocation_reorder (reference : NodeRef) :
    (ws.reorder document folder order dirty).declaredLocation reference =
      ws.declaredLocation reference := by
  have seen (doc : Document) :
      (if reference.document = document then doc.reorder folder order dirty else doc).cellReference?
        ws.schema reference.node = doc.cellReference? ws.schema reference.node := by
    split
    · simp only [Document.cellReference?, Document.adaptsTo_reorder, Document.attribute?_reorder]
      rfl
    · rfl
  have schema : (ws.reorder document folder order dirty).schema = ws.schema := rfl
  unfold declaredLocation
  rw [document?_reorder, schema]
  cases ws.document? reference.document with
  | none => rfl
  | some doc => simp only [Option.map_some, seen]

/-- What a location is worth as a target does not depend on the order. -/
theorem judge_reorder (location : String) :
    (ws.reorder document folder order dirty).judge location = ws.judge location := by
  have roots (id : DocumentId) :
      (ws.reorder document folder order dirty).rootType? id = ws.rootType? id := by
    unfold rootType?
    rw [document?_reorder]
    cases ws.document? id with
    | none => rfl
    | some doc =>
      simp only [Option.map_some, Option.bind_some]
      split
      · exact doc.rootType?_reorder folder order dirty
      · rfl
  have places : (ws.reorder document folder order dirty).rootTypeAt location =
      ws.rootTypeAt location := by
    have located : (ws.reorder document folder order dirty).documentAt? location =
        ws.documentAt? location := rfl
    unfold rootTypeAt
    rw [located]
    cases ws.documentAt? location with
    | some id => exact congrArg Except.ok (roots id)
    | none => rfl
  unfold judge
  rw [places]
  rfl

/-- The same references can be linked at the same locations. -/
theorem joins_reorder {reference : NodeRef} {location : String} :
    (ws.reorder document folder order dirty).Joins reference location ↔
      ws.Joins reference location := by
  constructor
  · rintro ⟨idle, declares, judged⟩
    rw [liveTarget?_reorder] at idle
    rw [declaredLocation_reorder] at declares
    rw [judge_reorder] at judged
    exact ⟨idle, declares, judged⟩
  · rintro ⟨idle, declares, judged⟩
    exact ⟨(ws.liveTarget?_reorder ..).trans idle, (ws.declaredLocation_reorder ..).trans declares,
      (ws.judge_reorder ..).trans judged⟩

/-- So the verdict on a reference does not depend on it either. -/
theorem verdict_reorder (reference : NodeRef) :
    (ws.reorder document folder order dirty).verdict reference = ws.verdict reference := by
  simp only [verdict, liveTarget?_reorder, declaredLocation_reorder, judge_reorder]

end Workspace

end LevelGraph
