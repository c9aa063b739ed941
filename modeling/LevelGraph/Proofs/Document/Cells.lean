import LevelGraph.Proofs.Document.Alike

/-!
# The cell references of a game

Sweeps see of a game only its cell references and the locations that they declare. That
list is determined by types, children and attributes, so documents that look alike have the
same one, whatever their references stand for.
-/

namespace LevelGraph

namespace Document

variable {schema : Schema} {doc other : Document}

/-- The cell references of a game's first placements folder, each with the location that it
declares. -/
def gameCells? (schema : Schema) (doc : Document) (game : NodeId) :
    Option (List (NodeId × Option String)) :=
  ((doc.game? schema game).bind (·.folder)).map fun folder =>
    folder.cells.map fun cell => (cell.node, cell.location)

/-- A cell reference with the location that it declares. -/
def declaredCell? (schema : Schema) (doc : Document) (cell : NodeId) :
    Option (NodeId × Option String) :=
  if doc.adaptsTo schema cell schema.tags.placementsCellReference then
    some (cell, doc.attribute? cell Names.uriAttribute)
  else none

/-- The list in terms of types, children and attributes. -/
theorem gameCells?_eq (schema : Schema) (doc : Document) (game : NodeId) :
    doc.gameCells? schema game =
      if doc.adaptsTo schema game schema.tags.game then
        (doc.children game Names.placementsFolderChild).findSome? fun folder =>
          if doc.adaptsTo schema folder schema.tags.placementsFolder then
            some ((doc.children folder Names.cellChild).filterMap (doc.declaredCell? schema))
          else none
      else none := by
  have cells (list : List NodeId) :
      (list.filterMap (doc.cellReference? schema)).map (fun cell => (cell.node, cell.location)) =
        list.filterMap (doc.declaredCell? schema) := by
    rw [List.map_filterMap]
    refine congrArg (list.filterMap ·) (funext fun cell => ?_)
    unfold cellReference? declaredCell?
    split <;> rfl
  have folders (list : List NodeId) :
      (list.findSome? (doc.placementsFolder? schema)).map
          (fun folder => folder.cells.map fun cell => (cell.node, cell.location)) =
        list.findSome? fun folder =>
          if doc.adaptsTo schema folder schema.tags.placementsFolder then
            some ((doc.children folder Names.cellChild).filterMap (doc.declaredCell? schema))
          else none := by
    rw [List.map_findSome?]
    refine congrArg (list.findSome? ·) (funext fun folder => ?_)
    simp only [Function.comp, placementsFolder?]
    split
    · rw [Option.map_some, cells]
    · rfl
  unfold gameCells? game?
  split
  · exact folders _
  · rfl

/-- Documents that look alike have the same cell references. -/
theorem Alike.gameCells? (alike : doc.Alike other) (game : NodeId) :
    other.gameCells? schema game = doc.gameCells? schema game := by
  have cells : other.declaredCell? schema = doc.declaredCell? schema := by
    funext cell
    simp only [declaredCell?, alike.adaptsTo, alike.attribute?]
  simp only [gameCells?_eq, alike.adaptsTo, alike.children, cells]

/-- The first placements folder of a game. -/
def folder? (schema : Schema) (doc : Document) (game : NodeId) : Option NodeId :=
  if doc.adaptsTo schema game schema.tags.game then
    (doc.children game Names.placementsFolderChild).find? fun child =>
      doc.adaptsTo schema child schema.tags.placementsFolder
  else none

/-- The cell references in a folder, in order. -/
def folderCells (schema : Schema) (doc : Document) (folder : NodeId) : List NodeId :=
  (doc.children folder Names.cellChild).filter fun child =>
    doc.adaptsTo schema child schema.tags.placementsCellReference

/-- A cell reference with the location that it declares. -/
def declaration (doc : Document) (cell : NodeId) : NodeId × Option String :=
  (cell, doc.attribute? cell Names.uriAttribute)

/-- A search for the first image finds the image of the first element that passes. -/
theorem findSome?_ite {α β : Type} (passes : α → Bool) (image : α → β) (list : List α) :
    (list.findSome? fun item => if passes item then some (image item) else none) =
      (list.find? passes).map image := by
  induction list with
  | nil => rfl
  | cons item rest inductionHypothesis =>
    rw [List.findSome?_cons, List.find?_cons]
    cases passes item with
    | true => rfl
    | false => exact inductionHypothesis

/-- The images of what passes are the images of a filtered list. -/
theorem filterMap_ite {α β : Type} (passes : α → Bool) (image : α → β) (list : List α) :
    (list.filterMap fun item => if passes item then some (image item) else none) =
      (list.filter passes).map image := by
  induction list with
  | nil => rfl
  | cons item rest inductionHypothesis =>
    rw [List.filterMap_cons, List.filter_cons, inductionHypothesis]
    cases passes item <;> rfl

/-- The cell references of a game are those of its first folder. -/
theorem gameCells?_eq_folder (schema : Schema) (doc : Document) (game : NodeId) :
    doc.gameCells? schema game = (doc.folder? schema game).map fun folder =>
      (doc.folderCells schema folder).map doc.declaration := by
  have cells (list : List NodeId) : list.filterMap (doc.declaredCell? schema) =
      (list.filter fun child =>
        doc.adaptsTo schema child schema.tags.placementsCellReference).map doc.declaration :=
    filterMap_ite _ _ list
  rw [gameCells?_eq, folder?]
  simp only [cells]
  split
  · exact findSome?_ite _ _ _
  · rfl

/-- What is listed is a cell reference, with the location that it declares. -/
theorem declared_of_mem_gameCells {game : NodeId} {cells : List (NodeId × Option String)}
    (listed : doc.gameCells? schema game = some cells) {cell : NodeId × Option String}
    (member : cell ∈ cells) :
    doc.adaptsTo schema cell.1 schema.tags.placementsCellReference = true ∧
      doc.attribute? cell.1 Names.uriAttribute = cell.2 := by
  rw [gameCells?_eq] at listed
  split at listed
  · obtain ⟨folder, -, found⟩ := List.exists_of_findSome?_eq_some listed
    split at found
    · cases found
      obtain ⟨node, -, seen⟩ := List.mem_filterMap.mp member
      unfold declaredCell? at seen
      split at seen
      · next adapts =>
        cases seen
        exact ⟨adapts, rfl⟩
      · cases seen
    · cases found
  · cases listed

end Document

end LevelGraph
