/-!
# Moving an item within a list

An item moves by a signed number of places. The first occurrence of the item is
taken out and put back so that it stands that many places from where it was. A move
of an absent item, by nothing, or past either end is no move at all.
-/

namespace LevelGraph

/-- Take out the item at one place and put it in at another. -/
def relocate {α : Type} (list : List α) (source destination : Nat) (item : α) : List α :=
  (list.eraseIdx source).insertIdx destination item

/-- The list with an item moved by an offset; none when nothing moves. -/
def moveByOffset {α : Type} [DecidableEq α] (list : List α) (item : α) (offset : Int) :
    Option (List α) :=
  match list.findIdx? fun held => decide (held = item) with
  | none => none
  | some source =>
    let destination : Int := source + offset
    if 0 ≤ destination ∧ destination < list.length ∧ destination ≠ source then
      some (relocate list source destination.toNat item)
    else none

end LevelGraph
