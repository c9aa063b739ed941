import LevelGraph.Reorder
import Mathlib.Algebra.Group.Nat.Defs
import Mathlib.Data.List.Nodup
import Mathlib.Data.List.Perm.Basic
import Mathlib.Logic.Relation

/-!
# Moves within a list

A move takes the first occurrence of an item to another place, and the other items stand as they stood.
So moves compose where nothing is repeated: what is moved to one place and from there to another one
has been moved to the other one, and what is moved away and back has not been moved at all. With
repetitions the second move could take another occurrence. Without any, moves one after the other reach
every order of the list.

Offsets are added to places without any bound. A machine adds them as words and looks at the carry.
`wordPlace?_eq_some_iff` shows that it then has the sum exactly where the sum is a word, and a place
that is none is beyond any list that fits into memory.
-/

namespace LevelGraph

section Places

variable {α : Type} {list : List α} {source middle destination : Nat} {item : α}

/-- What is taken to one place and from there to another one is taken to the other one. -/
theorem relocate_relocate :
    relocate (relocate list source middle item) middle destination item =
      relocate list source destination item := by
  rw [relocate, relocate, relocate, List.eraseIdx_insertIdx_self]

/-- What is put where it was taken out leaves the list as it was. -/
theorem relocate_self (here : list[source]? = some item) : relocate list source source item = list := by
  obtain ⟨inside, rfl⟩ := List.getElem?_eq_some_iff.mp here
  exact List.insertIdx_eraseIdx_getElem inside

/-- The item stands where it was put. -/
theorem getElem?_relocate (inside : source < list.length) (room : destination < list.length) :
    (relocate list source destination item)[destination]? = some item := by
  have length := List.length_eraseIdx_of_lt inside
  rw [relocate, List.getElem?_insertIdx_self, if_pos (by omega)]

/-- The others stand as they stood. -/
theorem eraseIdx_relocate :
    (relocate list source destination item).eraseIdx destination = list.eraseIdx source :=
  List.eraseIdx_insertIdx_self item

/-- The items are the same. -/
theorem perm_relocate (here : list[source]? = some item) (room : destination < list.length) :
    (relocate list source destination item).Perm list := by
  obtain ⟨inside, rfl⟩ := List.getElem?_eq_some_iff.mp here
  have length := List.length_eraseIdx_of_lt inside
  exact (List.perm_insertIdx _ _ (by omega)).trans (List.getElem_cons_eraseIdx_perm inside)

end Places

section Offsets

variable {α : Type} [DecidableEq α] {list moved : List α} {item : α} {offset : Int}

/-- The search for an item comes to its first occurrence. -/
theorem findIdx?_item_eq_some_iff {source : Nat} :
    list.findIdx? (fun held => decide (held = item)) = some source ↔
      item ∈ list ∧ list.idxOf item = source := by
  have same : list.findIdx (fun held => decide (held = item)) = list.idxOf item := rfl
  rw [List.findIdx?_eq_some_iff_findIdx_eq, same, ← List.idxOf_lt_length_iff]
  constructor
  · rintro ⟨inside, rfl⟩
    exact ⟨inside, rfl⟩
  · rintro ⟨inside, rfl⟩
    exact ⟨inside, rfl⟩

/-- A move takes the first occurrence of the item to the place at the offset from it, if that is another
place of the list. -/
theorem moveByOffset_eq_some_iff :
    moveByOffset list item offset = some moved ↔
      ∃ destination : Nat, (destination : Int) = list.idxOf item + offset ∧ item ∈ list ∧
        offset ≠ 0 ∧ destination < list.length ∧
        moved = relocate list (list.idxOf item) destination item := by
  unfold moveByOffset
  cases place : list.findIdx? fun held => decide (held = item) with
  | none =>
    have absent : item ∉ list := fun listed =>
      nomatch place.symm.trans (findIdx?_item_eq_some_iff.mpr ⟨listed, rfl⟩)
    simp [absent]
  | some source =>
    obtain ⟨listed, rfl⟩ := findIdx?_item_eq_some_iff.mp place
    dsimp only
    constructor
    · intro done
      split at done
      · next fits =>
        rw [Option.some.injEq] at done
        exact ⟨_, by omega, listed, by omega, by omega, done.symm⟩
      · cases done
    · rintro ⟨destination, distance, -, away, inside, rfl⟩
      rw [← distance, if_pos (by omega), Int.toNat_natCast]

/-- The items are the same. -/
theorem perm_of_moveByOffset (done : moveByOffset list item offset = some moved) : moved.Perm list := by
  obtain ⟨destination, -, listed, -, room, rfl⟩ := moveByOffset_eq_some_iff.mp done
  exact perm_relocate (List.getElem?_idxOf listed) room

/-- It fails where there is no such place. -/
theorem isSome_moveByOffset_iff :
    (moveByOffset list item offset).isSome = true ↔
      item ∈ list ∧ offset ≠ 0 ∧ 0 ≤ list.idxOf item + offset ∧
        list.idxOf item + offset < list.length := by
  simp only [Option.isSome_iff_exists, moveByOffset_eq_some_iff]
  constructor
  · rintro ⟨_, destination, distance, listed, away, inside, -⟩
    exact ⟨listed, away, by omega, by omega⟩
  · rintro ⟨listed, away, notBefore, inside⟩
    exact ⟨_, (list.idxOf item + offset).toNat, by omega, listed, away, by omega, rfl⟩

/-- Where nothing is repeated, an item that was moved stands first where it was put. -/
theorem idxOf_relocate {destination : Nat} (distinct : list.Nodup) (listed : item ∈ list)
    (room : destination < list.length) :
    item ∈ relocate list (list.idxOf item) destination item ∧
      (relocate list (list.idxOf item) destination item).idxOf item = destination := by
  have here := List.getElem?_idxOf listed
  have perm := perm_relocate here room
  have placed : (relocate list (list.idxOf item) destination item)[destination]? = some item :=
    getElem?_relocate (List.idxOf_lt_length_iff.mpr listed) room
  obtain ⟨inside, same⟩ := List.getElem?_eq_some_iff.mp placed
  have first := (perm.nodup_iff.mpr distinct).idxOf_getElem destination inside
  rw [same] at first
  exact ⟨perm.mem_iff.mpr listed, first⟩

/-- A move back undoes a move. -/
theorem moveByOffset_back (distinct : list.Nodup)
    (done : moveByOffset list item offset = some moved) :
    moveByOffset moved item (-offset) = some list := by
  have length := (perm_of_moveByOffset done).length_eq
  obtain ⟨destination, distance, listed, away, room, rfl⟩ := moveByOffset_eq_some_iff.mp done
  have inside := List.idxOf_lt_length_iff.mpr listed
  obtain ⟨stays, first⟩ := idxOf_relocate distinct listed room
  refine moveByOffset_eq_some_iff.mpr ⟨list.idxOf item, ?_, stays, ?_, ?_, ?_⟩
  · omega
  · omega
  · omega
  · rw [first, relocate_relocate, relocate_self (List.getElem?_idxOf listed)]

/-- Two moves of an item are one, unless they come to none. -/
theorem moveByOffset_add {later : Int} {last : List α} (distinct : list.Nodup)
    (done : moveByOffset list item offset = some moved)
    (again : moveByOffset moved item later = some last) (away : offset + later ≠ 0) :
    moveByOffset list item (offset + later) = some last := by
  have length := (perm_of_moveByOffset done).length_eq
  obtain ⟨middle, distance, listed, -, room, rfl⟩ := moveByOffset_eq_some_iff.mp done
  obtain ⟨destination, further, -, -, inside, rfl⟩ := moveByOffset_eq_some_iff.mp again
  obtain ⟨-, first⟩ := idxOf_relocate distinct listed room
  refine moveByOffset_eq_some_iff.mpr ⟨destination, ?_, listed, away, ?_, ?_⟩
  · omega
  · omega
  · rw [first, relocate_relocate]

/-- One list is another one with an item moved. -/
def Moves (list moved : List α) : Prop :=
  ∃ item offset, moveByOffset list item offset = some moved

/-- Moves neither lose items nor double them. -/
theorem Moves.perm (moves : Moves list moved) : moved.Perm list := by
  obtain ⟨item, offset, done⟩ := moves
  exact perm_of_moveByOffset done

/-- What moves in a list moves behind another item too. -/
theorem Moves.cons (moves : Moves list moved) {front : α} (absent : front ∉ list) :
    Moves (front :: list) (front :: moved) := by
  obtain ⟨item, offset, done⟩ := moves
  obtain ⟨destination, distance, listed, away, room, rfl⟩ := moveByOffset_eq_some_iff.mp done
  have other : front ≠ item := by
    rintro rfl
    exact absent listed
  have place : (front :: list).idxOf item = list.idxOf item + 1 := List.idxOf_cons_ne list other
  have room : destination + 1 < (front :: list).length := Nat.succ_lt_succ room
  refine ⟨item, offset, moveByOffset_eq_some_iff.mpr
    ⟨destination + 1, by omega, List.mem_cons_of_mem front listed, away, room, ?_⟩⟩
  rw [place]
  rfl

/-- Two neighbours change places by a move of the first. -/
theorem moves_swap (first second : α) (rest : List α) :
    Moves (first :: second :: rest) (second :: first :: rest) := by
  have place : (first :: second :: rest).idxOf first = 0 := List.idxOf_cons_self
  have room : 1 < (first :: second :: rest).length := Nat.succ_lt_succ (Nat.zero_lt_succ _)
  refine ⟨first, 1, moveByOffset_eq_some_iff.mpr
    ⟨1, by omega, List.mem_cons_self, Int.one_ne_zero, room, ?_⟩⟩
  rw [place]
  rfl

/-- Any order of a list without repetitions comes about by moves.

Proof: neighbours change places by one move, and what happens in a list happens behind another item
too. -/
theorem moves_of_perm (perm : list.Perm moved) (distinct : list.Nodup) :
    Relation.ReflTransGen Moves list moved := by
  induction perm with
  | nil => exact .refl
  | @cons front before after perm inductionHypothesis =>
    obtain ⟨absent, distinctRest⟩ := List.nodup_cons.mp distinct
    have moves := inductionHypothesis distinctRest
    clear inductionHypothesis perm distinct distinctRest
    induction moves using Relation.ReflTransGen.head_induction_on with
    | refl => exact .refl
    | head step _ later =>
      exact .head (step.cons absent) (later fun listed => absent (step.perm.mem_iff.mp listed))
  | swap first second rest => exact .single (moves_swap second first rest)
  | trans earlier _ first second =>
    exact (first distinct).trans (second (earlier.nodup_iff.mp distinct))

end Offsets

/-- The place at an offset from another one as a machine finds it: the words are added, and a carry
belongs to an offset that leads back. -/
def wordPlace? (source : UInt64) (offset : Int64) : Option UInt64 :=
  let sum := source + offset.toUInt64
  if decide (sum < source) = decide (offset < 0) then some sum else none

/-- A machine moves an item within a list in place: whether it does so, and the list afterwards. -/
def moveByWord {α : Type} [DecidableEq α] (list : List α) (item : α) (offset : Int64) :
    Bool × List α :=
  match list.findIdx? fun held => decide (held = item) with
  | none => (false, list)
  | some source =>
    match wordPlace? (UInt64.ofNat source) offset with
    | none => (false, list)
    | some destination =>
      if list.length ≤ destination.toNat ∨ destination.toNat = source then (false, list)
      else (true, relocate list source destination.toNat item)

/-- The machine has the sum exactly where that is a word. -/
theorem wordPlace?_eq_some_iff {source destination : UInt64} {offset : Int64} :
    wordPlace? source offset = some destination ↔
      (destination.toNat : Int) = source.toNat + offset.toInt := by
  have signed : offset.toInt = if 2 * offset.toUInt64.toNat < 2 ^ 64 then
      (offset.toUInt64.toNat : Int) else offset.toUInt64.toNat - 2 ^ 64 :=
    BitVec.toInt_eq_toNat_cond offset.toBitVec
  have sum := UInt64.toNat_add source offset.toUInt64
  have sourceWord := source.toNat_lt
  have offsetWord := offset.toUInt64.toNat_lt
  have destinationWord := destination.toNat_lt
  rw [wordPlace?]
  simp only [decide_eq_decide, UInt64.lt_iff_toNat_lt, Int64.lt_iff_toInt_lt, Int64.toInt_zero]
  constructor
  · intro found
    split at found
    · next carry =>
      rw [Option.some.injEq] at found
      subst found
      rw [sum] at carry ⊢
      split at signed <;> omega
    · cases found
  · intro unbounded
    have same : source + offset.toUInt64 = destination := by
      rw [← UInt64.toNat_inj, sum]
      split at signed <;> omega
    rw [same, if_pos (by omega)]

/-- A machine moves an item as it is moved without bounds, if the list has no more places than words
can tell apart. -/
theorem moveByWord_eq {α : Type} [DecidableEq α] {list : List α} (fits : list.length < 2 ^ 64)
    (item : α) (offset : Int64) :
    moveByWord list item offset =
      ((moveByOffset list item offset.toInt).isSome,
        (moveByOffset list item offset.toInt).getD list) := by
  unfold moveByWord moveByOffset
  cases place : list.findIdx? fun held => decide (held = item) with
  | none => rfl
  | some source =>
    obtain ⟨inside, -⟩ := List.findIdx?_eq_some_iff_findIdx_eq.mp place
    have word : (UInt64.ofNat source).toNat = source :=
      UInt64.toNat_ofNat_of_lt' (Nat.lt_trans inside fits)
    dsimp only
    cases sum : wordPlace? (UInt64.ofNat source) offset with
    | none =>
      -- A place of the list is a word, so it would have been found.
      rw [if_neg]
      · rfl
      · rintro ⟨notBefore, room, -⟩
        have destination : wordPlace? (UInt64.ofNat source) offset =
            some (UInt64.ofNat (source + offset.toInt).toNat) := by
          have inside : (source + offset.toInt).toNat < 2 ^ 64 := by omega
          rw [wordPlace?_eq_some_iff, word, UInt64.toNat_ofNat_of_lt' inside]
          omega
        exact nomatch sum.symm.trans destination
    | some destination =>
      have unbounded := wordPlace?_eq_some_iff.mp sum
      rw [word] at unbounded
      rw [← unbounded, Int.toNat_natCast]
      dsimp only
      split
      · rw [if_neg (by omega)]
        rfl
      · rw [if_pos (by omega)]
        rfl

/-- A move takes the first occurrence of an item to the place at the offset from it, where that is
another place of the list, and the others stand as they stood. Otherwise there is no move. Where
nothing is repeated, moves back undo moves and moves one after the other add up. A machine that counts
in words moves as much, and leaves the list alone where there is no move, whatever word the offset is. -/
theorem moveByOffset_moves_first {α : Type} [DecidableEq α] (list : List α) (item : α) :
    (∀ offset : Int,
      ((moveByOffset list item offset).isSome = true ↔
        item ∈ list ∧ offset ≠ 0 ∧ 0 ≤ list.idxOf item + offset ∧
          list.idxOf item + offset < list.length) ∧
      ∀ moved, moveByOffset list item offset = some moved →
        ∃ destination : Nat, (destination : Int) = list.idxOf item + offset ∧
          moved[destination]? = some item ∧
          moved.eraseIdx destination = list.eraseIdx (list.idxOf item) ∧ moved.Perm list) ∧
    (list.Nodup → ∀ offset moved, moveByOffset list item offset = some moved →
      moveByOffset moved item (-offset) = some list ∧
      ∀ later last, moveByOffset moved item later = some last → offset + later ≠ 0 →
        moveByOffset list item (offset + later) = some last) ∧
    (list.length < 2 ^ 64 → ∀ offset : Int64,
      (∀ moved, moveByOffset list item offset.toInt = some moved →
        moveByWord list item offset = (true, moved)) ∧
      (moveByOffset list item offset.toInt = none → moveByWord list item offset = (false, list))) := by
  refine ⟨fun offset => ⟨isSome_moveByOffset_iff, ?places⟩, fun distinct offset moved done =>
    ⟨moveByOffset_back distinct done, fun later last => moveByOffset_add distinct done⟩,
    fun fits offset => ⟨?moves, ?stays⟩⟩
  case places =>
    intro moved done
    have perm := perm_of_moveByOffset done
    obtain ⟨destination, distance, listed, -, room, rfl⟩ := moveByOffset_eq_some_iff.mp done
    exact ⟨destination, distance, getElem?_relocate (List.idxOf_lt_length_iff.mpr listed) room,
      eraseIdx_relocate, perm⟩
  case moves =>
    intro moved done
    rw [moveByWord_eq fits, done]
    rfl
  case stays =>
    intro refused
    rw [moveByWord_eq fits, refused]
    rfl

/-- The last of four items goes to the front and from there to the middle, or straight there. It cannot
go behind the end, nor as far to the front as a word can tell. -/
theorem moveByOffset_moves_last :
    let list := ['a', 'b', 'c', 'd']
    moveByOffset list 'd' (-3) = some ['d', 'a', 'b', 'c'] ∧
      moveByOffset ['d', 'a', 'b', 'c'] 'd' (-(-3)) = some list ∧
      moveByOffset list 'd' (-3 + 2) = some ['a', 'b', 'd', 'c'] ∧
      moveByWord list 'd' (-3) = (true, ['d', 'a', 'b', 'c']) ∧
      moveByWord list 'd' 1 = (false, list) ∧
      moveByWord list 'd' Int64.minValue = (false, list) ∧
      moveByWord list 'd' Int64.maxValue = (false, list) := by
  intro list
  obtain ⟨-, adds, words⟩ := moveByOffset_moves_first list 'd'
  have front : moveByOffset list 'd' (-3) = some ['d', 'a', 'b', 'c'] := by decide
  obtain ⟨back, further⟩ := adds (by decide) _ _ front
  have moves := words (by decide)
  exact ⟨front, back, further 2 _ (by decide) (by decide), (moves (-3)).1 _ (by decide),
    (moves 1).2 (by decide), (moves Int64.minValue).2 (by decide), (moves Int64.maxValue).2 (by decide)⟩

end LevelGraph
