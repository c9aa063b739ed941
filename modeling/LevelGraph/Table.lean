/-!
# Finite tables in key order

A table maps keys to values and keeps its entries strictly ascending by key.
The order is part of the type, so two tables that answer every look-up alike
are the same table, whatever sequence of writes produced them. Printing a table
front to back prints it in key order.

The operations on plain entry lists come first: a persisted tree keeps its
child slots as such a list, because a recursive type cannot carry the ordering
proof. `Table` bundles a list with the proof. Every operation has one lemma
that says what it does to `find?`, and later proofs use only those.
-/

namespace LevelGraph

/-- A strict total order on keys that can be decided. -/
class KeyOrder (κ : Type) where
  /-- Whether the first key comes strictly before the second. -/
  before : κ → κ → Bool
  /-- No key comes before itself. -/
  before_irrefl : ∀ key, before key key = false
  /-- The order is transitive. -/
  before_trans : ∀ {first second third},
    before first second = true → before second third = true → before first third = true
  /-- Two keys of which neither comes first are the same key. -/
  before_connected : ∀ {first second},
    before first second = false → before second first = false → first = second

/-- Strings are ordered by code points, which is also the order of their UTF-8 bytes. -/
instance : KeyOrder String where
  before first second := decide (first < second)
  before_irrefl key := by simp
  before_trans earlier later := by
    simp only [decide_eq_true_eq] at *
    exact String.lt_trans earlier later
  before_connected notFirst notSecond := by
    simp only [decide_eq_false_iff_not, String.not_lt] at *
    exact String.le_antisymm notSecond notFirst

/-- The order of keys that have a number each. -/
@[reducible] def KeyOrder.byNumber {κ : Type} (number : κ → Nat)
    (apart : ∀ {first second}, number first = number second → first = second) : KeyOrder κ where
  before first second := decide (number first < number second)
  before_irrefl key := by simp
  before_trans earlier later := by
    simp only [decide_eq_true_eq] at *
    omega
  before_connected notFirst notSecond := by
    simp only [decide_eq_false_iff_not] at *
    exact apart (by omega)

/-- Natural numbers in their usual order. -/
instance : KeyOrder Nat := KeyOrder.byNumber id id

namespace Entries

variable {κ α : Type} [DecidableEq κ] [KeyOrder κ]

/-- The keys ascend strictly. -/
def Ascending (entries : List (κ × α)) : Prop :=
  entries.Pairwise fun left right => KeyOrder.before left.1 right.1 = true

/-- The value of the first entry with this key. -/
def find? (key : κ) : List (κ × α) → Option α
  | [] => none
  | (other, value) :: rest => if other = key then some value else find? key rest

/-- Write a value: replace the entry of an equal key, else insert in order. -/
def insert (key : κ) (value : α) : List (κ × α) → List (κ × α)
  | [] => [(key, value)]
  | (other, held) :: rest =>
    if KeyOrder.before key other then (key, value) :: (other, held) :: rest
    else if other = key then (key, value) :: rest
    else (other, held) :: insert key value rest

/-- Remove the entry of a key. -/
def erase (key : κ) (entries : List (κ × α)) : List (κ × α) :=
  entries.filter fun entry => decide (entry.1 ≠ key)

/-- Change the value of one key where it is present. -/
def modify (key : κ) (change : α → α) (entries : List (κ × α)) : List (κ × α) :=
  entries.map fun entry => if entry.1 = key then (entry.1, change entry.2) else entry

/-- Write the entries of a list in order, so that the last of a repeated key stays. -/
def ofList (entries : List (κ × α)) : List (κ × α) :=
  entries.foldl (fun written entry => insert entry.1 entry.2 written) []

omit [DecidableEq κ] in
/-- Nothing is in order. -/
theorem ascending_nil : Ascending ([] : List (κ × α)) := List.Pairwise.nil

omit [DecidableEq κ] in
/-- Entries are in order if the first comes before all others and these are in order. -/
theorem ascending_cons {key : κ} {value : α} {rest : List (κ × α)} :
    Ascending ((key, value) :: rest) ↔
      (∀ entry ∈ rest, KeyOrder.before key entry.1 = true) ∧ Ascending rest :=
  List.pairwise_cons

/-- A key before the whole list has no entry in it. -/
theorem find?_eq_none_of_before {key : κ} {entries : List (κ × α)}
    (earlier : ∀ entry ∈ entries, KeyOrder.before key entry.1 = true) :
    find? key entries = none := by
  induction entries with
  | nil => rfl
  | cons entry rest inductionHypothesis =>
    obtain ⟨other, held⟩ := entry
    have different : other ≠ key := by
      intro same
      have strictly := earlier (other, held) List.mem_cons_self
      rw [same, KeyOrder.before_irrefl] at strictly
      exact Bool.noConfusion strictly
    simp only [find?, different, if_false]
    exact inductionHypothesis fun entry member =>
      earlier entry (List.mem_cons_of_mem _ member)

omit [KeyOrder κ] in
/-- An entry found is an entry held. -/
theorem mem_of_find?_eq_some {key : κ} {value : α} {entries : List (κ × α)}
    (found : find? key entries = some value) : (key, value) ∈ entries := by
  induction entries with
  | nil => simp [find?] at found
  | cons entry rest inductionHypothesis =>
    obtain ⟨other, held⟩ := entry
    by_cases same : other = key
    · subst same
      simp only [find?, if_true, Option.some.injEq] at found
      subst found
      exact List.mem_cons_self
    · simp only [find?, same, if_false] at found
      exact List.mem_cons_of_mem _ (inductionHypothesis found)

/-- In an ascending list every entry is the one found under its key. -/
theorem find?_eq_some_of_mem {key : κ} {value : α} {entries : List (κ × α)}
    (ordered : Ascending entries) (member : (key, value) ∈ entries) :
    find? key entries = some value := by
  induction entries with
  | nil => simp at member
  | cons entry rest inductionHypothesis =>
    obtain ⟨other, held⟩ := entry
    obtain ⟨earlier, orderedRest⟩ := ascending_cons.mp ordered
    rcases List.mem_cons.mp member with here | later
    · cases here
      simp [find?]
    · have different : other ≠ key := by
        intro same
        have strictly := earlier _ later
        rw [same, KeyOrder.before_irrefl] at strictly
        exact Bool.noConfusion strictly
      simp only [find?, different, if_false]
      exact inductionHypothesis orderedRest later

/-- A written key answers the value written and no other answer changes. -/
theorem find?_insert (key wanted : κ) (value : α) (entries : List (κ × α)) :
    find? wanted (insert key value entries) =
      if wanted = key then some value else find? wanted entries := by
  induction entries with
  | nil =>
    by_cases same : wanted = key
    · simp [insert, find?, same]
    · simp [insert, find?, same, Ne.symm same]
  | cons entry rest inductionHypothesis =>
    obtain ⟨other, held⟩ := entry
    simp only [insert]
    split
    · by_cases same : wanted = key
      · simp [find?, same]
      · simp [find?, same, Ne.symm same]
    · split
      · next equal =>
        subst equal
        by_cases same : wanted = other
        · simp [find?, same]
        · simp [find?, same, Ne.symm same]
      · next different =>
        simp only [find?, inductionHypothesis]
        by_cases same : other = wanted
        · subst same
          simp [different]
        · simp [same]

/-- An insertion adds its own entry and keeps only entries that were there. -/
theorem mem_insert {key : κ} {value : α} {entry : κ × α} {entries : List (κ × α)}
    (member : entry ∈ insert key value entries) : entry = (key, value) ∨ entry ∈ entries := by
  induction entries with
  | nil => exact Or.inl (List.mem_singleton.mp member)
  | cons first rest inductionHypothesis =>
    obtain ⟨other, held⟩ := first
    simp only [insert] at member
    split at member
    · rcases List.mem_cons.mp member with here | later
      · exact Or.inl here
      · exact Or.inr later
    · split at member
      · rcases List.mem_cons.mp member with here | later
        · exact Or.inl here
        · exact Or.inr (List.mem_cons_of_mem _ later)
      · rcases List.mem_cons.mp member with here | later
        · exact Or.inr (here ▸ List.mem_cons_self)
        · rcases inductionHypothesis later with written | kept
          · exact Or.inl written
          · exact Or.inr (List.mem_cons_of_mem _ kept)

/-- Insertion keeps the order. -/
theorem ascending_insert (key : κ) (value : α) {entries : List (κ × α)}
    (ordered : Ascending entries) : Ascending (insert key value entries) := by
  induction entries with
  | nil => exact List.pairwise_singleton _ _
  | cons entry rest inductionHypothesis =>
    obtain ⟨other, held⟩ := entry
    obtain ⟨earlier, orderedRest⟩ := ascending_cons.mp ordered
    simp only [insert]
    split
    · next first =>
      refine ascending_cons.mpr ⟨?_, ordered⟩
      intro entry member
      rcases List.mem_cons.mp member with here | later
      · exact here ▸ first
      · exact KeyOrder.before_trans first (earlier entry later)
    · next notFirst =>
      split
      · next equal =>
        subst equal
        exact ascending_cons.mpr ⟨earlier, orderedRest⟩
      · next different =>
        refine ascending_cons.mpr ⟨?_, inductionHypothesis orderedRest⟩
        intro entry member
        rcases mem_insert member with written | kept
        · subst written
          cases order : KeyOrder.before other key with
          | true => rfl
          | false =>
            exact absurd (KeyOrder.before_connected order (by simpa using notFirst)) different
        · exact earlier entry kept

omit [KeyOrder κ] in
/-- After a removal only the removed key has lost its answer. -/
theorem find?_erase (key wanted : κ) (entries : List (κ × α)) :
    find? wanted (erase key entries) =
      if wanted = key then none else find? wanted entries := by
  induction entries with
  | nil => simp [erase, find?]
  | cons entry rest inductionHypothesis =>
    obtain ⟨other, held⟩ := entry
    simp only [erase] at inductionHypothesis ⊢
    by_cases same : other = key
    · subst same
      simp only [List.filter_cons, ne_eq, not_true_eq_false, decide_false, Bool.false_eq_true,
        if_false, inductionHypothesis, find?]
      by_cases equal : wanted = other
      · simp [equal]
      · simp [equal, Ne.symm equal]
    · simp only [List.filter_cons, ne_eq, same, not_false_eq_true, decide_true, if_true, find?,
        inductionHypothesis]
      by_cases equal : other = wanted
      · subst equal
        simp [same]
      · simp [equal]

omit [KeyOrder κ] in
/-- Values changed alike are found changed alike. -/
theorem find?_map {β : Type} (change : α → β) (wanted : κ) (entries : List (κ × α)) :
    find? wanted (entries.map fun entry => (entry.1, change entry.2)) =
      (find? wanted entries).map change := by
  induction entries with
  | nil => rfl
  | cons entry rest inductionHypothesis =>
    by_cases equal : entry.1 = wanted
    · simp [find?, equal]
    · simp [find?, equal, inductionHypothesis]

omit [KeyOrder κ] in
/-- A change of one value changes only that key's answer. -/
theorem find?_modify (key wanted : κ) (change : α → α) (entries : List (κ × α)) :
    find? wanted (modify key change entries) =
      if wanted = key then (find? wanted entries).map change else find? wanted entries := by
  induction entries with
  | nil => simp [modify, find?]
  | cons entry rest inductionHypothesis =>
    obtain ⟨other, held⟩ := entry
    simp only [modify] at inductionHypothesis ⊢
    by_cases same : other = key
    · subst same
      by_cases equal : other = wanted
      · subst equal
        simp [find?]
      · simp [find?, equal, Ne.symm equal, inductionHypothesis]
    · by_cases equal : other = wanted
      · subst equal
        simp [find?, same]
      · simp [find?, same, equal, inductionHypothesis]

/-- To remove an entry keeps the order of the others. -/
theorem ascending_erase (key : κ) {entries : List (κ × α)} (ordered : Ascending entries) :
    Ascending (erase key entries) :=
  List.Pairwise.filter _ ordered

/-- To change a value keeps the order of the keys. -/
theorem ascending_modify (key : κ) (change : α → α) {entries : List (κ × α)}
    (ordered : Ascending entries) : Ascending (modify key change entries) := by
  refine List.pairwise_map.mpr (ordered.imp ?_)
  intro left right earlier
  split <;> split <;> exact earlier

/-- Two ascending lists that answer every look-up alike are equal: their least
keys agree, and what follows answers alike again. -/
theorem eq_of_find?_eq {left right : List (κ × α)} (leftOrdered : Ascending left)
    (rightOrdered : Ascending right) (same : ∀ key, find? key left = find? key right) :
    left = right := by
  induction left generalizing right with
  | nil =>
    cases right with
    | nil => rfl
    | cons entry rest => simpa [find?] using same entry.1
  | cons entry rest inductionHypothesis =>
    obtain ⟨key, value⟩ := entry
    obtain ⟨earlier, orderedRest⟩ := ascending_cons.mp leftOrdered
    cases right with
    | nil => simpa [find?] using same key
    | cons entry rightRest =>
      obtain ⟨other, held⟩ := entry
      obtain ⟨rightEarlier, orderedRightRest⟩ := ascending_cons.mp rightOrdered
      have equal : key = other := by
        refine KeyOrder.before_connected ?_ ?_
        · cases order : KeyOrder.before key other with
          | false => rfl
          | true =>
            have absent : find? key ((other, held) :: rightRest) = none :=
              find?_eq_none_of_before fun entry member => by
                rcases List.mem_cons.mp member with here | later
                · exact here ▸ order
                · exact KeyOrder.before_trans order (rightEarlier entry later)
            have present := same key
            rw [absent] at present
            simp [find?] at present
        · cases order : KeyOrder.before other key with
          | false => rfl
          | true =>
            have absent : find? other ((key, value) :: rest) = none :=
              find?_eq_none_of_before fun entry member => by
                rcases List.mem_cons.mp member with here | later
                · exact here ▸ order
                · exact KeyOrder.before_trans order (earlier entry later)
            have present := same other
            rw [absent] at present
            simp [find?] at present
      subst equal
      have values : value = held := by simpa [find?] using same key
      subst values
      refine congrArg ((key, value) :: ·) (inductionHypothesis orderedRest orderedRightRest ?_)
      intro wanted
      by_cases here : key = wanted
      · subst here
        rw [find?_eq_none_of_before earlier, find?_eq_none_of_before rightEarlier]
      · simpa [find?, here] using same wanted

end Entries

/-- Entries in strictly ascending key order. -/
structure Table (κ α : Type) [KeyOrder κ] where
  /-- The entries, front to back. -/
  entries : List (κ × α)
  /-- The keys ascend strictly, so each occurs once. -/
  ascending : Entries.Ascending entries

namespace Table

variable {κ α : Type} [KeyOrder κ]

instance [DecidableEq κ] [DecidableEq α] : DecidableEq (Table κ α) := fun left right =>
  decidable_of_iff (left.entries = right.entries)
    ⟨fun same => by cases left; cases right; cases same; rfl, fun same => same ▸ rfl⟩

/-- The table without entries. -/
def empty : Table κ α := ⟨[], Entries.ascending_nil⟩

instance : Inhabited (Table κ α) := ⟨empty⟩

/-- The number of entries. -/
def size (table : Table κ α) : Nat := table.entries.length

/-- Whether the table has no entry. -/
def isEmpty (table : Table κ α) : Bool := table.entries.isEmpty

/-- The keys in ascending order. -/
def keys (table : Table κ α) : List κ := table.entries.map (·.1)

/-- The table with every value changed alike. -/
def map {β : Type} (table : Table κ α) (change : α → β) : Table κ β :=
  ⟨table.entries.map fun entry => (entry.1, change entry.2),
    List.pairwise_map.mpr (table.ascending.imp fun earlier => earlier)⟩

variable [DecidableEq κ]

/-- The value held under a key. -/
def find? (table : Table κ α) (key : κ) : Option α := Entries.find? key table.entries

/-- Whether a key has an entry. -/
def contains (table : Table κ α) (key : κ) : Bool := (table.find? key).isSome

/-- Write a value under a key. -/
def insert (table : Table κ α) (key : κ) (value : α) : Table κ α :=
  ⟨Entries.insert key value table.entries, Entries.ascending_insert key value table.ascending⟩

/-- Remove a key. -/
def erase (table : Table κ α) (key : κ) : Table κ α :=
  ⟨Entries.erase key table.entries, Entries.ascending_erase key table.ascending⟩

/-- Change the value under a key where there is one. -/
def modify (table : Table κ α) (key : κ) (change : α → α) : Table κ α :=
  ⟨Entries.modify key change table.entries, Entries.ascending_modify key change table.ascending⟩

/-- Write the entries of a list in order, so that the last of a repeated key stays. -/
def ofList (entries : List (κ × α)) : Table κ α :=
  entries.foldl (fun table entry => table.insert entry.1 entry.2) empty

/-- Nothing is found in the table without entries. -/
@[simp] theorem find?_empty (key : κ) : (empty : Table κ α).find? key = none := rfl

/-- A written key answers the value written and no other answer changes. -/
theorem find?_insert (table : Table κ α) (key wanted : κ) (value : α) :
    (table.insert key value).find? wanted =
      if wanted = key then some value else table.find? wanted :=
  Entries.find?_insert key wanted value table.entries

/-- After a removal only the removed key has lost its answer. -/
theorem find?_erase (table : Table κ α) (key wanted : κ) :
    (table.erase key).find? wanted = if wanted = key then none else table.find? wanted :=
  Entries.find?_erase key wanted table.entries

/-- A change of one value changes only that key's answer. -/
theorem find?_modify (table : Table κ α) (key wanted : κ) (change : α → α) :
    (table.modify key change).find? wanted =
      if wanted = key then (table.find? wanted).map change else table.find? wanted :=
  Entries.find?_modify key wanted change table.entries

/-- Values changed alike are found changed alike. -/
theorem find?_map {β : Type} (table : Table κ α) (change : α → β) (wanted : κ) :
    (table.map change).find? wanted = (table.find? wanted).map change :=
  Entries.find?_map change wanted table.entries

/-- A table holds an entry exactly when it is the one found under its key. -/
theorem mem_entries_iff (table : Table κ α) (key : κ) (value : α) :
    (key, value) ∈ table.entries ↔ table.find? key = some value :=
  ⟨Entries.find?_eq_some_of_mem table.ascending, Entries.mem_of_find?_eq_some⟩

/-- Tables that answer every look-up alike are the same table. -/
theorem eq_of_find?_eq {left right : Table κ α} (same : ∀ key, left.find? key = right.find? key) :
    left = right := by
  have entries : left.entries = right.entries :=
    Entries.eq_of_find?_eq left.ascending right.ascending same
  cases left
  cases right
  cases entries
  rfl

end Table

end LevelGraph
