import LevelGraph.Table
import Mathlib.Data.List.Nodup
import Mathlib.Data.List.Perm.Basic

/-!
# Laws of tables beyond single look-ups

A write moves one entry to its place and leaves the others as they are, so up to order a
table is its entry under a key next to what is left without that key. Entries that ascend
already are kept as they stand when a table is made of them, and a table written from a list
of writes answers with the last write of a key.
-/

namespace LevelGraph

namespace Entries

variable {κ α : Type} [DecidableEq κ] [KeyOrder κ]

omit [KeyOrder κ] in
/-- A removal goes through the entries one by one. -/
theorem erase_cons (key : κ) (entry : κ × α) (rest : List (κ × α)) :
    erase key (entry :: rest) = if entry.1 = key then erase key rest else entry :: erase key rest := by
  by_cases same : entry.1 = key <;> simp [erase, same]

omit [KeyOrder κ] in
/-- Where a key has no entry there is nothing to remove. -/
theorem erase_eq_self {key : κ} {entries : List (κ × α)} (absent : find? key entries = none) :
    erase key entries = entries := by
  induction entries with
  | nil => rfl
  | cons entry rest inductionHypothesis =>
    obtain ⟨other, held⟩ := entry
    by_cases same : other = key
    · simp [find?, same] at absent
    · simp only [find?, same, if_false] at absent
      rw [erase_cons, if_neg same, inductionHypothesis absent]

/-- A key before a whole list is not in it, so its removal changes nothing. -/
theorem erase_of_before {key : κ} {entries : List (κ × α)}
    (earlier : ∀ entry ∈ entries, KeyOrder.before key entry.1 = true) :
    erase key entries = entries :=
  erase_eq_self (find?_eq_none_of_before earlier)

/-- Up to order, an ascending list is the entry of a key next to the list without that key. -/
theorem perm_cons_erase {key : κ} {value : α} {entries : List (κ × α)}
    (ordered : Ascending entries) (found : find? key entries = some value) :
    entries.Perm ((key, value) :: erase key entries) := by
  induction entries with
  | nil => simp [find?] at found
  | cons entry rest inductionHypothesis =>
    obtain ⟨other, held⟩ := entry
    obtain ⟨earlier, orderedRest⟩ := ascending_cons.mp ordered
    by_cases same : other = key
    · subst same
      simp only [find?, if_true, Option.some.injEq] at found
      subst found
      rw [erase_cons, if_pos rfl, erase_of_before earlier]
    · simp only [find?, same, if_false] at found
      have moved := inductionHypothesis orderedRest found
      rw [erase_cons, if_neg same]
      exact (moved.cons _).trans (List.Perm.swap _ _ _)

/-- Up to order, a write puts its entry next to the list without the key. -/
theorem insert_perm_cons_erase (key : κ) (value : α) {entries : List (κ × α)}
    (ordered : Ascending entries) :
    (insert key value entries).Perm ((key, value) :: erase key entries) := by
  induction entries with
  | nil => exact List.Perm.refl _
  | cons entry rest inductionHypothesis =>
    obtain ⟨other, held⟩ := entry
    obtain ⟨earlier, orderedRest⟩ := ascending_cons.mp ordered
    simp only [insert]
    split
    · next first =>
      have all : ∀ entry ∈ (other, held) :: rest, KeyOrder.before key entry.1 = true := by
        intro entry member
        rcases List.mem_cons.mp member with here | later
        · exact here ▸ first
        · exact KeyOrder.before_trans first (earlier entry later)
      rw [erase_of_before all]
    · split
      · next same =>
        subst same
        rw [erase_cons, if_pos rfl, erase_of_before earlier]
      · next different =>
        have moved := inductionHypothesis orderedRest
        rw [erase_cons, if_neg different]
        exact (moved.cons _).trans (List.Perm.swap _ _ _)

/-- A write behind all entries stands last. -/
theorem insert_eq_append {key : κ} {value : α} {entries : List (κ × α)}
    (later : ∀ entry ∈ entries, KeyOrder.before entry.1 key = true) :
    insert key value entries = entries ++ [(key, value)] := by
  induction entries with
  | nil => rfl
  | cons entry rest inductionHypothesis =>
    obtain ⟨other, held⟩ := entry
    have after : KeyOrder.before other key = true := later _ List.mem_cons_self
    have notBefore : KeyOrder.before key other = false := by
      cases order : KeyOrder.before key other with
      | false => rfl
      | true =>
        have loops := KeyOrder.before_trans order after
        rw [KeyOrder.before_irrefl] at loops
        exact loops.symm
    have different : other ≠ key := by
      intro same
      rw [same, KeyOrder.before_irrefl] at after
      exact Bool.noConfusion after
    simp only [insert, notBefore, Bool.false_eq_true, if_false, different, List.cons_append]
    rw [inductionHypothesis fun entry member => later entry (List.mem_cons_of_mem _ member)]

/-- The list written so far grows by the rest of an ascending list, entry by entry. -/
theorem foldl_insert_of_ascending (written : List (κ × α)) {entries : List (κ × α)}
    (ordered : Ascending (written ++ entries)) :
    entries.foldl (fun table entry => insert entry.1 entry.2 table) written =
      written ++ entries := by
  induction entries generalizing written with
  | nil => simp
  | cons entry rest inductionHypothesis =>
    have later : ∀ other ∈ written, KeyOrder.before other.1 entry.1 = true := by
      intro other member
      exact (List.pairwise_append.mp ordered).2.2 other member entry List.mem_cons_self
    have regrouped : written ++ entry :: rest = (written ++ [entry]) ++ rest := by simp
    rw [List.foldl_cons, insert_eq_append later, regrouped]
    exact inductionHypothesis _ (regrouped ▸ ordered)

/-- Entries that ascend already are written as they stand. -/
theorem ofList_eq_self {entries : List (κ × α)} (ordered : Ascending entries) :
    ofList entries = entries :=
  foldl_insert_of_ascending [] ordered

/-- Whatever is written, the entries ascend. -/
theorem ascending_ofList (entries : List (κ × α)) : Ascending (ofList entries) := by
  have grown : ∀ written : List (κ × α), Ascending written →
      Ascending (entries.foldl (fun table entry => insert entry.1 entry.2 table) written) := by
    induction entries with
    | nil => exact fun _ ordered => ordered
    | cons entry rest inductionHypothesis =>
      intro written ordered
      exact inductionHypothesis _ (ascending_insert _ _ ordered)
  exact grown [] ascending_nil

/-- What is written from a list was in the list. -/
theorem mem_of_mem_ofList {entry : κ × α} {entries : List (κ × α)}
    (member : entry ∈ ofList entries) : entry ∈ entries := by
  have traced : ∀ written : List (κ × α),
      entry ∈ entries.foldl (fun table entry => insert entry.1 entry.2 table) written →
        entry ∈ written ∨ entry ∈ entries := by
    clear member
    induction entries with
    | nil => exact fun _ member => Or.inl member
    | cons first rest inductionHypothesis =>
      intro written member
      rcases inductionHypothesis _ member with old | new
      · rcases mem_insert old with here | earlier
        · exact Or.inr (here ▸ List.mem_cons_self)
        · exact Or.inl earlier
      · exact Or.inr (List.mem_cons_of_mem _ new)
  rcases traced [] member with none | some
  · exact absurd none List.not_mem_nil
  · exact some

omit [KeyOrder κ] in
/-- A key has an entry exactly when it is among the keys. -/
theorem find?_isSome_iff {key : κ} {entries : List (κ × α)} :
    (find? key entries).isSome = true ↔ key ∈ entries.map (·.1) := by
  induction entries with
  | nil => simp [find?]
  | cons entry rest inductionHypothesis =>
    by_cases same : entry.1 = key
    · simp [find?, same]
    · simp [find?, same, inductionHypothesis, Ne.symm same]

end Entries

namespace Table

variable {κ α : Type} [KeyOrder κ]

/-- No key occurs twice. -/
theorem nodup_keys (table : Table κ α) : table.keys.Nodup := by
  refine List.pairwise_map.mpr (table.ascending.imp ?_)
  intro left right earlier same
  rw [same, KeyOrder.before_irrefl] at earlier
  exact Bool.noConfusion earlier

/-- There are as many entries as keys. -/
theorem length_keys (table : Table κ α) : table.keys.length = table.size := List.length_map _

/-- The table with every value changed, each in a way that depends on its key. -/
def mapKeyed {β : Type} (table : Table κ α) (change : κ → α → β) : Table κ β :=
  ⟨table.entries.map fun entry => (entry.1, change entry.1 entry.2),
    List.pairwise_map.mpr (table.ascending.imp fun earlier => earlier)⟩

/-- The entries whose values pass a test. -/
def filterValues (table : Table κ α) (keep : α → Bool) : Table κ α :=
  ⟨table.entries.filter fun entry => keep entry.2, List.Pairwise.filter _ table.ascending⟩

variable [DecidableEq κ]

/-- A table contains the keys under which a value is found. -/
theorem contains_iff (table : Table κ α) (key : κ) :
    table.contains key = true ↔ ∃ value, table.find? key = some value :=
  Option.isSome_iff_exists

/-- It does not contain those under which none is found. -/
theorem not_contains_iff (table : Table κ α) (key : κ) :
    table.contains key = false ↔ table.find? key = none :=
  Option.isSome_eq_false_iff.trans Option.isNone_iff_eq_none

/-- The keys that it contains are the ones that it lists. -/
theorem contains_iff_mem_keys (table : Table κ α) (key : κ) :
    table.contains key = true ↔ key ∈ table.keys := Entries.find?_isSome_iff

/-- A written key is contained, and no other is lost. -/
theorem contains_insert (table : Table κ α) (key wanted : κ) (value : α) :
    (table.insert key value).contains wanted = (decide (wanted = key) || table.contains wanted) := by
  simp only [contains, find?_insert]
  by_cases same : wanted = key <;> simp [same]

/-- Removing what was just written leaves the table as it was, if nothing was overwritten. -/
theorem erase_insert {table : Table κ α} {key : κ} (absent : table.find? key = none) (value : α) :
    (table.insert key value).erase key = table := by
  refine eq_of_find?_eq fun wanted => ?_
  rw [find?_erase, find?_insert]
  split
  · next same => rw [same, absent]
  · rfl

/-- Writing the value that is there changes nothing. -/
theorem insert_of_find? {table : Table κ α} {key : κ} {value : α}
    (found : table.find? key = some value) : table.insert key value = table := by
  refine eq_of_find?_eq fun wanted => ?_
  rw [find?_insert]
  split
  · next same => rw [same, found]
  · rfl

/-- Of two values written under one key the later one stays. -/
theorem insert_insert (table : Table κ α) (key : κ) (earlier value : α) :
    (table.insert key earlier).insert key value = table.insert key value := by
  refine eq_of_find?_eq fun wanted => ?_
  rw [find?_insert, find?_insert, find?_insert]
  split <;> rfl

/-- To change the value under a key is to write the changed value. -/
theorem modify_eq_insert {table : Table κ α} {key : κ} {value : α}
    (found : table.find? key = some value) (change : α → α) :
    table.modify key change = table.insert key (change value) := by
  refine eq_of_find?_eq fun wanted => ?_
  rw [find?_modify, find?_insert]
  split
  · next same => rw [same, found, Option.map_some]
  · rfl

/-- Two changes of the value under a key come to one. -/
theorem modify_modify (table : Table κ α) (key : κ) (first second : α → α) :
    (table.modify key first).modify key second =
      table.modify key fun value => second (first value) := by
  refine eq_of_find?_eq fun wanted => ?_
  rw [find?_modify, find?_modify, find?_modify]
  split
  · rw [Option.map_map]
    rfl
  · rfl

/-- A table that leads from the places of another table's values back to their keys has as many
entries.

Proof: no two values have one place, since the place leads back to one key only. So the places
of the values are distinct, and they are exactly the keys of the index. -/
theorem size_eq_of_index {ι : Type} [KeyOrder ι] [DecidableEq ι] {table : Table κ α}
    {index : Table ι κ} {place : α → ι}
    (filed : ∀ {key value}, table.find? key = some value → index.find? (place value) = some key)
    (indexed : ∀ {spot key}, index.find? spot = some key →
      ∃ value, table.find? key = some value ∧ place value = spot) : index.size = table.size := by
  have found : ∀ entry ∈ table.entries, table.find? entry.1 = some entry.2 :=
    fun entry member => (table.mem_entries_iff entry.1 entry.2).mp member
  have distinct : (table.entries.map fun entry => place entry.2).Nodup := by
    have keys : (table.entries.map (·.1)).Nodup := table.nodup_keys
    refine List.Nodup.map_on ?_ (List.Nodup.of_map _ keys)
    intro left leftMember right rightMember same
    have leads := filed (found left leftMember)
    rw [same, filed (found right rightMember), Option.some.injEq] at leads
    exact List.inj_on_of_nodup_map keys leftMember rightMember leads.symm
  have places : (table.entries.map fun entry => place entry.2).Perm index.keys := by
    refine (List.perm_ext_iff_of_nodup distinct index.nodup_keys).mpr fun spot => ?_
    rw [List.mem_map, ← contains_iff_mem_keys, contains_iff]
    constructor
    · rintro ⟨entry, member, rfl⟩
      exact ⟨entry.1, filed (found entry member)⟩
    · rintro ⟨key, led⟩
      obtain ⟨value, held, same⟩ := indexed led
      exact ⟨(key, value), (table.mem_entries_iff key value).mpr held, same⟩
  rw [← index.length_keys, ← places.length_eq, List.length_map]
  rfl

/-- A table is made of the writes one after the other. -/
theorem entries_ofList (entries : List (κ × α)) :
    (ofList entries).entries = Entries.ofList entries := by
  have grown : ∀ table : Table κ α,
      (entries.foldl (fun table entry => table.insert entry.1 entry.2) table).entries =
        entries.foldl (fun written entry => Entries.insert entry.1 entry.2 written)
          table.entries := by
    induction entries with
    | nil => exact fun _ => rfl
    | cons entry rest inductionHypothesis => exact fun table => inductionHypothesis _
  exact grown empty

/-- A table made of its own entries is the table. -/
theorem ofList_entries (table : Table κ α) : ofList table.entries = table := by
  refine eq_of_find?_eq fun wanted => ?_
  simp only [find?, entries_ofList, Entries.ofList_eq_self table.ascending]

/-- Only the table without entries is empty. -/
theorem eq_empty_of_isEmpty {table : Table κ α} (nothing : table.isEmpty = true) :
    table = empty := by
  refine eq_of_find?_eq fun wanted => ?_
  rw [find?, List.isEmpty_iff.mp nothing]
  rfl

/-- Values are kept or dropped, none is changed. -/
theorem find?_filterValues (table : Table κ α) (keep : α → Bool) (wanted : κ) :
    (table.filterValues keep).find? wanted = (table.find? wanted).filter keep := by
  cases found : table.find? wanted with
  | none =>
    rw [Option.filter_none]
    cases kept : (table.filterValues keep).find? wanted with
    | none => rfl
    | some value =>
      have member := ((table.filterValues keep).mem_entries_iff wanted value).mpr kept
      have held := (table.mem_entries_iff wanted value).mp (List.mem_of_mem_filter member)
      rw [found] at held
      exact held.symm
  | some value =>
    have member := (table.mem_entries_iff wanted value).mpr found
    cases passes : keep value with
    | true =>
      have kept : (wanted, value) ∈ (table.filterValues keep).entries :=
        List.mem_filter.mpr ⟨member, passes⟩
      rw [((table.filterValues keep).mem_entries_iff wanted value).mp kept]
      exact (if_pos passes).symm
    | false =>
      cases kept : (table.filterValues keep).find? wanted with
      | none => exact (if_neg (by simp [passes])).symm
      | some other =>
        have stays := ((table.filterValues keep).mem_entries_iff wanted other).mpr kept
        obtain ⟨held, survives⟩ := List.mem_filter.mp stays
        have same := (table.mem_entries_iff wanted other).mp held
        rw [found, Option.some.injEq] at same
        subst same
        simp [passes] at survives

section Changed

variable {β : Type} (change : α → β) (changeAt : κ → α → β) (table : Table κ α) (key : κ)

omit [DecidableEq κ] in
/-- A change of all values makes no entry and drops none. -/
@[simp] theorem isEmpty_mapKeyed : (table.mapKeyed changeAt).isEmpty = table.isEmpty := by
  simp only [isEmpty, mapKeyed, List.isEmpty_map]

omit [DecidableEq κ] in
/-- There are as many entries after a change of all values. -/
@[simp] theorem size_map : (table.map change).size = table.size := by
  simp only [size, map, List.length_map]

/-- The same keys are contained after a change of all values. -/
@[simp] theorem contains_map : (table.map change).contains key = table.contains key := by
  rw [contains, find?_map, Option.isSome_map, contains]

/-- Values changed by their keys are found changed by their keys. -/
theorem find?_mapKeyed :
    (table.mapKeyed changeAt).find? key = (table.find? key).map (changeAt key) := by
  obtain ⟨entries, ascending⟩ := table
  simp only [find?, mapKeyed]
  clear ascending
  induction entries with
  | nil => rfl
  | cons entry rest inductionHypothesis =>
    by_cases same : entry.1 = key
    · simp [Entries.find?, same]
    · simp [Entries.find?, same, inductionHypothesis]

/-- A value may be changed before it is written. -/
theorem mapKeyed_insert (value : α) : (table.insert key value).mapKeyed changeAt =
    (table.mapKeyed changeAt).insert key (changeAt key value) := by
  refine eq_of_find?_eq fun wanted => ?_
  rw [find?_mapKeyed, find?_insert, find?_insert, find?_mapKeyed]
  split
  · next same => rw [same, Option.map_some]
  · rfl

/-- The value to write may be changed by itself or with all others. -/
theorem map_insert (value : α) :
    (table.insert key value).map change = (table.map change).insert key (change value) := by
  refine eq_of_find?_eq fun wanted => ?_
  rw [find?_map, find?_insert, find?_insert, find?_map]
  split <;> rfl

/-- An entry may be removed before or after a change of all values. -/
theorem map_erase : (table.erase key).map change = (table.map change).erase key := by
  refine eq_of_find?_eq fun wanted => ?_
  rw [find?_map, find?_erase, find?_erase, find?_map]
  split <;> rfl

/-- A value may be changed before it is modified, if the one does not get in the way of the other. -/
theorem map_modify {modified : α → α} {modifiedAfter : β → β}
    (commutes : ∀ value, change (modified value) = modifiedAfter (change value)) :
    (table.modify key modified).map change = (table.map change).modify key modifiedAfter := by
  refine eq_of_find?_eq fun wanted => ?_
  rw [find?_map, find?_modify, find?_modify, find?_map]
  split
  · rw [Option.map_map, Option.map_map]
    exact congrArg (Option.map · _) (funext commutes)
  · rfl

end Changed

end Table

end LevelGraph
