import LevelGraph.Proofs.Repositories
import LevelGraph.Proofs.Store.CurrentLayout
import LevelGraph.Proofs.Text.Blank

/-!
# Which locations take documents

Two tests stand between a location and its row. The repository refuses what is blank, and blank means
any Unicode white space. The table's own check, which is `length(trim(uri)) > 0`, strips spaces only
and counts the characters before the first NUL.

`save_by_location` says for every location which of the two refuses it, whatever record is to be saved
there. What the check refuses is blank, except where a NUL is the first character but for spaces: such a
location is not blank, and still nothing can be saved there.
-/

namespace LevelGraph

namespace Database

variable {location : String} {spaces rest : List Char} {first : Char}

/-- What the check counts of a text from which spaces were stripped: its characters before the first
NUL. -/
def lengthToNul (chars : List Char) : Nat := (chars.takeWhile (· != '\x00')).length

/-- A NUL is the first character of a location but for spaces. -/
def LeadingNul (location : String) : Prop :=
  ∃ spaces rest, location.toList = spaces ++ '\x00' :: rest ∧ ∀ char ∈ spaces, char = ' '

/-- The first character that is no space decides. -/
theorem accepts_of_run (split : location.toList = spaces ++ first :: rest)
    (stripped : ∀ char ∈ spaces, (char == ' ') = true) (stays : (first == ' ') = false) :
    accepts location = (first != '\x00') := by
  rw [accepts, split, Text.dropWhile_of_run stripped stays]

/-- The check refuses what is made of spaces alone, and what begins with a NUL but for spaces. -/
theorem accepts_eq_false_iff :
    accepts location = false ↔ (∀ char ∈ location.toList, char = ' ') ∨ LeadingNul location := by
  constructor
  · intro refused
    rcases Text.all_or_first_kept (· == ' ') location.toList with
      all | ⟨spaces, first, rest, split, stripped, stays⟩
    · exact .inl fun char listed => eq_of_beq (all char listed)
    · rw [accepts_of_run split stripped stays, bne_eq_false_iff_eq] at refused
      subst refused
      exact .inr ⟨spaces, rest, split, fun char listed => eq_of_beq (stripped char listed)⟩
  · rintro (all | ⟨spaces, rest, split, stripped⟩)
    · rw [accepts, List.dropWhile_eq_nil_iff.mpr fun char listed => beq_iff_eq.mpr (all char listed)]
    · exact accepts_of_run split (fun char listed => beq_iff_eq.mpr (stripped char listed)) rfl

/-- The check is `length(trim(uri)) > 0`. -/
theorem accepts_iff_length :
    accepts location = true ↔ 0 < lengthToNul (Text.stripBoth (· == ' ') location.toList) := by
  rcases Text.all_or_first_kept (· == ' ') location.toList with
    all | ⟨spaces, first, rest, split, stripped, stays⟩
  · rw [accepts, List.dropWhile_eq_nil_iff.mpr all, Text.stripBoth_eq_nil_iff.mpr all]
    exact iff_of_false Bool.false_ne_true (Nat.lt_irrefl 0)
  · obtain ⟨kept, same⟩ := Text.exists_stripBoth_of_run stripped stays rest
    rw [accepts_of_run split stripped stays, split, same, lengthToNul, List.takeWhile_cons]
    cases first != '\x00' <;> simp

/-- A location that begins with a NUL but for spaces is not blank, since a NUL is not. -/
theorem LeadingNul.visible (leading : LeadingNul location) : Text.isBlankText location = false := by
  obtain ⟨spaces, rest, split, -⟩ := leading
  rw [Text.isBlankText, split, List.all_append, List.all_cons, show Text.isBlank '\x00' = false from rfl,
    Bool.false_and, Bool.and_false]

/-- What is not blank passes the check, unless it begins with a NUL but for spaces. -/
theorem accepts_iff_of_visible (visible : Text.isBlankText location = false) :
    accepts location = true ↔ ¬ LeadingNul location := by
  have shown : ¬ ∀ char ∈ location.toList, char = ' ' := by
    intro spaces
    have blank : Text.isBlankText location = true :=
      List.all_eq_true.mpr fun char listed => spaces char listed ▸ rfl
    exact Bool.false_ne_true (visible.symm.trans blank)
  rw [← Bool.not_eq_false, accepts_eq_false_iff, or_iff_right shown]

/-- Of the locations that are not blank the check refuses those that lead with a NUL. -/
theorem accepts_eq_false_iff_of_visible (visible : Text.isBlankText location = false) :
    accepts location = false ↔ LeadingNul location := by
  rw [← Bool.not_eq_true, accepts_iff_of_visible visible, Classical.not_not]

end Database

namespace Repository

variable {repository : Repository} {location : String} {record : NodeRecord}

/-- A repository with no location closed refuses blank locations and no others. -/
theorem save_eq_invalidLocation_iff (open_ : repository.closed location = false) :
    repository.save location record = .error (.invalidLocation location) ↔
      Text.isBlankText location = true := by
  unfold save
  rw [open_]
  split
  · next refused => exact iff_of_true rfl (by simpa using refused)
  · next allowed =>
    refine iff_of_false ?_ (by simpa using allowed)
    split <;> exact fun refused => nomatch refused

/-- What is not blank goes to the table, whose check decides. -/
theorem save_of_visible (open_ : repository.closed location = false)
    (visible : Text.isBlankText location = false)
    (table : repository.database.documents = some .table) :
    repository.save location record =
      if Database.accepts location then .ok (repository.put location record)
      else .error (.store (.engine .checkFailed)) := by
  split
  · next accepted => exact save_of_writable ⟨open_, visible, table, accepted⟩ record
  · next refused => simp [save, Database.writeRow, open_, visible, table, refused]

/-- To save a record in a database with the current layout. A location of which trimming leaves nothing,
which is one of Unicode white space alone, is an invalid one, whatever the record. Any other goes to the
table. If what SQL trims has a length there, the record is stored, and otherwise the check fails. It fails
exactly for a location that begins with a NUL but for spaces, and this one is not blank. -/
theorem save_by_location {db : Database} (current : db.Current) (location : String)
    (record : NodeRecord) :
    ∃ repository, Repository.ofDatabase db = .ok repository ∧
      (repository.save location record = .error (.invalidLocation location) ↔
        Text.trim location = "") ∧
      (Text.trim location = "" ↔ ∀ char ∈ location.toList, Text.isBlank char = true) ∧
      (Text.trim location ≠ "" →
        (repository.save location record = .ok (repository.put location record) ↔
          0 < Database.lengthToNul (Text.stripBoth (· == ' ') location.toList)) ∧
        (repository.save location record = .error (.store (.engine .checkFailed)) ↔
          Database.LeadingNul location)) ∧
      (Database.LeadingNul location → Text.trim location ≠ "") := by
  refine ⟨_, current.ofDatabase, ?invalid, ?white, fun shown => ?checked, fun leading => ?apart⟩
  case invalid => rw [save_eq_invalidLocation_iff rfl, Text.trim_eq_empty_iff]
  case white => rw [Text.trim_eq_empty_iff, Text.isBlankText, List.all_eq_true]
  case checked =>
    have visible : Text.isBlankText location = false := by
      rwa [ne_eq, Text.trim_eq_empty_iff, Bool.not_eq_true] at shown
    rw [save_of_visible rfl visible current.table, ← Database.accepts_iff_length,
      ← Database.accepts_eq_false_iff_of_visible visible]
    cases Database.accepts location <;> simp
  case apart =>
    rw [ne_eq, Text.trim_eq_empty_iff, leading.visible]
    exact Bool.false_ne_true

/-- A store that was just made takes a location of one letter and refuses one of a tab as blank. One of a
space, a NUL and letters is not blank, and the check fails. -/
theorem save_by_location_nul :
    ∃ repository, Repository.ofDatabase Database.fresh.migrate.after = .ok repository ∧
      repository.save "a" default = .ok (repository.put "a" default) ∧
      repository.save "\t" default = .error (.invalidLocation "\t") ∧
      Text.trim " \x00cell" ≠ "" ∧
      repository.save " \x00cell" default = .error (.store (.engine .checkFailed)) := by
  have current : Database.fresh.migrate.after.Current :=
    (Database.current_of_migrate (by decide) rfl (by decide)).1
  obtain ⟨repository, made, -, -, letter, -⟩ := save_by_location current "a" default
  obtain ⟨_, sameForTab, tab, -⟩ := save_by_location current "\t" default
  obtain ⟨_, sameForNul, -, -, nul, notBlank⟩ := save_by_location current " \x00cell" default
  cases made.symm.trans sameForTab
  cases made.symm.trans sameForNul
  have leading : Database.LeadingNul " \x00cell" :=
    ⟨[' '], "cell".toList, by decide, List.forall_mem_singleton.mpr rfl⟩
  exact ⟨repository, made, (letter (by decide)).1.mpr (by decide), tab.mpr (by decide),
    notBlank leading, (nul (notBlank leading)).2.mpr leading⟩

end Repository

end LevelGraph
