import LevelGraph.Proofs.Store.Locations
import LevelGraph.Proofs.Tables
import LevelGraph.Proofs.Text.ByteOrder

/-!
# A repository as a map

A repository answers its calls as a map from locations to records does, whatever it was called for
before. `Kept` says what such a map has after any calls: at a location, the record that was saved there
last, unless it was deleted since. `Answers` says what each call answers, given what is kept. A blank
location is refused, and nothing is kept at one.

Between the two stands `Holds`, which says that the rows of the database spell the records of a map.
Every call takes a database that holds one map to a database that holds another, in which only the
location of the call may have changed. Locations are told apart by their bytes, so those that differ in
case or in a space at the end have nothing to do with each other.
-/

namespace LevelGraph

/-- The row of a record. -/
def NodeRecord.row (record : NodeRecord) : Row := ⟨record.typeName, .text record.stored⟩

/-- A record can be read again once it is stored: its slots are in order, and its text nests within the
reader's limit. -/
def NodeRecord.Readable (record : NodeRecord) : Prop := record.Ordered ∧ record.nesting ≤ Json.maxDepth

namespace Repository

/-- A call of a repository. -/
inductive Call where
  /-- Save a record at a location. -/
  | save (location : String) (record : NodeRecord)
  /-- Load the record at a location. -/
  | load (location : String)
  /-- Delete the record at a location. -/
  | delete (location : String)
  /-- List the locations that have a record. -/
  | list

/-- What a call answers. -/
inductive Answer where
  /-- The record was saved. -/
  | saved
  /-- The record at the location, if there is one. -/
  | loaded (record : Option NodeRecord)
  /-- Whether there was a record to delete. -/
  | deleted (present : Bool)
  /-- The locations. -/
  | listed (locations : List String)

/-- Try a call: what it answers and the repository that it leaves. -/
def attempt (repository : Repository) : Call → Except RepositoryError (Answer × Repository)
  | .save location record => (repository.save location record).map fun saved => (.saved, saved)
  | .load location => (repository.load location).map fun found => (.loaded found, repository)
  | .delete location =>
    (repository.delete location).map fun (present, left) => (.deleted present, left)
  | .list => repository.locations.map fun locations => (.listed locations, repository)

/-- Carry out a call. One that is refused leaves the repository as it is. -/
def perform (repository : Repository) (call : Call) : Except RepositoryError Answer × Repository :=
  match repository.attempt call with
  | .ok (answer, left) => (.ok answer, left)
  | .error error => (.error error, repository)

/-- The repository after calls, one after the other. -/
def afterCalls (repository : Repository) (calls : List Call) : Repository :=
  calls.foldl (fun repository call => (repository.perform call).2) repository

/-- A location can have a record: it is not blank, and its first character but for spaces is no NUL. -/
def Storable (location : String) : Prop :=
  Text.isBlankText location = false ∧ ¬ Database.LeadingNul location

/-- The table's check tells the second apart. -/
theorem storable_iff {location : String} :
    Storable location ↔ Text.isBlankText location = false ∧ Database.accepts location = true :=
  and_congr_right fun visible => (Database.accepts_iff_of_visible visible).symm

instance (location : String) : Decidable (Storable location) := decidable_of_iff _ storable_iff.symm

variable {repository : Repository} {held : String → Option NodeRecord} {location target : String}
  {record : NodeRecord} {call : Call} {calls : List Call}

namespace Call

/-- The location that a call is about. -/
def location? : Call → Option String
  | save location _ | load location | delete location => some location
  | list => none

/-- A call saves or deletes at the location of these bytes. -/
def Writes (location : String) : Call → Prop
  | save target _ | delete target => Text.utf8 target = Text.utf8 location
  | load _ | list => False

/-- What a call saves can be read again. -/
def Readable : Call → Prop
  | save _ record => record.Readable
  | load _ | delete _ | list => True

/-- What a map of records becomes by a call. -/
def leaves (held : String → Option NodeRecord) (call : Call) (location : String) : Option NodeRecord :=
  match call with
  | save target record => if Storable target ∧ location = target then some record else held location
  | delete target => if location = target then none else held location
  | load _ | list => held location

/-- Where a record can be stored, saving it changes the map at its location. -/
theorem leaves_save (storable : Storable target) :
    (save target record).leaves held =
      fun location => if location = target then some record else held location :=
  funext fun location => by simp only [leaves, storable, true_and]

/-- Where it cannot, the map stays. -/
theorem leaves_save_of_not_storable (unstorable : ¬ Storable target) :
    (save target record).leaves held = held :=
  funext fun location => by simp only [leaves, unstorable, false_and, if_false]

/-- A call is about a blank location, or about none that is blank. -/
theorem blank_or_visible (call : Call) :
    (∃ location, call.location? = some location ∧ Text.isBlankText location = true) ∨
      ∀ location, call.location? = some location → Text.isBlankText location = false := by
  cases call.location? with
  | none => exact .inr fun _ none => nomatch none
  | some location =>
    cases blank : Text.isBlankText location with
    | true => exact .inl ⟨location, rfl, blank⟩
    | false => exact .inr fun _ same => Option.some.inj same ▸ blank

end Call

/-- A record is kept at a location after calls: it is the one that was saved there last and not deleted
since, or it was held there before and nothing was saved or deleted. -/
inductive Kept (held : String → Option NodeRecord) (calls : List Call) (location : String)
    (record : NodeRecord) : Prop where
  /-- It was saved, and nothing was written there since. -/
  | saved (storable : Storable location) (earlier later : List Call)
      (order : calls = earlier ++ .save location record :: later)
      (last : ∀ call ∈ later, ¬ call.Writes location)
  /-- It was there before, and nothing was written there. -/
  | held (before : held location = some record) (untouched : ∀ call ∈ calls, ¬ call.Writes location)

/-- What is kept lies where records can be stored, if that was so before the calls. -/
theorem Kept.storable (before : ∀ location record, held location = some record → Storable location)
    (kept : Kept held calls location record) : Storable location := by
  cases kept with
  | saved storable => exact storable
  | held found => exact before location record found

/-- The last call saved the record, or it was kept and the call wrote nothing there. -/
theorem kept_append_iff :
    Kept held (calls ++ [call]) location record ↔
      (call = .save location record ∧ Storable location) ∨
        (Kept held calls location record ∧ ¬ call.Writes location) := by
  constructor
  · intro kept
    cases kept with
    | saved storable earlier later order last =>
      rcases List.eq_nil_or_concat later with rfl | ⟨between, final, rfl⟩
      · obtain ⟨-, same⟩ := List.append_inj' order rfl
        exact .inl ⟨List.singleton_inj.mp same, storable⟩
      · rw [List.concat_eq_append, ← List.cons_append, ← List.append_assoc] at order
        obtain ⟨sooner, same⟩ := List.append_inj' order rfl
        cases List.singleton_inj.mp same
        rw [List.concat_eq_append, List.forall_mem_append, List.forall_mem_singleton] at last
        exact .inr ⟨.saved storable earlier between sooner last.1, last.2⟩
    | held before untouched =>
      rw [List.forall_mem_append, List.forall_mem_singleton] at untouched
      exact .inr ⟨.held before untouched.1, untouched.2⟩
  · rintro (⟨rfl, storable⟩ | ⟨kept, nothing⟩)
    · exact .saved storable calls [] rfl fun _ listed => nomatch listed
    · cases kept with
      | saved storable earlier later order last =>
        refine .saved storable earlier (later ++ [call]) (by simp [order]) ?_
        exact List.forall_mem_append.mpr ⟨last, List.forall_mem_singleton.mpr nothing⟩
      | held before untouched =>
        exact .held before (List.forall_mem_append.mpr ⟨untouched, List.forall_mem_singleton.mpr nothing⟩)

/-- What a map has after a call: the call saved it, or the map had it and the call wrote nothing there. -/
theorem Call.leaves_eq_some_iff (storable : held location = some record → Storable location) :
    call.leaves held location = some record ↔
      (call = .save location record ∧ Storable location) ∨
        (held location = some record ∧ ¬ call.Writes location) := by
  cases call with
  | save target other =>
    rw [leaves, Writes, Text.utf8_inj]
    by_cases same : location = target
    · subst same
      by_cases stored : Storable location
      · simp [stored]
      · simpa [stored] using fun found => stored (storable found)
    · simp [same, Ne.symm same]
  | delete target =>
    rw [leaves, Writes, Text.utf8_inj]
    by_cases same : location = target
    · simp [same]
    · simp [same, Ne.symm same]
  | load target | list => simp [leaves, Writes]

/-- A map that goes through calls has what is kept.

Proof: induction on the calls from the end, since the last call decides. -/
theorem foldl_leaves_eq_some_iff
    (before : ∀ location record, held location = some record → Storable location) :
    calls.foldl Call.leaves held location = some record ↔ Kept held calls location record := by
  induction calls using List.reverseRecOn generalizing record with
  | nil =>
    constructor
    · exact fun found => .held found fun _ listed => nomatch listed
    · rintro (⟨-, earlier, later, order, -⟩ | ⟨found, -⟩)
      · exact absurd order (by simp)
      · exact found
  | append_singleton calls call inductionHypothesis =>
    rw [List.foldl_append, List.foldl_cons, List.foldl_nil, kept_append_iff, Call.leaves_eq_some_iff,
      inductionHypothesis]
    exact fun found => (inductionHypothesis.mp found).storable before

/-- What a call answers, given what is kept. -/
inductive Answers (kept : String → NodeRecord → Prop) :
    Call → Except RepositoryError Answer → Prop where
  /-- A blank location is refused. -/
  | blank {call : Call} {location : String} (about : call.location? = some location)
      (blank : Text.isBlankText location = true) :
      Answers kept call (.error (.invalidLocation location))
  /-- A record is saved where it can be. -/
  | saved {location : String} {record : NodeRecord} (storable : Storable location) :
      Answers kept (.save location record) (.ok .saved)
  /-- Where a NUL comes first but for spaces, the table's check fails. -/
  | unaccepted {location : String} {record : NodeRecord} (visible : Text.isBlankText location = false)
      (leading : Database.LeadingNul location) :
      Answers kept (.save location record) (.error (.store (.engine .checkFailed)))
  /-- What is kept is loaded, and nothing else. -/
  | loaded {location : String} {found : Option NodeRecord}
      (visible : Text.isBlankText location = false)
      (exact : ∀ record, found = some record ↔ kept location record) :
      Answers kept (.load location) (.ok (.loaded found))
  /-- A deletion tells whether something was kept. -/
  | deleted {location : String} {present : Bool} (visible : Text.isBlankText location = false)
      (exact : present = true ↔ ∃ record, kept location record) :
      Answers kept (.delete location) (.ok (.deleted present))
  /-- The locations of all that is kept are listed in ascending order of their bytes, none twice. -/
  | listed {locations : List String}
      (exact : ∀ location, location ∈ locations ↔ ∃ record, kept location record)
      (ascending : locations.Pairwise fun first second => Text.utf8 first < Text.utf8 second) :
      Answers kept .list (.ok (.listed locations))

/-- What is kept leaves no choice of an answer. -/
theorem Answers.unique {kept : String → NodeRecord → Prop}
    {first second : Except RepositoryError Answer}
    (answers : Answers kept call first) (others : Answers kept call second) : first = second := by
  have apart {location : String} (blank : Text.isBlankText location = true) :
      ¬ Text.isBlankText location = false := by simp [blank]
  cases answers with
  | blank about blank =>
    cases others with
    | blank again => rw [Option.some.inj (about.symm.trans again)]
    | saved storable => exact absurd storable.1 (apart (Option.some.inj about ▸ blank))
    | unaccepted visible | loaded visible | deleted visible =>
      exact absurd visible (apart (Option.some.inj about ▸ blank))
    | listed => cases about
  | saved storable =>
    cases others with
    | blank about blank => exact absurd storable.1 (apart (Option.some.inj about ▸ blank))
    | saved => rfl
    | unaccepted _ leading => exact absurd leading storable.2
  | unaccepted visible leading =>
    cases others with
    | blank about blank => exact absurd visible (apart (Option.some.inj about ▸ blank))
    | saved storable => exact absurd leading storable.2
    | unaccepted => rfl
  | loaded visible exact =>
    cases others with
    | blank about blank => exact absurd visible (apart (Option.some.inj about ▸ blank))
    | loaded _ same =>
      have found := Option.ext fun record => (exact record).trans (same record).symm
      rw [found]
  | deleted visible exact =>
    cases others with
    | blank about blank => exact absurd visible (apart (Option.some.inj about ▸ blank))
    | deleted _ same => rw [Bool.eq_iff_iff.mpr (exact.trans same.symm)]
  | listed exact ascending =>
    cases others with
    | blank about => cases about
    | listed same alsoAscending =>
      have listedOnce {names : List String}
          (ordered : names.Pairwise fun first second => Text.utf8 first < Text.utf8 second) :
          names.Nodup := by
        refine ordered.imp fun {location other} before equal => ?_
        exact List.lt_irrefl _ (equal ▸ before)
      have permuted := (List.perm_ext_iff_of_nodup (listedOnce ascending) (listedOnce alsoAscending)).mpr
        fun location => (exact location).trans (same location).symm
      have inOrder := permuted.eq_of_pairwise
        (fun _ _ _ _ before after => absurd after (List.lt_asymm before)) ascending alsoAscending
      rw [inOrder]

/-- A call that succeeds answers what it attempts. -/
theorem perform_of_attempt {answer : Answer} {left : Repository}
    (done : repository.attempt call = .ok (answer, left)) :
    repository.perform call = (.ok answer, left) := by
  rw [perform, done]

/-- A call that fails leaves the repository. -/
theorem perform_of_attempt_error {error : RepositoryError}
    (failed : repository.attempt call = .error error) :
    repository.perform call = (.error error, repository) := by
  rw [perform, failed]

/-- The rows of a repository with the current layout spell the records of a map. -/
structure Holds (repository : Repository) (held : String → Option NodeRecord) : Prop where
  /-- The layout is the current one. -/
  current : repository.database.Current
  /-- No location is closed. -/
  open_ : ∀ location, repository.closed location = false
  /-- There is a row where there is a record, and it is that of the record. -/
  rows : ∀ location, repository.database.rows.find? location = (held location).map NodeRecord.row
  /-- Every record can be read again. -/
  readable : ∀ location record, held location = some record → record.Readable
  /-- It is at a location that can have one. -/
  storable : ∀ location record, held location = some record → Storable location

namespace Holds

variable (holds : repository.Holds held)

include holds

/-- The text of the record is the body at its location. -/
theorem readBody (location : String) :
    repository.database.readBody location = .ok ((held location).map NodeRecord.stored) := by
  rw [Database.readBody, holds.current.table]
  dsimp only
  rw [holds.rows location]
  cases held location <;> rfl

/-- What is held is loaded. -/
theorem load (visible : Text.isBlankText location = false) :
    repository.load location = .ok (held location) := by
  have body := holds.readBody location
  cases found : held location with
  | none =>
    rw [found] at body
    simp [Repository.load, visible, body]
  | some record =>
    obtain ⟨ordered, fits⟩ := holds.readable location record found
    rw [found] at body
    rw [load_of_readBody visible ordered body, if_pos fits]

/-- A deletion finds what is held and takes out its row. -/
theorem delete (visible : Text.isBlankText location = false) :
    repository.delete location =
      .ok ((held location).isSome, { repository with database :=
        { repository.database with rows := repository.database.rows.erase location } }) := by
  have present : repository.database.rows.contains location = (held location).isSome := by
    rw [Table.contains, holds.rows, Option.isSome_map]
  simp [Repository.delete, visible, Database.deleteRow, holds.current.table, present]

/-- The locations are the keys of the rows. -/
theorem locations : repository.locations = .ok repository.database.rows.keys := by
  simp [Repository.locations, Database.listLocations, holds.current.table]

/-- The locations of the rows are those where the map has a record. -/
theorem mem_keys_iff :
    location ∈ repository.database.rows.keys ↔ ∃ record, held location = some record := by
  rw [← Table.contains_iff_mem_keys, Table.contains, holds.rows, Option.isSome_map,
    Option.isSome_iff_exists]

/-- Nothing is held at a blank location. -/
theorem eq_none_of_blank (blank : Text.isBlankText location = true) : held location = none := by
  cases found : held location with
  | none => rfl
  | some record =>
    have storable := holds.storable location record found
    exact absurd (blank.symm.trans storable.1) Bool.noConfusion

/-- Where the row at one location becomes another one, or is taken out, only that entry of the map
changes. -/
theorem rewritten {rows : Table String Row} {entry : Option NodeRecord}
    (changed : ∀ location, rows.find? location =
      if location = target then entry.map NodeRecord.row else repository.database.rows.find? location)
    (proper : ∀ record, entry = some record → record.Readable ∧ Storable target) :
    ({ repository with database := { repository.database with rows := rows } } : Repository).Holds
      fun location => if location = target then entry else held location where
  current := ⟨holds.current.version, holds.current.table⟩
  open_ := holds.open_
  rows location := by
    rw [changed, holds.rows location, apply_ite (Option.map NodeRecord.row)]
  readable location record found := by
    split at found
    · exact (proper record found).1
    · exact holds.readable location record found
  storable location record found := by
    split at found
    · next same => exact same ▸ (proper record found).2
    · exact holds.storable location record found

/-- A record that is stored at a location is held there. -/
theorem put (storable : Storable target) (readable : record.Readable) :
    (repository.put target record).Holds
      fun location => if location = target then some record else held location :=
  holds.rewritten (fun _ => Table.find?_insert ..) fun _ same =>
    Option.some.inj same ▸ ⟨readable, storable⟩

/-- Where a row is taken out, nothing is held any more. -/
theorem takenOut (target : String) :
    ({ repository with database :=
        { repository.database with rows := repository.database.rows.erase target } } : Repository).Holds
      fun location => if location = target then none else held location :=
  holds.rewritten (fun _ => Table.find?_erase ..) fun _ none => nomatch none

/-- A call about a blank location is refused and changes nothing. -/
theorem perform_blank (about : call.location? = some location)
    (blank : Text.isBlankText location = true) :
    repository.perform call = (.error (.invalidLocation location), repository) ∧
      call.leaves held = held := by
  cases call with
  | list => cases about
  | load target =>
    cases about
    have refused : repository.load location = .error (.invalidLocation location) := if_pos blank
    exact ⟨perform_of_attempt_error (by rw [attempt, refused]; rfl), rfl⟩
  | save target record =>
    cases about
    have refused : repository.save location record = .error (.invalidLocation location) :=
      (save_eq_invalidLocation_iff (holds.open_ location)).mpr blank
    refine ⟨perform_of_attempt_error (by rw [attempt, refused]; rfl),
      Call.leaves_save_of_not_storable fun storable => ?_⟩
    exact Bool.false_ne_true (storable.1.symm.trans blank)
  | delete target =>
    cases about
    have refused : repository.delete location = .error (.invalidLocation location) := if_pos blank
    refine ⟨perform_of_attempt_error (by rw [attempt, refused]; rfl), funext fun other => ?_⟩
    by_cases same : other = location
    · rw [Call.leaves, if_pos same, same, holds.eq_none_of_blank blank]
    · rw [Call.leaves, if_neg same]

/-- A save where a record can be is stored. -/
theorem perform_save (storable : Storable location) (record : NodeRecord) :
    repository.perform (.save location record) = (.ok .saved, repository.put location record) := by
  obtain ⟨visible, accepted⟩ := storable_iff.mp storable
  refine perform_of_attempt ?_
  rw [attempt, save_of_visible (holds.open_ location) visible holds.current.table, if_pos accepted]
  rfl

/-- At any other location that is not blank the table's check refuses it. -/
theorem perform_save_of_leadingNul (visible : Text.isBlankText location = false)
    (leading : Database.LeadingNul location) (record : NodeRecord) :
    repository.perform (.save location record) =
      (.error (.store (.engine .checkFailed)), repository) := by
  have refused : ¬ Database.accepts location = true :=
    mt (Database.accepts_iff_of_visible visible).mp (not_not_intro leading)
  refine perform_of_attempt_error ?_
  rw [attempt, save_of_visible (holds.open_ location) visible holds.current.table, if_neg refused]
  rfl

/-- Loading answers with the entry of the map at the location, which is not blank, and leaves the
repository. -/
theorem perform_load (visible : Text.isBlankText location = false) :
    repository.perform (.load location) = (.ok (.loaded (held location)), repository) :=
  perform_of_attempt (by rw [attempt, holds.load visible]; rfl)

/-- Deleting answers whether there was an entry at the location, which is not blank, and takes it out.
-/
theorem perform_delete (visible : Text.isBlankText location = false) :
    repository.perform (.delete location) =
      (.ok (.deleted (held location).isSome), { repository with database :=
        { repository.database with rows := repository.database.rows.erase location } }) :=
  perform_of_attempt (by rw [attempt, holds.delete visible]; rfl)

/-- Listing answers with the locations of the rows and leaves the repository. -/
theorem perform_list :
    repository.perform .list = (.ok (.listed repository.database.rows.keys), repository) :=
  perform_of_attempt (by rw [attempt, holds.locations]; rfl)

/-- What one call does to the map. -/
theorem perform (readable : call.Readable) : (repository.perform call).2.Holds (call.leaves held) := by
  rcases call.blank_or_visible with ⟨location, about, blank⟩ | visible
  · obtain ⟨refused, same⟩ := holds.perform_blank about blank
    rw [refused, same]
    exact holds
  · cases call with
    | save target record =>
      by_cases storable : Storable target
      · rw [holds.perform_save storable, Call.leaves_save storable]
        exact holds.put storable readable
      · have leading : Database.LeadingNul target :=
          not_not.mp fun other => storable ⟨visible _ rfl, other⟩
        rw [holds.perform_save_of_leadingNul (visible _ rfl) leading,
          Call.leaves_save_of_not_storable storable]
        exact holds
    | delete target =>
      rw [holds.perform_delete (visible _ rfl)]
      exact holds.takenOut target
    | load target =>
      rw [holds.perform_load (visible _ rfl)]
      exact holds
    | list =>
      rw [holds.perform_list]
      exact holds

/-- What calls one after the other do to the map.

Proof: induction on the calls. What the first one leaves is held again. -/
theorem afterCalls (readable : ∀ call ∈ calls, call.Readable) :
    (repository.afterCalls calls).Holds (calls.foldl Call.leaves held) := by
  induction calls generalizing repository held with
  | nil => exact holds
  | cons call rest inductionHypothesis =>
    obtain ⟨first, others⟩ := List.forall_mem_cons.mp readable
    exact inductionHypothesis (holds.perform first) others

/-- A call is answered by what is held. -/
theorem answers : Answers (fun location record => held location = some record) call
    (repository.perform call).1 := by
  rcases call.blank_or_visible with ⟨location, about, blank⟩ | visible
  · rw [(holds.perform_blank about blank).1]
    exact .blank about blank
  · cases call with
    | save target record =>
      by_cases leading : Database.LeadingNul target
      · rw [holds.perform_save_of_leadingNul (visible _ rfl) leading]
        exact .unaccepted (visible _ rfl) leading
      · rw [holds.perform_save ⟨visible _ rfl, leading⟩]
        exact .saved ⟨visible _ rfl, leading⟩
    | delete target =>
      rw [holds.perform_delete (visible _ rfl)]
      exact .deleted (visible _ rfl) Option.isSome_iff_exists
    | load target =>
      rw [holds.perform_load (visible _ rfl)]
      exact .loaded (visible _ rfl) fun record => Iff.rfl
    | list =>
      rw [holds.perform_list]
      refine .listed (fun location => holds.mem_keys_iff) ?_
      refine List.pairwise_map.mpr (repository.database.rows.ascending.imp fun earlier => ?_)
      exact Text.utf8_lt_of_lt (of_decide_eq_true earlier)

/-- A call leaves the row at a location alone, unless it saves or deletes there. -/
theorem perform_find? (apart : ¬ call.Writes location) :
    (repository.perform call).2.database.rows.find? location =
      repository.database.rows.find? location := by
  rcases call.blank_or_visible with ⟨blankLocation, about, blank⟩ | visible
  · rw [(holds.perform_blank about blank).1]
  · cases call with
    | save target record =>
      have different : location ≠ target := fun same => apart (congrArg Text.utf8 same.symm)
      by_cases leading : Database.LeadingNul target
      · rw [holds.perform_save_of_leadingNul (visible _ rfl) leading]
      · rw [holds.perform_save ⟨visible _ rfl, leading⟩]
        exact (Table.find?_insert ..).trans (if_neg different)
    | delete target =>
      have different : location ≠ target := fun same => apart (congrArg Text.utf8 same.symm)
      rw [holds.perform_delete (visible _ rfl)]
      exact (Table.find?_erase ..).trans (if_neg different)
    | load target => rw [holds.perform_load (visible _ rfl)]
    | list => rw [holds.perform_list]

end Holds

/-- A call that is refused changes nothing. -/
theorem perform_of_refused {error : RepositoryError}
    (refused : (repository.perform call).1 = .error error) :
    (repository.perform call).2 = repository := by
  cases tried : repository.attempt call with
  | ok done =>
    rw [perform_of_attempt tried] at refused
    cases refused
  | error error => rw [perform_of_attempt_error tried]

/-- A repository is a map from locations to records. In a database with the current layout and no row
there is the empty map. From any map on, after any calls that save records that can be read again, every
call is answered by what is kept. It changes nothing at a location of other bytes than its own, and
nothing at all where it is refused. -/
theorem answers_as_map :
    (∀ db : Database, db.Current → db.rows = Table.empty →
      ∃ repository, Repository.ofDatabase db = .ok repository ∧ repository.Holds fun _ => none) ∧
    ∀ (repository : Repository) (held : String → Option NodeRecord) (calls : List Call),
      repository.Holds held → (∀ call ∈ calls, call.Readable) → ∀ call,
        Answers (Kept held calls) call ((repository.afterCalls calls).perform call).1 ∧
        (∀ location, ¬ call.Writes location →
          ((repository.afterCalls calls).perform call).2.database.rows.find? location =
            (repository.afterCalls calls).database.rows.find? location) ∧
        ∀ error, ((repository.afterCalls calls).perform call).1 = .error error →
          ((repository.afterCalls calls).perform call).2 = repository.afterCalls calls := by
  refine ⟨fun db current empty => ⟨_, current.ofDatabase, ?none⟩,
    fun repository held calls holds readable call => ⟨?answer, ?apart, ?refused⟩⟩
  case none =>
    refine ⟨current, fun _ => rfl, fun location => ?_, ?_, ?_⟩
    · rw [empty]
      rfl
    · exact fun _ _ none => nomatch none
    · exact fun _ _ none => nomatch none
  case answer =>
    have kept : (fun location record => calls.foldl Call.leaves held location = some record) =
        Kept held calls := by
      funext location record
      exact propext (foldl_leaves_eq_some_iff holds.storable)
    exact kept ▸ (holds.afterCalls readable).answers
  case apart => exact fun location => (holds.afterCalls readable).perform_find?
  case refused => exact fun error => perform_of_refused

/-- A store that was just made. Three locations that differ in case or in a space at the end take records,
one of them is written again and one deleted. Then the first has the record that was written last, the
second none and the third its own, and a location of a tab is refused. -/
theorem answers_as_map_apart :
    let record : NodeRecord := ⟨default, "gameType", Table.empty, []⟩
    let calls : List Call :=
      [.save "a" default, .save "A" default, .save "a " default, .delete "A", .save "a" record]
    ∃ repository, Repository.ofDatabase Database.fresh.migrate.after = .ok repository ∧
      ((repository.afterCalls calls).perform (.load "a")).1 = .ok (.loaded (some record)) ∧
      ((repository.afterCalls calls).perform (.delete "A")).1 = .ok (.deleted false) ∧
      ((repository.afterCalls calls).perform (.load "a ")).1 = .ok (.loaded (some default)) ∧
      ((repository.afterCalls calls).perform (.load "\t")).1 = .error (.invalidLocation "\t") := by
  intro record calls
  have current : Database.fresh.migrate.after.Current :=
    (Database.current_of_migrate (by decide) rfl (by decide)).1
  obtain ⟨starts, goesOn⟩ := answers_as_map
  obtain ⟨repository, made, holds⟩ := starts _ current rfl
  have plain (name : String) : (NodeRecord.mk default name Table.empty []).Readable :=
    ⟨⟨Entries.ascending_nil, trivial⟩, Nat.le_of_ble_eq_true rfl⟩
  have readable : ∀ call ∈ calls, call.Readable := by
    simp only [calls, List.forall_mem_cons]
    exact ⟨plain _, plain _, plain _, trivial, plain _, fun _ listed => nomatch listed⟩
  have answered (call : Call) := (goesOn repository _ calls holds readable call).1
  have kept (location : String) (record : NodeRecord) :
      Kept (fun _ => none) calls location record ↔
        calls.foldl Call.leaves (fun _ => none) location = some record :=
    (foldl_leaves_eq_some_iff holds.storable).symm
  refine ⟨repository, made, (answered _).unique (.loaded (by decide) fun other => ?_),
    (answered _).unique (.deleted (by decide) ?_),
    (answered _).unique (.loaded (by decide) fun other => ?_),
    (answered _).unique (.blank rfl (by decide))⟩
  · exact (kept "a" other).symm
  · simp only [kept]
    exact iff_of_false Bool.false_ne_true fun ⟨_, found⟩ => nomatch found
  · exact (kept "a " other).symm

end Repository

end LevelGraph
