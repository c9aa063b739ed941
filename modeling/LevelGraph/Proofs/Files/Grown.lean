import LevelGraph.Logging.Logbook
import LevelGraph.Proofs.Tables

/-!
# Trees of files that grow

Directories that are made, and files that are put where nothing was, take nothing away: what was there
stays, so a walk that came to a place still does. A tree of files grows in this way when directories are
made, also where that fails halfway, and when a log comes into being. So a log that is kept in two steps
leaves the files as one that is kept at once does.
-/

namespace LevelGraph

namespace FileTree

variable {tree before after made : FileTree} {place next start : Place}

/-- A tree has all that an earlier one had, and what is new in it is a directory or an empty file. -/
structure Grown (before after : FileTree) : Prop where
  /-- Relative paths start where they did. -/
  workingDirectory : after.workingDirectory = before.workingDirectory
  /-- What was there is there. -/
  kept : ∀ {path entry}, before.entries.find? path = some entry →
    after.entries.find? path = some entry
  /-- What was not there is a directory or an empty file, if it is there now. -/
  new : ∀ {path entry}, before.entries.find? path = none → after.entries.find? path = some entry →
    entry = .directory ∨ entry = .bytes []

/-- A tree has grown from itself, by nothing. -/
theorem Grown.refl (tree : FileTree) : Grown tree tree :=
  ⟨rfl, fun there => there, fun missing there => nomatch missing.symm.trans there⟩

/-- What stays through two growths stays through both. -/
theorem Grown.trans {between : FileTree} (first : Grown before between)
    (second : Grown between after) : Grown before after where
  workingDirectory := second.workingDirectory.trans first.workingDirectory
  kept there := second.kept (first.kept there)
  new {path entry} missing there := by
    rcases found : between.entries.find? path with _ | other
    · exact second.new found there
    · rw [second.kept found, Option.some.injEq] at there
      exact there ▸ first.new missing found

/-- Something may be put where nothing is. -/
theorem grown_put {entry : FileEntry} (free : tree.entry? place = none)
    (plain : entry = .directory ∨ entry = .bytes []) : Grown tree (tree.put place entry) where
  workingDirectory := rfl
  kept {path other} there := by
    refine (Table.find?_insert ..).trans ((if_neg fun same => ?_).trans there)
    rw [same] at there
    exact nomatch free.symm.trans there
  new {path other} missing there := by
    rw [put, Table.find?_insert] at there
    split at there
    · rw [← Option.some.inj there]
      exact plain
    · exact nomatch missing.symm.trans there

section Walks

variable (grown : Grown before after)

include grown

/-- A step from a place still leads where it led. -/
theorem Grown.step {name : String} (steps : before.step place name = .ok next) :
    after.step place name = .ok next := by
  unfold FileTree.step at steps ⊢
  split at steps
  · cases steps
  · rename_i there
    rw [FileTree.entry?, grown.kept there]
    exact steps
  · cases steps

/-- A walk still comes to the same place. -/
theorem Grown.walk {names : List String} (walks : before.walk start names = .ok place) :
    after.walk start names = .ok place := by
  induction names generalizing start with
  | nil => exact walks
  | cons name rest inductionHypothesis =>
    rw [FileTree.walk] at walks ⊢
    split at walks
    · cases walks
    · rename_i next steps
      rw [grown.step steps]
      exact inductionHypothesis walks

/-- A path still leads to its place. -/
theorem Grown.placeOf {path : String} (leads : before.placeOf path = .ok place) :
    after.placeOf path = .ok place := by
  unfold FileTree.placeOf FileTree.start at leads ⊢
  rw [grown.workingDirectory]
  split at leads
  · cases leads
  · exact grown.walk leads

end Walks

section Making

variable {names : List String} {path : String}

/-- To make one directory takes nothing away. -/
theorem grown_makeOne (makes : tree.makeOne start names = .ok made) : Grown tree made := by
  unfold makeOne at makes
  split at makes
  · cases makes
  · split at makes
    · cases makes
    · split at makes
      · cases makes
      · split at makes
        · cases makes
        · split at makes
          · cases makes
          · rename_i free
            rw [← Except.ok.inj makes]
            exact grown_put free (.inl rfl)

/-- Making directories only adds some, also where it fails.

Proof: induction on the making. What is missing on the way is made first, and then the directory. -/
theorem grown_makeAll (tree : FileTree) (start : Place) (names : List String) :
    Grown tree (tree.makeAll start names).2 := by
  fun_induction makeAll tree start names with
  | case1 => exact .refl tree
  | case2 last front names made makes => exact grown_makeOne makes
  | case3 last front names missing fault prepared prepares inductionHypothesis =>
    rw [prepares] at inductionHypothesis
    exact inductionHypothesis
  | case4 last front names missing prepared prepares made makes inductionHypothesis =>
    rw [prepares] at inductionHypothesis
    exact inductionHypothesis.trans (grown_makeOne makes)
  | case5 last front names missing prepared prepares fault refused there inductionHypothesis =>
    rw [prepares] at inductionHypothesis
    exact inductionHypothesis
  | case6 last front names missing prepared prepares fault refused absent inductionHypothesis =>
    rw [prepares] at inductionHypothesis
    exact inductionHypothesis
  | case7 => exact .refl tree
  | case8 => exact .refl tree

/-- To make all directories of a path takes nothing away, even where it fails half way. -/
theorem grown_makeDirectories (tree : FileTree) (path : String) :
    Grown tree (tree.makeDirectories path).2 := by
  unfold makeDirectories
  split
  · exact .refl tree
  · exact grown_makeAll tree _ _

/-- An empty file that is put where nothing is to be found is found there. -/
theorem grown_writeBytes {fault : FileFault} (missing : tree.find (Path.raw path) = .error fault)
    (writes : tree.writeBytes path [] = .ok made) :
    Grown tree made ∧ ∃ place, made.find (Path.raw path) = .ok (place, .bytes []) := by
  unfold writeBytes at writes
  split at writes
  · cases writes
  · rename_i place leads
    have free : tree.entry? place = none := by
      simp only [FileTree.find, leads] at missing
      split at missing
      · assumption
      · cases missing
    split at writes
    · cases writes
    · have grown : Grown tree made := by
        rw [← Except.ok.inj writes]
        exact grown_put free (.inr rfl)
      refine ⟨grown, place, ?_⟩
      simp only [FileTree.find, grown.placeOf leads]
      rw [← Except.ok.inj writes, entry?, put, Table.find?_insert, if_pos rfl]

end Making

section Logs

/-- The files with the log of a directory, which is made where it is missing and can be made. -/
def withLog (tree : FileTree) (directory : String) : FileTree :=
  match tree.find (Path.raw (logPath directory)) with
  | .ok _ => tree
  | .error _ => ((tree.writeBytes (logPath directory) []).toOption).getD tree

/-- To make a file for the log takes nothing away. -/
theorem grown_withLog (tree : FileTree) (directory : String) :
    tree.Grown (tree.withLog directory) := by
  unfold withLog
  split
  · exact .refl tree
  · rename_i missing
    rcases writes : tree.writeBytes (logPath directory) [] with _ | made
    · exact .refl tree
    · exact (grown_writeBytes missing writes).1

/-- A log is made once. -/
theorem withLog_withLog (tree : FileTree) (directory : String) :
    (tree.withLog directory).withLog directory = tree.withLog directory := by
  rcases found : tree.find (Path.raw (logPath directory)) with fault | there
  · rcases writes : tree.writeBytes (logPath directory) [] with refused | made
    · have same : tree.withLog directory = tree := by
        rw [withLog, found, writes]
        rfl
      rw [same, same]
    · obtain ⟨-, place, leaves⟩ := grown_writeBytes found writes
      have same : tree.withLog directory = made := by
        rw [withLog, found, writes]
        rfl
      rw [same, withLog, leaves]
  · have same : tree.withLog directory = tree := by
      rw [withLog, found]
    rw [same, same]

end Logs

end FileTree

namespace Logging

variable {logging : Logging} {tree : FileTree} {events : List Event}

/-- The files once some events have been logged, whether or not any was written down. -/
def leave (logging : Logging) (tree : FileTree) (events : List Event) : FileTree :=
  (logging.leaveLog? tree events).getD tree

/-- Where no event is kept, no file for the log is made. -/
theorem leave_of_kept_eq_nil (nothing : logging.kept events = []) :
    logging.leave tree events = tree := by
  unfold leave leaveLog?
  rw [nothing]
  split
  · rename_i some
    cases some
  · rfl

/-- Events that are kept leave the files alike, however many they are. -/
theorem leave_of_kept_ne_nil {level : LogLevel} {directory : String}
    (active : logging.active = some (level, directory)) (something : logging.kept events ≠ []) :
    logging.leave tree events = tree.withLog directory := by
  obtain ⟨event, rest, kept⟩ := List.exists_cons_of_ne_nil something
  simp only [leave, leaveLog?, active, kept, FileTree.withLog]
  split
  · rename_i found
    rw [found]
    split <;> rfl
  · rename_i missing
    rw [missing]

/-- Either nothing is kept of events, or they are logged in a directory. -/
theorem kept_eq_nil_or_active (logging : Logging) (events : List Event) :
    logging.kept events = [] ∨ logging.kept events ≠ [] ∧
      ∃ level directory, logging.active = some (level, directory) := by
  rcases active : logging.active with _ | ⟨level, directory⟩
  · exact .inl (by rw [kept, active])
  · exact (eq_or_ne (logging.kept events) []).imp id fun something => ⟨something, level, directory, rfl⟩

/-- To leave a log takes nothing away. -/
theorem grown_leave (logging : Logging) (tree : FileTree) (events : List Event) :
    tree.Grown (logging.leave tree events) := by
  rcases logging.kept_eq_nil_or_active events with nothing | ⟨something, level, directory, active⟩
  · rw [leave_of_kept_eq_nil nothing]
    exact .refl tree
  · rw [leave_of_kept_ne_nil active something]
    exact FileTree.grown_withLog tree directory

/-- Events that are logged in two steps leave the files as all of them do at once. -/
theorem leave_append (logging : Logging) (tree : FileTree) (earlier later : List Event) :
    logging.leave tree (earlier ++ later) = logging.leave (logging.leave tree earlier) later := by
  have keeps : logging.kept (earlier ++ later) = logging.kept earlier ++ logging.kept later := by
    unfold kept
    split
    · rfl
    · exact List.filter_append ..
  rcases logging.kept_eq_nil_or_active earlier with nothing | ⟨something, level, directory, active⟩
  · rw [leave_of_kept_eq_nil nothing]
    simp only [leave, leaveLog?, keeps, nothing, List.nil_append]
  · have both : logging.kept (earlier ++ later) ≠ [] := by
      rw [keeps]
      exact List.append_ne_nil_of_left_ne_nil something _
    rw [leave_of_kept_ne_nil active both, leave_of_kept_ne_nil active something]
    rcases logging.kept_eq_nil_or_active later with nothing | ⟨more, -⟩
    · rw [leave_of_kept_eq_nil nothing]
    · rw [leave_of_kept_ne_nil active more, FileTree.withLog_withLog]

end Logging

namespace Logbook

/-- Logging events leaves the files so, whether or not they are written down. -/
theorem tree_log (book : Logbook) (events : List Event) :
    (book.log events).tree = book.logging.leave book.tree events := by
  unfold log Logging.leave
  split
  · rename_i writes
    rw [writes]
    rfl
  · rename_i refused
    rw [refused]
    rfl

end Logbook

end LevelGraph
