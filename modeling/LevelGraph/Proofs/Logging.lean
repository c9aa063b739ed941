import LevelGraph.Logging.Logbook
import LevelGraph.Proofs.Schema.Resolution

/-!
# Logging starts once

A program may ask for logging any number of times. A call whose directory is blank or no absolute path
is refused and changes nothing. Of the others the first whose directory can be made starts logging, and
what it asked for stays. Calls before it have failed because their directories could not be made, and a
call after it is accepted when it asks for the same and a conflict otherwise, whether or not its
directory could be made.

`StartedOnce` says this of a call after any earlier ones, and `startedOnce` that it is so. Whether a
directory can be made is up to the world, so it is given with each call. A logbook makes the directories
in its tree of files; `exists_calls_of_afterStarts` says that it goes through the same states.
-/

namespace LevelGraph

/-- A call to start logging, with what comes of making its directory where that is tried. -/
structure LoggingCall where
  /-- The level that is asked for. -/
  level : LogLevel
  /-- The directory that is asked for, as it is written. -/
  written : String
  /-- What comes of making the directory. -/
  made : Except FileFault Unit
  deriving DecidableEq

namespace LoggingCall

variable {call first : LoggingCall} {calls : List LoggingCall} {logging : Logging}

/-- The directory without the blanks around it. -/
def directory (call : LoggingCall) : String := Text.trim call.written

/-- The directory is not blank, and its path is absolute. -/
def Valid (call : LoggingCall) : Prop :=
  call.directory ≠ "" ∧ Path.isAbsolute call.directory = true

/-- The call can start logging: it is valid, and its directory can be made. -/
def CanStart (call : LoggingCall) : Prop := call.Valid ∧ call.made = .ok ()

/-- Two calls ask for the same level and for one directory, going by the components of its path. -/
def AsksLike (call other : LoggingCall) : Prop :=
  call.level = other.level ∧ Path.parts call.directory = Path.parts other.directory

instance (call : LoggingCall) : Decidable call.Valid := inferInstanceAs (Decidable (_ ∧ _))

instance (call : LoggingCall) : Decidable call.CanStart := inferInstanceAs (Decidable (_ ∧ _))

instance (call other : LoggingCall) : Decidable (call.AsksLike other) :=
  inferInstanceAs (Decidable (_ ∧ _))

/-- What a call comes to. -/
def start (call : LoggingCall) (logging : Logging) : LoggingStart :=
  logging.start call.level call.written call.made

/-- An empty path is not absolute, so the two conditions come down to one. -/
theorem valid_iff : call.Valid ↔ Path.isAbsolute call.directory = true := by
  refine ⟨And.right, fun absolute => ⟨?_, absolute⟩⟩
  intro empty
  rw [empty] at absolute
  cases absolute

/-- The directory of a valid call is taken. -/
theorem directoryOf_of_valid (valid : call.Valid) :
    Logging.directoryOf call.written = .ok call.directory :=
  if_pos valid.2

/-- A call that is not valid is refused in any state, and leaves it. -/
theorem start_of_not_valid (invalid : ¬ call.Valid) (logging : Logging) :
    call.start logging = ⟨.error (.invalidDirectory call.directory), logging, []⟩ := by
  have refused : Logging.directoryOf call.written = .error (.invalidDirectory call.directory) :=
    if_neg fun absolute => invalid (valid_iff.mpr absolute)
  simp only [start, Logging.start, refused]

/-- A valid call before logging has started is decided by its directory. -/
theorem start_idle (valid : call.Valid) :
    call.start Logging.idle =
      match call.made with
      | .error fault => ⟨.error (.createDirectory call.directory fault), Logging.idle, []⟩
      | .ok () => ⟨.ok (), ⟨some (call.level, call.directory)⟩,
          [.loggingStarted call.level call.directory]⟩ := by
  rw [start, Logging.start, directoryOf_of_valid valid]
  rfl

/-- A valid call after logging has started is decided by what it asks for. -/
theorem start_of_active (active : logging.active = some (first.level, first.directory))
    (valid : call.Valid) :
    call.start logging =
      if first.AsksLike call then ⟨.ok (), logging, []⟩
      else ⟨.error (.conflict first.level first.directory call.level call.directory), logging, []⟩ := by
  simp only [start, Logging.start, directoryOf_of_valid valid, active, AsksLike, Path.same, beq_iff_eq]
  rfl

/-- Once logging has started, no call changes its state. -/
theorem after_start_of_active (active : logging.active = some (first.level, first.directory)) :
    (call.start logging).after = logging := by
  by_cases valid : call.Valid
  · rw [start_of_active active valid]
    split <;> rfl
  · rw [start_of_not_valid valid]

/-- A call that cannot start logging leaves it unstarted. -/
theorem after_start_of_unable (unable : ¬ call.CanStart) :
    (call.start Logging.idle).after = Logging.idle := by
  by_cases valid : call.Valid
  · rw [start_idle valid]
    cases tried : call.made with
    | error fault => rfl
    | ok done => exact absurd ⟨valid, tried⟩ unable
  · rw [start_of_not_valid valid]

end LoggingCall

namespace Logging

variable {calls : List LoggingCall} {first : LoggingCall}

/-- The state after calls, one after the other. -/
def afterCalls (logging : Logging) (calls : List LoggingCall) : Logging :=
  calls.foldl (fun state call => (call.start state).after) logging

/-- The first call is made in the state that is there, and the others in the one that it leaves. -/
theorem afterCalls_cons (logging : Logging) (call : LoggingCall) (rest : List LoggingCall) :
    logging.afterCalls (call :: rest) = (call.start logging).after.afterCalls rest := by
  rw [afterCalls, List.foldl_cons, afterCalls]

/-- Later calls are made in the state that earlier ones leave. -/
theorem afterCalls_append (logging : Logging) (earlier later : List LoggingCall) :
    logging.afterCalls (earlier ++ later) = (logging.afterCalls earlier).afterCalls later :=
  List.foldl_append

/-- Once logging has started, its state stays. -/
theorem afterCalls_of_active {logging : Logging}
    (active : logging.active = some (first.level, first.directory)) (calls : List LoggingCall) :
    logging.afterCalls calls = logging := by
  induction calls with
  | nil => rfl
  | cons call rest inductionHypothesis =>
    rw [afterCalls_cons, LoggingCall.after_start_of_active active, inductionHypothesis]

/-- Calls that cannot start logging leave it unstarted. -/
theorem afterCalls_of_unable (unable : ∀ call ∈ calls, ¬ call.CanStart) :
    idle.afterCalls calls = idle := by
  induction calls with
  | nil => rfl
  | cons call rest inductionHypothesis =>
    rw [afterCalls_cons, LoggingCall.after_start_of_unable (unable call List.mem_cons_self),
      inductionHypothesis fun other listed => unable other (List.mem_cons_of_mem call listed)]

/-- The first call that can start logging fixes its state. -/
theorem afterCalls_of_isFirst (isFirst : IsFirst LoggingCall.CanStart calls first) :
    idle.afterCalls calls = ⟨some (first.level, first.directory)⟩ := by
  obtain ⟨earlier, later, rfl, ⟨valid, made⟩, unable⟩ := isFirst
  rw [afterCalls_append, afterCalls_of_unable unable, afterCalls_cons, LoggingCall.start_idle valid,
    made]
  exact afterCalls_of_active rfl later

/-- What a call comes to after earlier ones, given the state before it. -/
structure StartedOnce (earlier : List LoggingCall) (call : LoggingCall) (before : Logging)
    (start : LoggingStart) : Prop where
  /-- A call that is not valid is refused and changes nothing, whether or not logging has started. -/
  refused : ¬ call.Valid →
    start.result = .error (.invalidDirectory call.directory) ∧ start.after = before
  /-- As long as no call could start it, logging has not started. -/
  unstarted : (∀ other ∈ earlier, ¬ other.CanStart) → before.active = none
  /-- A valid call fails then if its directory cannot be made, and logging has still not started. -/
  unmade : (∀ other ∈ earlier, ¬ other.CanStart) → call.Valid → ∀ {fault}, call.made = .error fault →
    start.result = .error (.createDirectory call.directory fault) ∧ start.after.active = none
  /-- The first call that can start logging does, with its level and its directory. -/
  started : (∀ other ∈ earlier, ¬ other.CanStart) → call.CanStart →
    start.result = .ok () ∧ start.after.active = some (call.level, call.directory)
  /-- From then on the state is the one that it fixed. -/
  fixed : ∀ {first}, IsFirst LoggingCall.CanStart earlier first →
    before.active = some (first.level, first.directory) ∧ start.after = before
  /-- A valid call is then accepted exactly if it asks for the same. -/
  accepted : ∀ {first}, IsFirst LoggingCall.CanStart earlier first → call.Valid →
    (start.result = .ok () ↔ first.AsksLike call)
  /-- Otherwise it is a conflict between what goes on and what it asks for. -/
  conflicting : ∀ {first}, IsFirst LoggingCall.CanStart earlier first → call.Valid →
    ¬ first.AsksLike call →
    start.result = .error (.conflict first.level first.directory call.level call.directory)

/-- Every call of a sequence, whatever comes of making directories, is answered by the first earlier
call that could start logging, or else by its own directory. -/
theorem startedOnce (earlier : List LoggingCall) (call : LoggingCall) :
    StartedOnce earlier call (idle.afterCalls earlier) (call.start (idle.afterCalls earlier)) := by
  refine ⟨?refused, ?unstarted, ?unmade, ?started, ?fixed, ?accepted, ?conflicting⟩
  case refused =>
    intro invalid
    rw [LoggingCall.start_of_not_valid invalid]
    exact ⟨rfl, rfl⟩
  case unstarted =>
    intro unable
    rw [afterCalls_of_unable unable]
    rfl
  case unmade =>
    intro unable valid fault failed
    rw [afterCalls_of_unable unable, LoggingCall.start_idle valid, failed]
    exact ⟨rfl, rfl⟩
  case started =>
    rintro unable ⟨valid, made⟩
    rw [afterCalls_of_unable unable, LoggingCall.start_idle valid, made]
    exact ⟨rfl, rfl⟩
  case fixed =>
    intro first isFirst
    rw [afterCalls_of_isFirst isFirst]
    exact ⟨rfl, LoggingCall.after_start_of_active rfl⟩
  case accepted =>
    intro first isFirst valid
    rw [afterCalls_of_isFirst isFirst, LoggingCall.start_of_active rfl valid]
    by_cases same : first.AsksLike call
    · rw [if_pos same]
      exact iff_of_true rfl same
    · rw [if_neg same]
      exact iff_of_false (fun accepted => nomatch accepted) same
  case conflicting =>
    intro first isFirst valid different
    rw [afterCalls_of_isFirst isFirst, LoggingCall.start_of_active rfl valid, if_neg different]

/-- Three calls: one for a blank directory, one for a directory that cannot be made, and one that starts
logging. -/
def firstCalls : List LoggingCall :=
  [⟨.info, " \t", .ok ()⟩, ⟨.warn, "/file/logs", .error .notADirectory⟩,
    ⟨.info, " /logs/./day/ ", .ok ()⟩]

/-- After the three calls the directory may be written with slashes doubled, with one at the end or without
the dot: a call for it is accepted although the directory could not be made. Another directory at the same
level is a conflict, be it a neighbour, one inside, or the same one by way of `..`; so is another level in
the same directory. A relative path is refused as before. -/
theorem startedOnce_firstCalls :
    (idle.afterCalls firstCalls).active = some (.info, "/logs/./day/") ∧
      (∀ written ∈ ["/logs//day", "/logs/day/", "//logs/day"],
        (LoggingCall.start ⟨.info, written, .error .notFound⟩ (idle.afterCalls firstCalls)).result =
          .ok ()) ∧
      (∀ written ∈ ["/logs/night", "/logs/day/night", "/logs/day/../day", "/logsday"],
        (LoggingCall.start ⟨.info, written, .ok ()⟩ (idle.afterCalls firstCalls)).result =
          .error (.conflict .info "/logs/./day/" .info written)) ∧
      (LoggingCall.start ⟨.debug, "/logs/day", .ok ()⟩ (idle.afterCalls firstCalls)).result =
        .error (.conflict .info "/logs/./day/" .debug "/logs/day") ∧
      (LoggingCall.start ⟨.info, "logs", .ok ()⟩ (idle.afterCalls firstCalls)).result =
        .error (.invalidDirectory "logs") := by
  have isFirst : IsFirst LoggingCall.CanStart firstCalls ⟨.info, " /logs/./day/ ", .ok ()⟩ :=
    ⟨firstCalls.take 2, [], rfl, by decide, by decide⟩
  have level := startedOnce firstCalls ⟨.debug, "/logs/day", .ok ()⟩
  have relative := startedOnce firstCalls ⟨.info, "logs", .ok ()⟩
  refine ⟨(level.fixed isFirst).1, ?same, ?other, level.conflicting isFirst (by decide) (by decide),
    (relative.refused (by decide)).1⟩
  case same =>
    intro written listed
    have asksLike : ∀ written ∈ ["/logs//day", "/logs/day/", "//logs/day"],
        LoggingCall.Valid ⟨.info, written, .error .notFound⟩ ∧
          LoggingCall.AsksLike ⟨.info, " /logs/./day/ ", .ok ()⟩
            ⟨.info, written, .error .notFound⟩ := by decide +kernel
    obtain ⟨valid, same⟩ := asksLike written listed
    exact ((startedOnce firstCalls _).accepted isFirst valid).mpr same
  case other =>
    intro written listed
    have differs : ∀ written ∈ ["/logs/night", "/logs/day/night", "/logs/day/../day", "/logsday"],
        LoggingCall.Valid ⟨.info, written, .ok ()⟩ ∧
          ¬ LoggingCall.AsksLike ⟨.info, " /logs/./day/ ", .ok ()⟩ ⟨.info, written, .ok ()⟩ ∧
          LoggingCall.directory ⟨.info, written, .ok ()⟩ = written := by decide +kernel
    obtain ⟨valid, other, whole⟩ := differs written listed
    have conflict := (startedOnce firstCalls _).conflicting isFirst valid other
    rw [whole] at conflict
    exact conflict

end Logging

namespace Logbook

/-- The call that a logbook makes, with what comes of making the directory in its tree. -/
def call (book : Logbook) (level : LogLevel) (directory : String) : LoggingCall :=
  ⟨level, directory, (book.prepare directory).1⟩

/-- A logbook after it was started any number of times. -/
def afterStarts (book : Logbook) (requests : List (LogLevel × String)) : Logbook :=
  requests.foldl (fun book request => (book.start request.1 request.2).2) book

/-- To log events is not to start or to stop logging. -/
theorem logging_log (book : Logbook) (events : List Event) :
    (book.log events).logging = book.logging := by
  unfold log
  split <;> rfl

/-- Starting a logbook comes to what its call comes to. -/
theorem start_eq (book : Logbook) (level : LogLevel) (directory : String) :
    (book.start level directory).1 = ((book.call level directory).start book.logging).result ∧
      (book.start level directory).2.logging =
        ((book.call level directory).start book.logging).after := by
  rcases prepared : book.prepare directory with ⟨made, tree⟩
  simp only [start, call, LoggingCall.start, prepared, logging_log, and_self]

/-- A logbook goes through the states of calls, with what came of making directories in its tree. -/
theorem exists_calls_of_afterStarts (book : Logbook) (requests : List (LogLevel × String)) :
    ∃ calls : List LoggingCall,
      (calls.map fun call => (call.level, call.written)) = requests ∧
        (book.afterStarts requests).logging = book.logging.afterCalls calls := by
  induction requests generalizing book with
  | nil => exact ⟨[], rfl, rfl⟩
  | cons request rest inductionHypothesis =>
    obtain ⟨calls, asked, same⟩ := inductionHypothesis (book.start request.1 request.2).2
    refine ⟨book.call request.1 request.2 :: calls, by rw [List.map_cons, asked]; rfl, ?_⟩
    rw [afterStarts, List.foldl_cons, ← afterStarts, same, (book.start_eq request.1 request.2).2,
      Logging.afterCalls_cons]

end Logbook

end LevelGraph
