import LevelGraph.Logging
import LevelGraph.Proofs.Json.ReadBack
import LevelGraph.Proofs.Text.Blank
import LevelGraph.Settings

/-!
# Settings that a session can start from

Settings are read from a text and then looked at: `Usable` says what is looked for. What a session asks
for, an absolute directory, is looked for once more when logging starts, but there the blanks around the
directory are taken off first. An absolute path begins with a slash, which is no blank, so what is taken off
stands behind it and the second look finds nothing new.

Settings have one written form, with all three members. It is read back as the settings where they are
usable, and refused for what makes them unusable otherwise. So a text that is read, be it a list, an object
with members left out, or one that spells a level as `warning`, can be put into this form.
-/

namespace LevelGraph

/-- An absolute path begins with a slash. -/
theorem Path.isAbsolute_iff {path : String} :
    isAbsolute path = true ↔ ∃ rest, path.toList = '/' :: rest := by
  rw [isAbsolute, beq_iff_eq, List.head?_eq_some_iff]

/-- An absolute path stays absolute without the blanks around it: a slash is no blank. -/
theorem Path.isAbsolute_trim {path : String} (absolute : isAbsolute path = true) :
    isAbsolute (Text.trim path) = true := by
  obtain ⟨rest, begins⟩ := isAbsolute_iff.mp absolute
  obtain ⟨kept, stripped⟩ := @Text.exists_stripBoth_of_run Text.isBlank [] '/'
    (fun _ listed => nomatch listed) rfl rest
  apply isAbsolute_iff.mpr
  refine ⟨kept, ?_⟩
  rw [Text.trim, begins, String.toList_ofList]
  exact stripped

namespace Logging

variable {written : String}

/-- The directory of an absolute path is taken, without the blanks around it. -/
theorem directoryOf_of_isAbsolute (absolute : Path.isAbsolute written = true) :
    directoryOf written = .ok (Text.trim written) :=
  if_pos (Path.isAbsolute_trim absolute)

/-- Whatever comes of starting logging, an absolute path is not refused as none. -/
theorem start_ne_invalidDirectory (absolute : Path.isAbsolute written = true) (logging : Logging)
    (level : LogLevel) (made : Except FileFault Unit) (directory : String) :
    (logging.start level written made).result ≠ .error (.invalidDirectory directory) := by
  rw [start, directoryOf_of_isAbsolute absolute]
  dsimp only
  cases logging.active with
  | none => cases made <;> exact nofun
  | some active =>
    obtain ⟨activeLevel, activeDirectory⟩ := active
    dsimp only
    split <;> exact nofun

end Logging

/-- A level is read from its own name. -/
theorem LogLevel.ofName?_name (level : LogLevel) : ofName? level.name = some level := by
  cases level <;> decide

namespace Settings

variable {settings : Settings} {text : String}

/-- A session can start from settings. -/
structure Usable (settings : Settings) : Prop where
  /-- The store has a path. -/
  stored : settings.storePath ≠ ""
  /-- The directory for logs, if there is one, is an absolute path. -/
  logged : ∀ directory, settings.logDirectory = some directory → Path.isAbsolute directory = true

/-- A relative path for logs is found first. -/
theorem validate_of_relative {directory : String} (asked : settings.logDirectory = some directory)
    (relative : Path.isAbsolute directory = false) :
    settings.validate = .error (.relativeLogDirectory directory) := by
  simp only [validate, asked, Option.filter_some, relative, Bool.not_false, if_true]

/-- Without a relative path for logs, the path of the store decides. -/
theorem validate_of_logged (logged : ∀ directory, settings.logDirectory = some directory →
    Path.isAbsolute directory = true) :
    settings.validate = if settings.storePath = "" then .error .emptyStorePath else .ok () := by
  have none_relative :
      settings.logDirectory.filter (fun directory => !Path.isAbsolute directory) = none := by
    rw [Option.filter_eq_none_iff]
    intro directory asked
    rw [logged directory asked]
    decide
  rw [validate, none_relative]

/-- Settings are usable, or the path for logs is relative, or else the store has no path. -/
theorem validate_cases (settings : Settings) :
    settings.Usable ∧ settings.validate = .ok () ∨
      (∃ directory, settings.logDirectory = some directory ∧ Path.isAbsolute directory = false ∧
        settings.validate = .error (.relativeLogDirectory directory)) ∨
      (∀ directory, settings.logDirectory = some directory → Path.isAbsolute directory = true) ∧
        settings.storePath = "" ∧ settings.validate = .error .emptyStorePath := by
  by_cases logged : ∀ directory, settings.logDirectory = some directory →
      Path.isAbsolute directory = true
  · rw [validate_of_logged logged]
    by_cases empty : settings.storePath = ""
    · exact .inr (.inr ⟨logged, empty, if_pos empty⟩)
    · exact .inl ⟨⟨empty, logged⟩, if_neg empty⟩
  · simp only [not_forall, Bool.not_eq_true] at logged
    obtain ⟨directory, asked, relative⟩ := logged
    exact .inr (.inl ⟨directory, asked, relative, validate_of_relative asked relative⟩)

/-- What is looked for is what makes settings usable. -/
theorem validate_eq_ok_iff : settings.validate = .ok () ↔ settings.Usable := by
  rcases settings.validate_cases with ⟨usable, accepted⟩ | ⟨directory, asked, relative, refused⟩ |
    ⟨-, empty, refused⟩
  · exact iff_of_true accepted usable
  · rw [refused]
    refine iff_of_false nofun fun usable => ?_
    have absolute := usable.logged directory asked
    exact Bool.false_ne_true (relative.symm.trans absolute)
  · rw [refused]
    exact iff_of_false nofun fun usable => usable.stored empty

/-- The settings that a text holds are the result if they are usable. -/
theorem ofText_of_read (read : Json.read (reader Json.maxDepth) text = .ok settings) :
    ofText text = settings.validate.map fun _ => settings := by
  rw [ofText, read]
  dsimp only
  cases settings.validate <;> rfl

/-- Settings that are read from a text are usable. -/
theorem usable_of_ofText (done : ofText text = .ok settings) : settings.Usable := by
  cases read : Json.read (reader Json.maxDepth) text with
  | error fault =>
    rw [ofText, read] at done
    cases done
  | ok held =>
    rw [ofText_of_read read] at done
    cases accepted : held.validate with
    | error error =>
      rw [accepted] at done
      cases done
    | ok looked =>
      rw [accepted] at done
      cases done
      exact validate_eq_ok_iff.mp accepted

/-- The three members of the text fill an empty draft one after the other. -/
theorem readsBack_write (settings : Settings) (room : Nat) :
    Json.ReadsBack (reader room) settings.write settings (0 < room) := by
  have level := Json.readsBack_choice (LogLevel.ofName?_name settings.logLevel) (room - 1)
  have fills : Json.Fills (fields (room - 1)) ⟨none, none, none⟩
      [("log_level", Json.quote settings.logLevel.name),
        ("log_dir", Json.writeOption Json.quote settings.logDirectory),
        ("store_path", Json.quote settings.storePath)]
      True ⟨some settings.logLevel, some settings.logDirectory, some settings.storePath⟩ := by
    refine .plain rfl rfl (level.into _) ?_
    refine .plain rfl rfl ((Json.readsBack_writeOption settings.logDirectory).into _) ?_
    exact .plain rfl rfl ((Json.readsBack_quote settings.storePath).into _) (.nothing _)
  have complete : (fun draft : Draft => some draft.complete)
      ⟨some settings.logLevel, some settings.logDirectory, some settings.storePath⟩ =
        some settings := rfl
  exact (Json.readsBack_struct fills complete room true).of_iff (iff_of_eq (and_true _).symm)

/-- The text of settings holds them, usable or not. -/
theorem ofText_text (settings : Settings) :
    ofText settings.text = settings.validate.map fun _ => settings :=
  ofText_of_read ((Json.read_of_readsBack (settings.readsBack_write Json.maxDepth)).1 (by decide))

/-- Whatever text settings are read from, they are usable, the directory for logs is none that the start of
logging would refuse as a path, and their own text is read as the same settings. Of all settings those
that pass the look are the usable ones: their text is read as they are. The text of any other
settings is refused, for a relative path if there is one for logs, and else for the store's empty path. -/
theorem ofText_usable :
    (∀ (text : String) (settings : Settings), ofText text = .ok settings →
      settings.storePath ≠ "" ∧
      (∀ directory, settings.logDirectory = some directory →
        Path.isAbsolute directory = true ∧ Logging.directoryOf directory = .ok (Text.trim directory) ∧
        ∀ (logging : Logging) (level : LogLevel) (made : Except FileFault Unit) (refused : String),
          (logging.start level directory made).result ≠ .error (.invalidDirectory refused)) ∧
      ofText settings.text = .ok settings) ∧
    ∀ settings : Settings,
      (settings.validate = .ok () ↔ settings.Usable) ∧
      (settings.validate = .ok () → ofText settings.text = .ok settings) ∧
      (settings.validate ≠ .ok () →
        (∃ directory, settings.logDirectory = some directory ∧ Path.isAbsolute directory = false ∧
          ofText settings.text = .error (.relativeLogDirectory directory)) ∨
        (∀ directory, settings.logDirectory = some directory → Path.isAbsolute directory = true) ∧
          settings.storePath = "" ∧ ofText settings.text = .error .emptyStorePath) := by
  have back (settings : Settings) (accepted : settings.validate = .ok ()) :
      ofText settings.text = .ok settings := by
    rw [ofText_text, accepted]
    rfl
  refine ⟨fun text settings done => ?read, fun settings => ⟨validate_eq_ok_iff, back settings, ?refused⟩⟩
  case read =>
    have usable := usable_of_ofText done
    refine ⟨usable.stored, fun directory asked => ?_, back settings (validate_eq_ok_iff.mpr usable)⟩
    have absolute := usable.logged directory asked
    exact ⟨absolute, Logging.directoryOf_of_isAbsolute absolute, Logging.start_ne_invalidDirectory absolute⟩
  case refused =>
    intro unusable
    rw [ofText_text]
    rcases settings.validate_cases with ⟨-, accepted⟩ | ⟨directory, asked, relative, refused⟩ |
      ⟨logged, empty, refused⟩
    · exact absurd accepted unusable
    · rw [refused]
      exact .inl ⟨directory, asked, relative, rfl⟩
    · rw [refused]
      exact .inr ⟨logged, empty, rfl⟩

/-- A list of the first two members, the level by its other name as the name of an object, and a path with
an escape and a blank at its end. -/
def shortText : String := "[\x7b\"warning\":null\x7d, \"\\u002fvar/logs \"]"

/-- The settings in it. -/
def short : Settings := ⟨.warn, some "/var/logs ", "xle_level.sqlite3"⟩

/-- They are read from it, and from their own text, which is another one. Logging takes their directory
without the blank. With a relative path for logs the store's path is not looked at any more. -/
theorem ofText_usable_short :
    ofText shortText = .ok short ∧ short.text ≠ shortText ∧ ofText short.text = .ok short ∧
      Logging.directoryOf "/var/logs " = .ok "/var/logs" ∧
      ofText (Settings.text ⟨.warn, some " /var/logs", ""⟩) = .error (.relativeLogDirectory " /var/logs") ∧
      ofText (Settings.text ⟨.warn, some "/var/logs", ""⟩) = .error .emptyStorePath := by
  have read : ofText shortText = .ok short := by decide +kernel
  obtain ⟨-, logged, back⟩ := ofText_usable.1 shortText short read
  have trimmed : Text.trim "/var/logs " = "/var/logs" := by decide +kernel
  have relative := (ofText_usable.2 ⟨.warn, some " /var/logs", ""⟩).2.2 (by decide)
  have empty := (ofText_usable.2 ⟨.warn, some "/var/logs", ""⟩).2.2 (by decide)
  refine ⟨read, by decide +kernel, back, trimmed ▸ (logged _ rfl).2.1, ?relative, ?empty⟩
  case relative =>
    rcases relative with ⟨directory, asked, -, refused⟩ | ⟨logged, -, -⟩
    · cases asked
      exact refused
    · exact absurd (logged _ rfl) (by decide)
  case empty =>
    rcases empty with ⟨directory, asked, relative, -⟩ | ⟨-, -, refused⟩
    · cases asked
      exact absurd relative (by decide)
    · exact refused

end Settings

end LevelGraph
