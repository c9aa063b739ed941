import LevelGraph.Proofs.Store.SettledChange
import LevelGraph.Store.Contact

/-!
# Connections that have read their store

A connection that has read its store finds the same whenever it reads again, and the objects that it
remembers are those that it finds. Every statement keeps to this, whether it is refused or carried out:
a refused one leaves what was found, and one that is carried out does to the database what the statement
does. So it is with a migration, which comes to a migration of the database that was found, unless the
store is closed to writing.
-/

namespace LevelGraph.Connections

open LevelGraph.Action

variable {links after : Connections} {content new : StoreContent}

/-- What a connection has read is what its store holds. -/
def Finds (links : Connections) (content : StoreContent) : Prop :=
  match links.current.target with
  | .memory held _ => held = content
  | .file handle => StoreFile.Settled ⟨links.tree, handle⟩ content

/-- Whether the store may be written to, as far as the connection is concerned. -/
def isReadOnly (links : Connections) : Bool :=
  match links.current.target with
  | .memory _ readOnly => readOnly
  | .file handle => StoreFile.isReadOnly ⟨links.tree, handle⟩

/-- A connection to a file, with the file as something done with it has left it. -/
def withFile (links : Connections) (file : StoreFile) : Connections :=
  { tree := file.tree, current := { links.current with target := .file file.handle } }

/-- What is done to the file is done over the connection. -/
theorem run_onFile {α : Type} {handle : StoreHandle} {action : StoreAction α}
    {result : Except EngineFault α} {file : StoreFile}
    (run : action.run.run ⟨links.tree, handle⟩ = (result, file)) :
    (onFile handle action).run.run links = (result, links.withFile file) := by
  simp only [onFile, run_get_bind]
  rw [run]
  simp only [run_set_bind, run_lift]
  rfl

/-- A connection with the file that it has stays as it is. -/
theorem withFile_self {handle : StoreHandle} (target : links.current.target = .file handle) :
    links.withFile ⟨links.tree, handle⟩ = links := by
  rw [withFile, ← target]

/-- To read over a connection to a file is to read the file. -/
theorem run_read_of_file {handle : StoreHandle} (target : links.current.target = .file handle)
    {result : Except EngineFault StoreContent} {file : StoreFile}
    (run : StoreFile.read.run.run ⟨links.tree, handle⟩ = (result, file)) :
    read.run.run links = (result, links.withFile file) := by
  simp only [read, run_get_bind, target]
  exact run_onFile run

/-- Reading again tells the same and leaves everything. -/
theorem Finds.run_read (finds : links.Finds content) :
    read.run.run links = (.ok content, links) := by
  unfold Finds at finds
  rcases target : links.current.target with handle | ⟨held, readOnly⟩
  · rw [target] at finds
    rw [run_read_of_file target (StoreFile.Settled.run_read finds), withFile_self target]
  · rw [target] at finds
    simp only [read, run_get_bind, target, run_pure]
    rw [show held = content from finds]

/-- Reading for a change is refused and leaves everything, or tells what has been read. -/
theorem Finds.run_readForChange (finds : links.Finds content) :
    (∃ fault, readForChange.run.run links = (.error fault, links)) ∨
      links.isReadOnly = false ∧ readForChange.run.run links = (.ok content, links) := by
  unfold Finds at finds
  unfold isReadOnly
  rcases target : links.current.target with handle | ⟨held, readOnly⟩
  · rw [target] at finds
    simp only [readForChange, run_get_bind, target]
    rcases StoreFile.Settled.run_readForChange finds with ⟨fault, run⟩ | ⟨free, run⟩
    · rw [run_onFile run, withFile_self target]
      exact .inl ⟨fault, rfl⟩
    · rw [run_onFile run, withFile_self target]
      exact .inr ⟨free, rfl⟩
  · rw [target] at finds
    simp only [readForChange, run_get_bind, target]
    rcases readOnly with _ | _
    · rw [show held = content from finds]
      exact .inr ⟨rfl, rfl⟩
    · exact .inl ⟨_, rfl⟩

/-- Writing to a store that may be written to fails and keeps what was found, or leaves what was
written. -/
theorem Finds.run_write (finds : links.Finds content) (free : links.isReadOnly = false)
    (new : StoreContent) :
    ∃ after : Connections, after.current.known = links.current.known ∧
      ((∃ fault, (write new).run.run links = (.error fault, after) ∧ after.Finds content) ∨
        (write new).run.run links = (.ok (), after) ∧ after.Finds new) := by
  unfold Finds at finds
  unfold isReadOnly at free
  rcases target : links.current.target with handle | ⟨held, readOnly⟩
  · rw [target] at finds free
    simp only [write, run_get_bind, target]
    rcases StoreFile.Settled.run_write finds free new with ⟨fault, file, run, kept⟩ | ⟨file, run, left⟩
    · exact ⟨links.withFile file, rfl, .inl ⟨fault, run_onFile run, kept⟩⟩
    · exact ⟨links.withFile file, rfl, .inr ⟨run_onFile run, left⟩⟩
  · simp only [write, run_get_bind, target, run_modify]
    exact ⟨{ links with current := { links.current with target := .memory new readOnly } }, rfl,
      .inr ⟨rfl, rfl⟩⟩

/-- Giving up a change keeps what was found. -/
theorem Finds.run_giveUp (finds : links.Finds content) :
    ∃ after : Connections, after.current.known = links.current.known ∧
      giveUp.run.run links = (.ok (), after) ∧ after.Finds content := by
  have held := finds
  unfold Finds at held
  simp only [giveUp, run_get_bind]
  rcases target : links.current.target with handle | ⟨held, readOnly⟩
  · rw [target] at held
    exact ⟨links.withFile (StoreFile.giveUp ⟨links.tree, handle⟩), rfl, run_onFile (run_modify _),
      StoreFile.Settled.giveUp held⟩
  · exact ⟨links, rfl, rfl, finds⟩

/-- What a connection has read is what its store holds, and what it remembers of the objects is what it
has read. -/
structure Settled (links : Connections) (content : StoreContent) : Prop where
  /-- What was read is what the store holds. -/
  finds : links.Finds content
  /-- Objects are remembered as they were listed, and they were listed. -/
  known : ∀ objects, links.current.known = some objects →
    objects = content.objects ∧ content.unlisted = none

/-- What is found depends on the files and on where the connection leads. -/
theorem Finds.of_target (finds : links.Finds content) (tree : after.tree = links.tree)
    (target : after.current.target = links.current.target) : after.Finds content := by
  unfold Finds at finds ⊢
  rw [tree, target]
  exact finds

/-- A connection that remembers no objects and uses an encoding. -/
def anew (links : Connections) (encoding : Nat) : Connections :=
  { links with current := { links.current with known := none, encoding := encoding } }

/-- What is found in a store does not depend on the encoding that the connection settles on. -/
theorem Finds.anew (finds : links.Finds content) (encoding : Nat) :
    (links.anew encoding).Finds content := finds.of_target rfl rfl

/-- Taking up the encoding of a content changes nothing but the encoding. -/
theorem run_adopt (links : Connections) (encoding : Nat) (content : StoreContent) :
    (∃ fault, (adopt content).run.run (links.anew encoding) = (.error fault, links.anew encoding)) ∨
      ∃ other, (adopt content).run.run (links.anew encoding) = (.ok (), links.anew other) := by
  simp only [adopt, run_get_bind]
  split
  · exact .inr ⟨encoding, rfl⟩
  · split
    · split
      · exact .inl ⟨_, rfl⟩
      · exact .inr ⟨encoding, rfl⟩
    · exact .inr ⟨_, rfl⟩

/-- Reading the objects fails or tells them, and they are remembered then. -/
theorem Finds.run_learn (finds : links.Finds content) :
    ∃ after : Connections, after.Finds content ∧
      ((∃ fault, learn.run.run links = (.error fault, after) ∧ after.current.known = none) ∨
        content.unlisted = none ∧ learn.run.run links = (.ok content.objects, after) ∧
          after.current.known = some content.objects) := by
  have forgot := finds.anew links.current.encoding
  have reads : read.run.run { links with current := { links.current with known := none } } =
      (.ok content, links.anew links.current.encoding) := forgot.run_read
  simp only [learn, run_modify_bind]
  rw [run_bind_of_ok reads]
  rcases run_adopt links links.current.encoding content with ⟨fault, adopts⟩ | ⟨encoding, adopts⟩
  · rw [run_bind_of_error adopts]
    exact ⟨_, forgot, .inl ⟨fault, rfl, rfl⟩⟩
  · rw [run_bind_of_ok adopts]
    rcases listed : content.unlisted with _ | fault
    · refine ⟨_, ?_, .inr ⟨rfl, rfl, rfl⟩⟩
      exact finds.of_target rfl rfl
    · exact ⟨_, finds.anew encoding, .inl ⟨fault, rfl, rfl⟩⟩

/-- The objects, read again or not, are those that the store has. -/
theorem Settled.run_objects (settled : links.Settled content) :
    ∃ after : Connections, after.Settled content ∧
      ((∃ fault, objects.run.run links = (.error fault, after)) ∨
        content.unlisted = none ∧ objects.run.run links = (.ok content.objects, after) ∧
          after.current.known = some content.objects) := by
  simp only [objects, run_get_bind]
  rcases known : links.current.known with _ | remembered
  · obtain ⟨after, finds, ⟨fault, run, none⟩ | ⟨listed, run, some⟩⟩ := settled.finds.run_learn
    · exact ⟨after, ⟨finds, fun _ there => (nomatch none.symm.trans there)⟩, .inl ⟨fault, run⟩⟩
    · refine ⟨after, ⟨finds, fun _ there => ⟨?_, listed⟩⟩, .inr ⟨listed, run, some⟩⟩
      exact Option.some.inj (there.symm.trans some)
  · obtain ⟨rfl, listed⟩ := settled.known remembered known
    exact ⟨links, settled, .inr ⟨listed, rfl, known⟩⟩

/-- What a statement leaves: it is refused and the store holds what it held, or it is carried out and
does to the database what it says. -/
def Obeys (statement : Statement) (content : StoreContent)
    (run : Except EngineFault Unit × Connections) : Prop :=
  (∃ fault, run.1 = .error fault ∧ run.2.Settled content) ∨
    run.1 = .ok () ∧ ∃ new, run.2.Settled new ∧ statement content.database = .ok new.database

/-- By the objects of a content its database is seen as it is. -/
theorem view_objects (content : StoreContent) :
    content.objects.view content.database = content.database := rfl

/-- A change that went by the objects of a content leaves the database that it made. -/
theorem changed_database (content : StoreContent) (db : Database) :
    (content.changed content.objects db).database = db := by
  obtain ⟨version, documents, index, rows⟩ := db
  simp only [StoreContent.changed, StoreContent.objects]
  congr 1
  · exact ite_eq_right_iff.mpr Eq.symm
  · exact ite_eq_right_iff.mpr Eq.symm

/-- Writing a content and remembering its objects. -/
theorem Settled.run_writeAndRemember (settled : links.Settled content)
    (free : links.isReadOnly = false) (listed : content.unlisted = none) (db : Database) :
    (∃ fault after, (do
        write (content.changed content.objects db)
        remember ⟨(content.changed content.objects db).edition, db.documents, db.index⟩ :
        ConnectionAction Unit).run.run links = (.error fault, after) ∧ after.Settled content) ∨
      ∃ after new, (do
        write (content.changed content.objects db)
        remember ⟨(content.changed content.objects db).edition, db.documents, db.index⟩ :
        ConnectionAction Unit).run.run links = (.ok (), after) ∧ after.Settled new ∧
          new.database = db ∧ after.current.known = some new.objects := by
  obtain ⟨after, known, ⟨fault, run, kept⟩ | ⟨run, finds⟩⟩ :=
    settled.finds.run_write free (content.changed content.objects db)
  · rw [run_bind_of_error run]
    exact .inl ⟨fault, after, rfl, kept, by rw [known]; exact settled.known⟩
  · rw [run_bind_of_ok run]
    have objects : (⟨(content.changed content.objects db).edition, db.documents, db.index⟩ :
        KnownObjects) = (content.changed content.objects db).objects := by
      change _ = KnownObjects.mk _ (content.changed content.objects db).database.documents
        (content.changed content.objects db).database.index
      rw [changed_database]
    rw [objects]
    refine .inr ⟨_, content.changed content.objects db, rfl, ⟨?_, ?_⟩, changed_database content db, ?_⟩
    · exact finds.of_target rfl rfl
    · intro remembered there
      exact ⟨(Option.some.inj there).symm, listed⟩
    · rfl

/-- A statement that has been let through. -/
theorem Settled.obeys_carryOut (settled : links.Settled content) (free : links.isReadOnly = false)
    (listed : content.unlisted = none) (command : StoreCommand) :
    Obeys command.statement content ((carryOut command content.objects content).run.run links) := by
  have rest : Obeys command.statement content ((do
      let db ← liftM (command.statement (content.objects.view content.database))
      write (content.changed content.objects db)
      remember ⟨(content.changed content.objects db).edition, db.documents, db.index⟩ :
        ConnectionAction Unit).run.run links) := by
    rw [view_objects]
    rcases outcome : command.statement content.database with fault | db
    · exact .inl ⟨fault, rfl, settled⟩
    · rw [run_bind_of_ok (run_lift _)]
      rcases settled.run_writeAndRemember free listed db with
        ⟨fault, after, run, kept⟩ | ⟨after, new, run, left, same, -⟩
      · rw [run]
        exact .inl ⟨fault, rfl, kept⟩
      · rw [run]
        exact .inr ⟨rfl, new, left, by rw [outcome, same]⟩
  unfold carryOut
  rcases command.listing? with _ | bytes
  · simp only [StoreContent.objects, ne_eq, not_true_eq_false, if_false]
    exact rest
  · simp only [run_get_bind]
    split
    · exact .inl ⟨_, rfl, settled⟩
    · split
      · exact rest
      · obtain ⟨after, known, run, finds⟩ := settled.finds.run_giveUp
        have kept : after.Settled content := ⟨finds, by rw [known]; exact settled.known⟩
        rw [run_bind_of_ok run]
        exact .inl ⟨_, rfl, kept⟩

/-- Objects that are remembered are out of date if the store can be read and has another edition. -/
theorem run_isOutdated (links : Connections) (known : KnownObjects) :
    (isOutdated known).run.run links =
      match read.run.run links with
      | (.ok content, after) => (.ok (decide (content.edition ≠ known.edition)), after)
      | (.error _, after) => (.ok false, after) := by
  unfold isOutdated
  simp only [bind, ExceptT.bind, ExceptT.mk, ExceptT.run, StateT.run, StateT.bind, ExceptT.bindCont,
    tryCatch, tryCatchThe, MonadExceptOf.tryCatch, ExceptT.tryCatch]
  rcases read links with ⟨_ | _, _⟩ <;> rfl

/-- What is remembered is not found to be out of date. -/
theorem Settled.run_isOutdated (settled : links.Settled content) :
    (isOutdated content.objects).run.run links = (.ok false, links) := by
  rw [Connections.run_isOutdated, settled.finds.run_read]
  simp only [StoreContent.objects, ne_eq, not_true_eq_false, decide_false]

/-- What a statement leaves that was tried by the objects of the store, and need not be tried again. -/
def ObeysAtOnce (statement : Statement) (content : StoreContent)
    (run : Except EngineFault Bool × Connections) : Prop :=
  (∃ fault, run.1 = .error fault ∧ run.2.Settled content) ∨
    run.1 = .ok true ∧ ∃ new, run.2.Settled new ∧ statement content.database = .ok new.database

/-- An attempt by the current objects does what its statement does, and is not to be repeated. -/
theorem Settled.obeys_attempt (settled : links.Settled content) (listed : content.unlisted = none)
    (command : StoreCommand) : ObeysAtOnce command.statement content
      ((attempt command content.objects).run.run links) := by
  have letThrough : ObeysAtOnce command.statement content ((do
      let found ← readForChange
      if found.edition ≠ content.objects.edition then return false
      carryOut command content.objects found
      return true : ConnectionAction Bool).run.run links) := by
    rcases settled.finds.run_readForChange with ⟨fault, run⟩ | ⟨free, run⟩
    · rw [run_bind_of_error run]
      exact .inl ⟨fault, rfl, settled⟩
    · have current : ¬ content.edition ≠ content.objects.edition := not_not_intro rfl
      have obeys := settled.obeys_carryOut free listed command
      rw [run_bind_of_ok run, if_neg current, run_bind]
      generalize (carryOut command content.objects content).run.run links = outcome at obeys ⊢
      rcases outcome with ⟨fault | _, after⟩
      · exact obeys.imp (fun ⟨_, same, kept⟩ => ⟨_, by cases same; rfl, kept⟩)
          fun ⟨same, _⟩ => nomatch same
      · exact obeys.imp (fun ⟨_, same, _⟩ => nomatch same) fun ⟨_, left⟩ => ⟨rfl, left⟩
  unfold attempt
  split
  · exact letThrough
  · exact letThrough
  · split
    · rw [run_bind_of_ok settled.run_isOutdated]
      exact .inl ⟨_, rfl, settled⟩
    · exact .inl ⟨_, rfl, settled⟩

/-- A statement is refused, or does what it says. -/
theorem Settled.obeys_run (settled : links.Settled content) (command : StoreCommand) :
    Obeys command.statement content ((Connections.run command).run.run links) := by
  unfold Connections.run
  obtain ⟨after, kept, ⟨fault, run⟩ | ⟨listed, run, -⟩⟩ := settled.run_objects
  · rw [run_bind_of_error run]
    exact .inl ⟨fault, rfl, kept⟩
  · have obeys := kept.obeys_attempt listed command
    rw [run_bind_of_ok run, run_bind]
    generalize (attempt command content.objects).run.run after = outcome at obeys ⊢
    rcases outcome with ⟨fault | tried, left⟩
    · exact obeys.imp (fun ⟨_, same, kept⟩ => ⟨_, by cases same; rfl, kept⟩)
        fun ⟨same, _⟩ => nomatch same
    · refine obeys.imp (fun ⟨_, same, _⟩ => nomatch same) fun ⟨same, done⟩ => ?_
      cases same
      exact ⟨rfl, done⟩

/-- Setting the version is refused, or sets it. -/
theorem Settled.obeys_setVersion (settled : links.Settled content) (version : Int) :
    Obeys (fun db => .ok (db.setVersion version)) content
      ((setVersion version).run.run links) := by
  unfold setVersion
  rcases settled.finds.run_readForChange with ⟨fault, run⟩ | ⟨free, run⟩
  · rw [run_bind_of_error run]
    exact .inl ⟨fault, rfl, settled⟩
  · rw [run_bind_of_ok run]
    obtain ⟨after, known, ⟨fault, writes, kept⟩ | ⟨writes, finds⟩⟩ := settled.finds.run_write free
      { content with database := content.database.setVersion version }
    · rw [writes]
      exact .inl ⟨fault, rfl, kept, by rw [known]; exact settled.known⟩
    · rw [writes]
      exact .inr ⟨rfl, _, ⟨finds, by rw [known]; exact settled.known⟩, rfl⟩

end LevelGraph.Connections
