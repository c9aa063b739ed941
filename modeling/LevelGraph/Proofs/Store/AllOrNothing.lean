import LevelGraph.Proofs.Store.LayoutSteps
import LevelGraph.Proofs.Store.SettledStore

/-!
# Migrations are all or nothing

A session with a store begins with a connection to a new store in memory, or with one that has read the
store behind an address, whatever files there are. It goes on with versions that are set, objects that
are put under the names of the layout or dropped, rows that are written, and migrations, of which any may
be refused. In every state of a session a migration that fails leaves the database as it was, whichever
statement failed, and one that succeeds only adds to it, leaves nothing to do for a second one, and makes
a store that was behind fit for a repository.
-/

namespace LevelGraph.Connections

open LevelGraph.Action

variable {links : Connections} {content : StoreContent}

section Migration

/-- A connection that no lock keeps from writing is not for reading only. -/
theorem isReadOnly_of_lock (unlocked : links.lock = none) : links.isReadOnly = false := by
  unfold lock at unlocked
  unfold isReadOnly
  rcases target : links.current.target with handle | ⟨held, readOnly⟩
  · rw [target] at unlocked
    refine Bool.eq_false_iff.mpr fun forbidden => ?_
    simp only [forbidden, if_true] at unlocked
    cases unlocked
  · rw [target] at unlocked
    rcases readOnly with _ | _
    · rfl
    · cases unlocked

/-- A change of a settled store finds the content that was read. -/
theorem Settled.forChange (settled : links.Settled content) : links.forChange content = content := by
  have finds := settled.finds
  unfold Finds at finds
  unfold Connections.forChange
  rcases target : links.current.target with handle | ⟨held, readOnly⟩
  · rw [target] at finds
    exact StoreFile.Settled.forChange finds
  · rfl

/-- The objects that a migration goes by are those of the store. -/
theorem Settled.run_objectsFor (settled : links.Settled content) :
    ∃ after : Connections, after.Settled content ∧
      ((∃ fault, (objectsFor content).run.run links = (.error fault, after)) ∨
        content.unlisted = none ∧ (objectsFor content).run.run links = (.ok content.objects, after)) := by
  obtain ⟨after, kept, ⟨fault, run⟩ | ⟨listed, run, -⟩⟩ := settled.run_objects
  · exact ⟨after, kept, .inl ⟨fault, run_bind_of_error run⟩⟩
  · refine ⟨after, kept, .inr ⟨listed, ?_⟩⟩
    have current : content.objects.edition = content.edition := rfl
    rw [objectsFor, run_bind_of_ok run, if_pos current, run_pure]

/-- What a migration leaves that is tried: it fails and the store holds what it held, or it does to the
database what a migration does, and remembers the objects. -/
def Migrates (content : StoreContent) (result : Except StoreError Unit) (after : Connections) : Prop :=
  (∃ error, result = .error error ∧ after.Settled content) ∨
    result = .ok () ∧ content.database.migrate.result = .ok () ∧
      ∃ new, after.Settled new ∧ new.database = content.database.migrate.after ∧
        (content.database.version < latestVersion → after.current.known = some new.objects)

/-- A migration goes by objects that are those of the store. -/
theorem Settled.migrates_migrateBy (settled : links.Settled content) (listed : content.unlisted = none)
    (known : 0 ≤ content.database.version) (behind : content.database.version < latestVersion) :
    Migrates content (links.migrateBy content (.ok content.objects)).1.result
      (links.migrateBy content (.ok content.objects)).2 := by
  simp only [migrateBy, view_objects]
  generalize reason : (links.lock <|> if content.objects.documents.isSome ||
    content.takesUp layoutBytes true then none else some EngineFault.malformed) = fault
  rcases outcome : (content.database.migrateUnder fault).result with error | _
  · -- Nothing has been written, so what was found is still there.
    simp only
    split
    · exact .inl ⟨error, outcome, settled⟩
    · obtain ⟨after, remembered, run, finds⟩ := settled.finds.run_giveUp
      rw [run]
      refine .inl ⟨error, outcome, finds.of_target rfl rfl, ?_⟩
      intro objects there
      simp only at there
      split at there
      · cases there
      · rw [remembered] at there
        exact settled.known objects there
  · -- A migration that had to change something has been let through, so the store is open.
    rcases fault with _ | fault
    · have unlocked : links.lock = none := by
        rcases closed : links.lock with _ | fault
        · rfl
        · rw [closed] at reason
          cases reason
      rcases settled.run_writeAndRemember (isReadOnly_of_lock unlocked) listed
        (content.database.migrateUnder none).after with
        ⟨fault, after, run, kept⟩ | ⟨after, new, run, left, same, remembered⟩
      · simp only [run]
        exact .inl ⟨_, rfl, kept⟩
      · simp only [run]
        exact .inr ⟨outcome, outcome, new, left, same, fun _ => remembered⟩
    · obtain ⟨error, failed⟩ := @Database.migrateUnder_closed content.database fault known behind
      cases outcome.symm.trans failed

/-- A migration of a store that has been read is one of the database that was found. -/
theorem Settled.migrates (settled : links.Settled content) :
    Migrates content links.migrate.result links.migrate.after := by
  unfold Connections.migrate
  rw [settled.finds.run_read]
  by_cases behind : 0 ≤ content.database.version ∧ content.database.version < latestVersion
  · simp only [if_pos behind, settled.forChange]
    obtain ⟨after, kept, ⟨fault, run⟩ | ⟨listed, run⟩⟩ := settled.run_objectsFor
    · rw [run]
      obtain ⟨error, failed⟩ := @Database.migrateUnder_closed
        (KnownObjects.view ⟨0, none, none⟩ content.database) fault behind.1 behind.2
      exact .inl ⟨error, failed, kept⟩
    · rw [run]
      exact kept.migrates_migrateBy listed behind.1 behind.2
  · simp only [if_neg behind]
    have same := (@Database.migrateUnder_of_not_behind none content.database behind).1
    rcases outcome : (content.database.migrateUnder none).result with error | _
    · exact .inl ⟨error, rfl, settled⟩
    · refine .inr ⟨rfl, outcome, content, settled, same.symm, fun older => ?_⟩
      have latest := (@Database.migrateUnder_of_not_behind none content.database behind).2.mp outcome
      omega

end Migration

section Sessions

/-- A connection that has not read anything. -/
structure Fresh (links : Connections) : Prop where
  /-- It remembers no objects. -/
  known : links.current.known = none
  /-- If it leads to a file, it has not looked at the file. -/
  unread : ∀ handle, links.current.target = .file handle → StoreFile.Unread ⟨links.tree, handle⟩

/-- A file that a connection has just taken hold of has not been looked at. -/
theorem unread_holding {tree : FileTree} {address : StoreAddress} {place : Place}
    (inDirectory : place ≠ []) : (tree.holding address place).Unread := by
  unfold FileTree.holding
  split
  · rename_i frozen
    refine ⟨inDirectory, rfl, rfl, rfl, fun _ => ?_, fun result found => ?_⟩
    · change address.isReadOnly = true
      rw [StoreAddress.isReadOnly, frozen, Bool.or_true]
    · simp only [Watch.trusting.injEq] at found
      split at found
      · exact (Option.some.inj found).symm
      · cases found
  · exact ⟨inDirectory, rfl, rfl, rfl, fun moved => absurd rfl moved, fun _ found => nomatch found⟩

/-- Nor has a store that was just opened, made anew or not. -/
theorem unread_of_openStoreAt {tree : FileTree} {address : StoreAddress} {place : Place} {text : String}
    {file : StoreFile} (inDirectory : place ≠ [])
    (opened : tree.openStoreAt address place text = .ok file) : file.Unread := by
  unfold FileTree.openStoreAt at opened
  split at opened
  · cases opened
  · split at opened
    · cases opened
    · split at opened
      · split at opened
        · cases opened
          exact unread_holding inDirectory
        · cases opened
      · split at opened <;> cases opened
      · cases opened
        exact unread_holding inDirectory

/-- A connection to a file at an address is fresh. -/
theorem fresh_of_reachFile {address : StoreAddress} {place : Place} {text : String}
    {reached : Connections} (inDirectory : place ≠ [])
    (reaches : links.reachFile address place text = .ok reached) : reached.Fresh := by
  unfold reachFile at reaches
  split at reaches
  · cases reaches
  · rename_i file opened
    have unread := unread_of_openStoreAt inDirectory opened
    rw [← Except.ok.inj reaches]
    refine ⟨rfl, fun handle target => ?_⟩
    rw [← ConnectionTarget.file.inj target]
    exact ⟨unread.inDirectory, unread.whole, unread.page, unread.notInLedger, unread.frozen,
      unread.found⟩

/-- A store is never at the root of all files: its path has a name. -/
theorem place_ne_nil_of_storePlaceOf? {tree : FileTree} {path : String} {place : Place}
    (found : tree.storePlaceOf? path = some place) : place ≠ [] := by
  have kept := (Option.filter_eq_some_iff.mp found).2
  rw [Bool.and_eq_true, decide_eq_true_eq] at kept
  exact kept.1

/-- A new connection is the old one, or has not read anything. -/
theorem reach_eq_ok {text : String} {contact : Contact} (reached : links.reach text = .ok contact) :
    contact = ⟨links, true⟩ ∨ contact.shared = false ∧ contact.links.Fresh := by
  unfold reach at reached
  split at reached
  · cases reached
  · split at reached
    · cases reached
    · rename_i address _
      unfold reachAddress at reached
      split at reached
      · split at reached
        · cases reached
        · split at reached
          · exact .inl (Except.ok.inj reached).symm
          · rw [← Except.ok.inj reached]
            exact .inr ⟨rfl, rfl, fun _ target => nomatch target⟩
      · split at reached
        · cases reached
        · rename_i place found
          split at reached
          · exact .inl (Except.ok.inj reached).symm
          · rcases made : links.reachFile address place text with fault | made
            · rw [made] at reached
              cases reached
            · rw [made] at reached
              rw [← Except.ok.inj reached]
              exact .inr ⟨rfl, fresh_of_reachFile (place_ne_nil_of_storePlaceOf? found) ‹_›⟩

/-- A connection that shares nothing with another one is fresh, whatever address it was opened by. -/
theorem fresh_of_reach {text : String} {contact : Contact} (reached : links.reach text = .ok contact)
    (own : contact.shared = false) : contact.links.Fresh := by
  rcases reach_eq_ok reached with rfl | ⟨-, fresh⟩
  · cases own
  · exact fresh

/-- The first read that succeeds settles a connection with its store. -/
theorem Fresh.settled_of_run {after : Connections} (fresh : links.Fresh)
    (run : read.run.run links = (.ok content, after)) : after.Settled content := by
  rcases target : links.current.target with handle | ⟨held, readOnly⟩
  · rcases looks : StoreFile.read.run.run ⟨links.tree, handle⟩ with ⟨result, file⟩
    rw [run_read_of_file target looks] at run
    obtain ⟨rfl, rfl⟩ := Prod.mk.inj run
    exact ⟨(fresh.unread handle target).settled_of_run looks,
      fun _ there => (nomatch fresh.known.symm.trans there)⟩
  · simp only [read, run_get_bind, target, run_pure] at run
    cases run
    refine ⟨?_, fun _ there => (nomatch fresh.known.symm.trans there)⟩
    unfold Finds
    rw [target]

/-- Something done in a session. -/
inductive StoreStep where
  /-- The layout version is set to any number. -/
  | setVersion (version : Int)
  /-- A statement that changes objects or rows is run. -/
  | command (command : StoreCommand)
  /-- The layout is brought up to date. -/
  | migrate

/-- What a step leaves, whether it is refused or not. -/
def perform (links : Connections) : StoreStep → Connections
  | .setVersion version => ((setVersion version).run.run links).2
  | .command command => ((run command).run.run links).2
  | .migrate => links.migrate.after

/-- Whether a path is that of the store that a connection leads to, or of a file beside it. -/
def IsNear (links : Connections) (path : String) : Prop :=
  ∃ handle, links.current.target = .file handle ∧
    (path = handle.place.text ∨ ∃ ending ∈ StoreFile.nearEndings,
      path = (StoreFile.sidePlace ⟨links.tree, handle⟩ ending).text)

/-- The states of sessions. -/
inductive Session : Connections → Prop where
  /-- A new store in memory. -/
  | memory (tree : FileTree) : Session (start tree)
  /-- Any store that has been connected to, whatever files there were, and that could be read. -/
  | connected {links found : Connections} {text : String} {contact : Contact} {content : StoreContent}
      (reached : links.reach text = .ok contact) (own : contact.shared = false)
      (reads : read.run.run contact.links = (.ok content, found)) : Session found
  /-- One more step. -/
  | step {links : Connections} (session : Session links) (next : StoreStep) :
      Session (links.perform next)
  /-- A store that has been opened in the place of one that keeps no ledger. -/
  | opened {links : Connections} {text : String} (session : Session links)
      (unledgered : ∀ place, links.current.keepsLedger place = false)
      (done : (links.openPath text).result = .ok ()) : Session (links.openPath text).after
  /-- A new store in memory that has been opened in the place of any. -/
  | renewed {links : Connections} (session : Session links) : Session links.openMemory.after
  /-- Something has happened elsewhere among the files. -/
  | elsewhere {links : Connections} {tree : FileTree} (session : Session links)
      (same : ∀ path, links.IsNear path → tree.entries.find? path = links.tree.entries.find? path) :
      Session { links with tree := tree }

/-- A session that begins in memory begins with a blank store. -/
theorem settled_start (tree : FileTree) : (start tree).Settled StoreContent.blank :=
  ⟨rfl, fun _ there => nomatch there⟩

/-- A statement leaves the connection settled, whether it was refused or not. -/
theorem Obeys.settled {statement : Statement} {run : Except EngineFault Unit × Connections}
    (obeys : Obeys statement content run) : ∃ new, run.2.Settled new := by
  rcases obeys with ⟨-, -, kept⟩ | ⟨-, new, left, -⟩
  · exact ⟨content, kept⟩
  · exact ⟨new, left⟩

/-- One step keeps a connection settled with its store. -/
theorem Settled.perform (settled : links.Settled content) (next : StoreStep) :
    ∃ new, (links.perform next).Settled new := by
  cases next with
  | setVersion version => exact (settled.obeys_setVersion version).settled
  | command command => exact (settled.obeys_run command).settled
  | migrate =>
    rcases settled.migrates with ⟨-, -, kept⟩ | ⟨-, -, new, left, -⟩
    · exact ⟨content, kept⟩
    · exact ⟨new, left⟩

/-- What happens elsewhere among the files does not show. -/
theorem Settled.of_elsewhere {tree : FileTree} (settled : links.Settled content)
    (same : ∀ path, links.IsNear path → tree.entries.find? path = links.tree.entries.find? path) :
    ({ links with tree := tree } : Connections).Settled content := by
  refine ⟨?_, settled.known⟩
  have finds := settled.finds
  unfold Finds at finds ⊢
  rcases target : links.current.target with handle | ⟨held, readOnly⟩
  · rw [target] at finds
    exact StoreFile.Settled.of_untouched finds
      ⟨rfl, same _ ⟨handle, target, .inl rfl⟩, fun ending listed =>
        same _ ⟨handle, target, .inr ⟨ending, listed, rfl⟩⟩⟩
  · rw [target] at finds
    exact finds

/-- A store at the latest version has its file, so the connection goes on with that, alone. -/
theorem Settled.alone_within (settled : links.Settled content)
    (latest : content.database.version = latestVersion) :
    ({ links with current := (links.current.within links.tree).alone } : Connections).Settled
      content := by
  have finds := settled.finds
  unfold Finds at finds
  unfold Connection.within
  rcases target : links.current.target with handle | ⟨held, readOnly⟩
  · rw [target] at finds
    have stays : (handle.parted.isNone && (links.tree.entry? handle.place).isNone) = false := by
      refine Bool.eq_false_iff.mpr fun gone => ?_
      rw [Bool.and_eq_true, Option.isNone_iff_eq_none, Option.isNone_iff_eq_none] at gone
      have empty : StoreFile.isEmpty ⟨links.tree, handle⟩ = true := by
        rw [StoreFile.isEmpty, StoreFile.entry?, gone.1, gone.2]
      rw [finds.eq_blank empty] at latest
      cases latest
    simp only [stays, Bool.false_eq_true, if_false, Connection.alone, target]
    exact ⟨StoreFile.Settled.of_contended finds false, settled.known⟩
  · simp only [Connection.alone, target]
    exact settled

/-- A connection that keeps no ledger leaves the files alone when it ends. -/
theorem replaced_of_unledgered {reached : Connections}
    (unledgered : ∀ place, links.current.keepsLedger place = false) :
    links.replaced ⟨reached, false⟩ =
      { reached with current := (reached.current.within reached.tree).alone } := by
  have stays : (links.current.within reached.tree).ended reached.current reached.tree =
      reached.tree := by
    unfold Connection.within
    unfold Connection.keepsLedger at unledgered
    rcases target : links.current.target with handle | ⟨held, readOnly⟩
    · have outside : handle.inLedger = false := by
        have alone := unledgered handle.place
        rw [target] at alone
        simpa using alone
      simp only
      split
      · simp only [Connection.ended, StoreFile.close, outside]
        rfl
      · simp only [Connection.ended, StoreFile.close, target, outside]
        rfl
    · simp only [Connection.ended, target]
  simp only [replaced, Bool.false_eq_true, if_false, stays]

/-- A connection that has not read anything migrates as it does once it has read. -/
theorem migrate_of_read {after : Connections} (settled : after.Settled content)
    (run : read.run.run links = (.ok content, after)) : links.migrate = after.migrate := by
  unfold Connections.migrate
  rw [run, settled.finds.run_read]

/-- Opening a store in the place of one that keeps no ledger. -/
theorem Settled.opened {text : String} (settled : links.Settled content)
    (unledgered : ∀ place, links.current.keepsLedger place = false)
    (done : (links.openPath text).result = .ok ()) :
    ∃ new, (links.openPath text).after.Settled new := by
  unfold openPath at done ⊢
  rcases reached : links.reach text with fault | contact
  · rw [reached] at done
    cases done
  · rw [reached] at done
    simp only at done ⊢
    rcases outcome : contact.links.migrate.result with error | _
    · rw [outcome] at done
      cases done
    · simp only
      rcases reach_eq_ok reached with rfl | ⟨own, fresh⟩
      · rcases settled.migrates with ⟨_, -, kept⟩ | ⟨-, -, new, left, -⟩
        · exact ⟨content, kept⟩
        · exact ⟨new, left⟩
      · rcases looks : read.run.run contact.links with ⟨fault | found, after⟩
        · rw [Connections.migrate, looks] at outcome
          cases outcome
        · have read := fresh.settled_of_run looks
          rw [migrate_of_read read looks] at outcome ⊢
          rcases read.migrates with ⟨_, failed, -⟩ | ⟨-, ran, new, left, same, -⟩
          · cases outcome.symm.trans failed
          · have version : new.database.version = latestVersion := by
              rw [same]
              exact Database.version_migrateUnder ran
            rw [own, replaced_of_unledgered unledgered]
            exact ⟨new, left.alone_within version⟩

/-- A new store in memory has the current layout, and takes no notice of the files. -/
theorem migrate_start (tree : FileTree) :
    (start tree).migrate.after =
      ⟨tree, ⟨.memory (.ofDatabase ⟨latestVersion, some .table, some .index, Table.empty⟩) false,
        some ⟨2, some .table, some .index⟩, 1, true, none, none⟩⟩ := rfl

/-- A new store in memory is settled with the content that its migration has made. -/
theorem settled_openMemory (links : Connections) : ∃ new, links.openMemory.after.Settled new := by
  simp only [openMemory, replaced, migrate_start, Bool.false_eq_true, if_false]
  refine ⟨.ofDatabase ⟨latestVersion, some .table, some .index, Table.empty⟩, rfl, ?_⟩
  intro objects there
  exact ⟨(Option.some.inj there).symm, rfl⟩

/-- In every state of a session the connection is settled with its store. -/
theorem Session.settled (session : Session links) : ∃ content, links.Settled content := by
  induction session with
  | memory tree => exact ⟨_, settled_start tree⟩
  | connected reached own reads => exact ⟨_, (fresh_of_reach reached own).settled_of_run reads⟩
  | step session next inductionHypothesis =>
    obtain ⟨content, settled⟩ := inductionHypothesis
    exact settled.perform next
  | opened session unledgered done inductionHypothesis =>
    obtain ⟨content, settled⟩ := inductionHypothesis
    exact settled.opened unledgered done
  | @renewed links session _ => exact settled_openMemory links
  | elsewhere session same inductionHypothesis =>
    obtain ⟨content, settled⟩ := inductionHypothesis
    exact ⟨content, settled.of_elsewhere same⟩

end Sessions

section Atomicity

/-- The database that a connection reads. -/
def reads (links : Connections) : Except EngineFault Database :=
  (read.run.run links).1.map (·.database)

/-- A settled connection reads the database that it is settled with. -/
theorem Settled.reads (settled : links.Settled content) : links.reads = .ok content.database := by
  rw [Connections.reads, settled.finds.run_read]
  rfl

/-- What became of a database by a migration. -/
structure AllOrNothing (before : Database) (opening : ConnectionOpening) : Prop where
  /-- A migration that fails leaves the version, all objects and all rows as they were. -/
  nothing : ∀ error, opening.result = .error error → opening.after.reads = .ok before
  /-- One that succeeds leaves the latest version and all earlier objects and rows, and a second one
  succeeds and changes nothing. -/
  all : opening.result = .ok () → ∃ after, opening.after.reads = .ok after ∧
    after.version = latestVersion ∧ before.objects ⊆ after.objects ∧ after.rows = before.rows ∧
    opening.after.migrate.result = .ok () ∧ opening.after.migrate.after.reads = .ok after
  /-- One that succeeds on a store that was behind makes it fit for a repository. -/
  fit : opening.result = .ok () → before.version < latestVersion →
    ∃ repository, opening.after.repository.1 = .ok repository

/-- The list of objects is read by objects that are remembered. -/
theorem Settled.run_readListed (settled : links.Settled content)
    (remembered : links.current.known = some content.objects) :
    readListed.run.run links = (.ok content, links) := by
  have objects : Connections.objects.run.run links = (.ok content.objects, links) := by
    simp only [Connections.objects, run_get_bind, remembered, run_pure]
  have listed : content.unlisted ≠ some .malformed := by
    rw [(settled.known _ remembered).2]
    exact (Option.some_ne_none _).symm
  have current : content.edition = content.objects.edition := rfl
  rw [readListed, run_bind_of_ok objects, run_bind_of_ok settled.finds.run_read, if_pos current]
  rw [run_bind_of_ok settled.finds.run_read, if_neg listed]
  rfl

/-- A store at the latest version is left alone. -/
theorem Settled.migrate_of_latest (settled : links.Settled content)
    (latest : content.database.version = latestVersion) :
    links.migrate.result = .ok () ∧ links.migrate.after = links := by
  have ahead : ¬ (0 ≤ content.database.version ∧ content.database.version < latestVersion) := by omega
  unfold Connections.migrate
  rw [settled.finds.run_read]
  simp only [if_neg ahead]
  exact ⟨(Database.migrateUnder_of_latest latest).1, trivial⟩

/-- A store at the latest version with a table of documents is fit for a repository. -/
theorem Settled.repository (settled : links.Settled content)
    (remembered : links.current.known = some content.objects)
    (latest : content.database.version = latestVersion)
    (table : content.database.documents = some .table ∨
      content.database.documents = some .bareTable) :
    links.repository.1 = .ok ⟨content.database, fun _ => false⟩ := by
  unfold Connections.repository
  rw [settled.finds.run_read]
  simp only [latest, ne_eq, not_true_eq_false, if_false]
  rw [settled.run_readListed remembered]
  exact Database.ofDatabase_of_table latest table

/-- A migration over a connection that is settled with its store. -/
theorem Settled.allOrNothing (settled : links.Settled content) :
    AllOrNothing content.database links.migrate where
  nothing error failed := by
    rcases settled.migrates with ⟨_, -, kept⟩ | ⟨done, -⟩
    · exact kept.reads
    · cases done.symm.trans failed
  all done := by
    rcases settled.migrates with ⟨_, failed, -⟩ | ⟨-, ran, new, left, same, -⟩
    · cases done.symm.trans failed
    · have version : new.database.version = latestVersion := by
        rw [same]
        exact Database.version_migrateUnder ran
      have more : Database.Extends content.database new.database := by
        rw [same]
        exact Database.extends_migrateUnder none content.database
      obtain ⟨again, stays⟩ := left.migrate_of_latest version
      refine ⟨new.database, left.reads, version, more.objects_subset, more.rows, again, ?_⟩
      rw [stays]
      exact left.reads
  fit done behind := by
    rcases settled.migrates with ⟨_, failed, -⟩ | ⟨-, ran, new, left, same, remembers⟩
    · cases done.symm.trans failed
    · refine ⟨_, left.repository (remembers behind) ?_ ?_⟩
      · rw [same]
        exact Database.version_migrateUnder ran
      · rw [same]
        exact Database.documents_migrateUnder ran behind

/-- Migrations are all or nothing and lose nothing, in every state of a session. So it is with the
migration that opens a store, whatever files there are behind the address. -/
theorem migrate_allOrNothing {links : Connections} (session : Session links) :
    (∃ before, links.reads = .ok before ∧ AllOrNothing before links.migrate) ∧
    ∀ {text : String} {contact : Contact} {before : Database},
      links.reach text = .ok contact → contact.links.reads = .ok before →
      (links.openPath text).result = contact.links.migrate.result ∧
        AllOrNothing before contact.links.migrate := by
  obtain ⟨content, settled⟩ := session.settled
  refine ⟨⟨content.database, settled.reads, settled.allOrNothing⟩, ?_⟩
  intro text contact before reached reads
  have result : (links.openPath text).result = contact.links.migrate.result := by
    rw [openPath, reached]
    simp only
    split
    · exact Eq.symm ‹_›
    · exact Eq.symm ‹_›
  refine ⟨result, ?_⟩
  rcases looks : read.run.run contact.links with ⟨fault | found, after⟩
  · rw [Connections.reads, looks] at reads
    cases reads
  · rw [Connections.reads, looks] at reads
    cases reads
    rcases reach_eq_ok reached with rfl | ⟨-, fresh⟩
    · cases settled.finds.run_read.symm.trans looks
      exact settled.allOrNothing
    · have read := fresh.settled_of_run looks
      rw [migrate_of_read read looks]
      exact read.allOrNothing

/-- A new store in memory with a table under the name of the index. -/
def stubbed : Connections :=
  (start (FileTree.bare ["work"])).perform (.command .createIndexTable)

/-- A store in memory that was migrated, was given a row, and then had its version set back. -/
def setBack : Connections :=
  (((start (FileTree.bare ["work"])).perform .migrate).perform
    (.command (.writeRow "level" ⟨"gameType", .text "[]"⟩))).perform (.setVersion 0)

/-- The table of documents can be made in the first store, but not its index, and then neither is there.
The second store keeps its row and is fit for a repository. A file is opened in the place of the first. -/
theorem migrate_allOrNothing_stubbed :
    ((createDocumentsTable ⟨0, none, some .table, Table.empty⟩).isOk = true ∧
      stubbed.migrate.result =
        .error (.migration 1 "documents" (.tableNamed "idx_documents_root_type")) ∧
      stubbed.migrate.after.reads = .ok ⟨0, none, some .table, Table.empty⟩) ∧
    (∃ after, setBack.migrate.after.reads = .ok after ∧ after.version = latestVersion ∧
      after.rows.keys = ["level"] ∧ ∃ repository, setBack.migrate.after.repository.1 = .ok repository) ∧
    ∃ contact, stubbed.reach "a.db" = .ok contact ∧
      ∃ after, contact.links.migrate.after.reads = .ok after ∧ after.version = latestVersion := by
  have stubbedSession : Session stubbed := .step (.memory _) _
  have setBackSession : Session setBack := .step (.step (.step (.memory _) _) _) _
  have setBackReads : setBack.reads = .ok ⟨0, some .table, some .index,
      Table.empty.insert "level" ⟨"gameType", .text "[]"⟩⟩ := rfl
  obtain ⟨⟨before, reads, unchanged⟩, opens⟩ := migrate_allOrNothing stubbedSession
  obtain ⟨⟨earlier, earlierReads, changed⟩, -⟩ := migrate_allOrNothing setBackSession
  have failed : stubbed.migrate.result =
    .error (.migration 1 "documents" (.tableNamed "idx_documents_root_type")) := rfl
  refine ⟨⟨rfl, failed, (unchanged.nothing _ failed).trans (reads.symm.trans rfl)⟩, ?_, ?_⟩
  · cases setBackReads.symm.trans earlierReads
    obtain ⟨after, left, version, -, rows, -⟩ := changed.all rfl
    exact ⟨after, left, version, by rw [rows]; rfl, changed.fit rfl (by decide)⟩
  · have opened : (match stubbed.reach "a.db" with
        | .ok contact => contact.links.reads.isOk && (stubbed.openPath "a.db").result.isOk
        | .error _ => false) = true := by
      decide +kernel
    rcases reached : stubbed.reach "a.db" with fault | contact
    · rw [reached] at opened
      cases opened
    · rw [reached, Bool.and_eq_true] at opened
      rcases found : contact.links.reads with fault | before
      · rw [found] at opened
        cases opened.1
      · obtain ⟨same, changed⟩ := opens reached found
        rcases outcome : contact.links.migrate.result with error | _
        · rw [same, outcome] at opened
          cases opened.2
        · obtain ⟨after, left, version, -⟩ := changed.all outcome
          exact ⟨contact, rfl, after, left, version⟩

end Atomicity

end LevelGraph.Connections
