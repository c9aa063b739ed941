import LevelGraph.Proofs.Store.CurrentLayout

/-!
# Layout steps

A layout step only adds to a database: what stands under a name stays there, and so do the rows. This
holds of every statement of a step, so it holds of any run of steps that succeeds, however many there
are. On a database that is closed to writing a run succeeds only if there is nothing to change, and a
step that records a version always has something to change.
-/

namespace LevelGraph

namespace Database

variable {db before after : Database}

/-- A database has all that another one has. -/
structure Extends (before after : Database) : Prop where
  /-- What stands under the name of the documents table stays. -/
  documents : ∀ object, before.documents = some object → after.documents = some object
  /-- What stands under the name of the index stays. -/
  index : ∀ object, before.index = some object → after.index = some object
  /-- The rows are the same. -/
  rows : after.rows = before.rows

/-- A database extends itself, by nothing. -/
theorem Extends.refl (db : Database) : Extends db db := ⟨fun _ same => same, fun _ same => same, rfl⟩

/-- What two changes keep one after the other is kept by both. -/
theorem Extends.trans {between : Database} (first : Extends before between)
    (second : Extends between after) : Extends before after :=
  ⟨fun object there => second.documents object (first.documents object there),
    fun object there => second.index object (first.index object there), second.rows.trans first.rows⟩

/-- All objects are kept. -/
theorem Extends.objects_subset (more : Extends before after) : before.objects ⊆ after.objects := by
  obtain ⟨documents, index, -⟩ := more
  unfold objects
  rcases first : before.documents with _ | object
  · rcases second : before.index with _ | object
    · exact List.nil_subset _
    · rw [index object second]
      rcases object with _ | _ <;> simp
  · rw [documents object first]
    rcases second : before.index with _ | other
    · rcases object with _ | _ | _ <;> simp
    · rw [index other second]
      exact List.Subset.refl _

/-- Setting the version touches nothing else. -/
theorem extends_setVersion (db : Database) (version : Int) : Extends db (db.setVersion version) := by
  unfold setVersion
  exact ⟨fun _ there => there, fun _ there => there, rfl⟩

/-- The latest version is a number that fits. -/
theorem setVersion_latest (db : Database) : (db.setVersion latestVersion).version = latestVersion := by
  simp [setVersion, latestVersion, migrations]

end Database

open Database

/-- A statement adds to a database where it succeeds. -/
def Adds (statement : Statement) : Prop :=
  ∀ {db changed}, statement db = .ok changed → Database.Extends db changed

/-- The statement for the table only makes what is missing. -/
theorem adds_createDocumentsTable : Adds createDocumentsTable := by
  intro db changed run
  unfold createDocumentsTable at run
  split at run
  · rename_i missing
    cases run
    exact ⟨fun _ there => (nomatch missing.symm.trans there), fun _ there => there, rfl⟩
  · cases run
    exact .refl db

/-- So does the one for the index. -/
theorem adds_createRootTypeIndex : Adds createRootTypeIndex := by
  intro db changed run
  unfold createRootTypeIndex at run
  split at run
  · cases run
  · cases run
  · split at run
    · cases run
    · cases run
      exact .refl db
    · rename_i missing
      split at run
      · cases run
        exact ⟨fun _ there => there, fun _ there => (nomatch missing.symm.trans there), rfl⟩
      · cases run

/-- To record a version touches neither objects nor rows. -/
theorem adds_recordVersion (version : Nat) : Adds (recordVersion version) := by
  intro db changed run
  simp only [recordVersion, Except.ok.injEq] at run
  rw [← run]
  exact extends_setVersion db version

variable {lock : Option EngineFault} {statement : Statement} {script : List Statement}
variable {steps : List Migration} {db after : Database} {fault : EngineFault}

/-- A statement that succeeds does what it does to a database that is open to writing. -/
theorem runStatement_eq_ok (run : runStatement lock statement db = .ok after) :
    statement db = .ok after := by
  unfold runStatement at run
  split at run
  · cases run
  · rename_i changed does
    rw [does]
    split at run
    · exact run
    · split at run
      · rename_i same
        rw [same]
        exact run
      · cases run

/-- A statement that succeeds on a closed database changes nothing. -/
theorem runStatement_closed (run : runStatement (some fault) statement db = .ok after) :
    after = db := by
  unfold runStatement at run
  split at run
  · cases run
  · simp only at run
    split at run
    · exact (Except.ok.inj run).symm
    · cases run

/-- A script succeeds exactly if its first statement does, and the others do on what that leaves. -/
theorem runScript_cons_eq_ok_iff : runScript lock (statement :: script) db = .ok after ↔
    ∃ changed, runStatement lock statement db = .ok changed ∧
      runScript lock script changed = .ok after := by
  rw [runScript]
  rcases runStatement lock statement db with fault | changed
  · simp
  · simp

/-- Steps succeed exactly if the script of the first does, and the others do on what that leaves. -/
theorem runMigrations_cons_eq_ok_iff {step : Migration} :
    runMigrations lock (step :: steps) db = .ok after ↔
      ∃ changed, runScript lock step.script db = .ok changed ∧
        runMigrations lock steps changed = .ok after := by
  rw [runMigrations]
  rcases runScript lock step.script db with fault | changed
  · simp
  · simp

/-- A script of statements that only add only adds. -/
theorem extends_of_runScript (adds : ∀ statement ∈ script, Adds statement)
    (run : runScript lock script db = .ok after) : Database.Extends db after := by
  induction script generalizing db with
  | nil =>
    cases run
    exact .refl _
  | cons statement rest inductionHypothesis =>
    obtain ⟨changed, first, later⟩ := runScript_cons_eq_ok_iff.mp run
    exact (adds statement List.mem_cons_self (runStatement_eq_ok first)).trans
      (inductionHypothesis (fun other among => adds other (List.mem_cons_of_mem _ among)) later)

/-- On a database that is closed to writing a script succeeds only if it finds nothing to do. -/
theorem runScript_closed (run : runScript (some fault) script db = .ok after) : after = db := by
  induction script generalizing db with
  | nil => exact (Except.ok.inj run).symm
  | cons statement rest inductionHypothesis =>
    obtain ⟨changed, first, later⟩ := runScript_cons_eq_ok_iff.mp run
    rw [inductionHypothesis later, runStatement_closed first]

/-- Steps of statements that only add only add. -/
theorem extends_of_runMigrations (adds : ∀ step ∈ steps, ∀ statement ∈ step.script, Adds statement)
    (run : runMigrations lock steps db = .ok after) : Database.Extends db after := by
  induction steps generalizing db with
  | nil =>
    cases run
    exact .refl _
  | cons step rest inductionHypothesis =>
    obtain ⟨changed, first, later⟩ := runMigrations_cons_eq_ok_iff.mp run
    exact (extends_of_runScript (adds step List.mem_cons_self) first).trans
      (inductionHypothesis (fun other among => adds other (List.mem_cons_of_mem _ among)) later)

/-- On a database that is closed to writing all steps succeed only if they find nothing to do. -/
theorem runMigrations_closed (run : runMigrations (some fault) steps db = .ok after) : after = db := by
  induction steps generalizing db with
  | nil => exact (Except.ok.inj run).symm
  | cons step rest inductionHypothesis =>
    obtain ⟨changed, first, later⟩ := runMigrations_cons_eq_ok_iff.mp run
    rw [inductionHypothesis later, runScript_closed first]

/-- Every statement of every layout step adds to a database. -/
theorem adds_migrations : ∀ step ∈ migrations, ∀ statement ∈ step.script, Adds statement := by
  intro step among statement listed
  simp only [migrations, List.mem_cons, List.not_mem_nil, or_false] at among
  subst among
  simp only [List.mem_cons, List.not_mem_nil, or_false] at listed
  rcases listed with rfl | rfl | rfl
  · exact adds_createDocumentsTable
  · exact adds_createRootTypeIndex
  · exact adds_recordVersion 1

/-- Behind the statements of the one layout step the table is there, the index was made or was there, and
the version is recorded. -/
theorem inv_runMigrations (run : runMigrations lock migrations db = .ok after) :
    ∃ stocked indexed, createDocumentsTable db = .ok stocked ∧
      createRootTypeIndex stocked = .ok indexed ∧ after = indexed.setVersion latestVersion := by
  obtain ⟨changed, script, last⟩ := runMigrations_cons_eq_ok_iff.mp run
  obtain ⟨stocked, first, script⟩ := runScript_cons_eq_ok_iff.mp script
  obtain ⟨indexed, second, script⟩ := runScript_cons_eq_ok_iff.mp script
  obtain ⟨recorded, third, rest⟩ := runScript_cons_eq_ok_iff.mp script
  have recorded_eq := runStatement_eq_ok third
  simp only [recordVersion, Except.ok.injEq] at recorded_eq
  refine ⟨stocked, indexed, runStatement_eq_ok first, runStatement_eq_ok second, ?_⟩
  rw [← Except.ok.inj last, ← Except.ok.inj rest, ← recorded_eq]
  rfl

namespace Database

/-- A version that is behind can only be zero, while there is one step. -/
theorem version_of_behind (known : 0 ≤ db.version) (behind : db.version < latestVersion) :
    db.version = 0 := by
  have latest : (latestVersion : Int) = 1 := rfl
  omega

/-- A migration of a database that is behind is a run of all steps. -/
theorem migrateUnder_of_behind (lock : Option EngineFault) (known : 0 ≤ db.version)
    (behind : db.version < latestVersion) :
    db.migrateUnder lock =
      match runMigrations lock migrations db with
      | .error (migration, fault) =>
        ⟨.error (.migration migration.version migration.name fault), db,
          [.migrationFailed migration.version migration.name fault.message]⟩
      | .ok changed => ⟨.ok (), changed, [.migrated 0 latestVersion]⟩ := by
  have read : db.readVersion = .ok 0 := by
    rw [readVersion, version_of_behind known behind]
    rfl
  unfold migrateUnder
  rw [read]
  rfl

/-- A closed database that is behind is not migrated. -/
theorem migrateUnder_closed (known : 0 ≤ db.version) (behind : db.version < latestVersion) :
    ∃ error, (db.migrateUnder (some fault)).result = .error error := by
  rw [migrateUnder_of_behind _ known behind]
  split
  · exact ⟨_, rfl⟩
  · rename_i changed run
    exfalso
    obtain ⟨stocked, indexed, -, -, recorded⟩ := inv_runMigrations run
    have version : changed.version = latestVersion := by
      rw [recorded, setVersion_latest]
    rw [runMigrations_closed run] at version
    omega

/-- A migration of a database that is not behind changes nothing, and succeeds at the latest version. -/
theorem migrateUnder_of_not_behind (settled : ¬ (0 ≤ db.version ∧ db.version < latestVersion)) :
    (db.migrateUnder lock).after = db ∧
      ((db.migrateUnder lock).result = .ok () ↔ db.version = latestVersion) := by
  have latest : (latestVersion : Int) = 1 := rfl
  unfold migrateUnder readVersion
  split
  · rename_i unknown
    split at unknown
    · cases unknown
    · refine ⟨rfl, iff_of_false (fun done => nomatch done) ?_⟩
      omega
  · rename_i version read
    split at read
    · rename_i known
      have same : db.version.toNat = version := Except.ok.inj read
      split
      · refine ⟨rfl, iff_of_false (fun done => nomatch done) ?_⟩
        omega
      · split
        · refine ⟨rfl, iff_of_true rfl ?_⟩
          omega
        · omega
    · cases read

/-- A migration that succeeds had nothing to do, or ran all steps. -/
theorem migrateUnder_eq_ok (done : (db.migrateUnder lock).result = .ok ()) :
    (db.version = latestVersion ∧ (db.migrateUnder lock).after = db) ∨
      0 ≤ db.version ∧ db.version < latestVersion ∧
        runMigrations lock migrations db = .ok (db.migrateUnder lock).after := by
  by_cases behind : 0 ≤ db.version ∧ db.version < latestVersion
  · refine .inr ⟨behind.1, behind.2, ?_⟩
    rw [migrateUnder_of_behind lock behind.1 behind.2] at done ⊢
    rcases runs : runMigrations lock migrations db with ⟨step, fault⟩ | changed
    · rw [runs] at done
      cases done
    · rfl
  · obtain ⟨same, accepted⟩ := migrateUnder_of_not_behind behind
    exact .inl ⟨accepted.mp done, same⟩

/-- A migration that fails leaves the database as it was, whichever statement failed. -/
theorem migrateUnder_after_of_error {error : StoreError}
    (failed : (db.migrateUnder lock).result = .error error) : (db.migrateUnder lock).after = db := by
  by_cases behind : 0 ≤ db.version ∧ db.version < latestVersion
  · rw [migrateUnder_of_behind lock behind.1 behind.2] at failed ⊢
    rcases runs : runMigrations lock migrations db with ⟨step, fault⟩ | changed
    · rfl
    · rw [runs] at failed
      cases failed
  · exact (migrateUnder_of_not_behind behind).1

/-- A migration adds to the database, whatever comes of it. -/
theorem extends_migrateUnder (lock : Option EngineFault) (db : Database) :
    Extends db (db.migrateUnder lock).after := by
  rcases outcome : (db.migrateUnder lock).result with error | _
  · rw [migrateUnder_after_of_error outcome]
    exact .refl db
  · rcases migrateUnder_eq_ok outcome with ⟨-, same⟩ | ⟨-, -, run⟩
    · rw [same]
      exact .refl db
    · exact extends_of_runMigrations adds_migrations run

/-- A migration that succeeds leaves the latest version. -/
theorem version_migrateUnder (done : (db.migrateUnder lock).result = .ok ()) :
    (db.migrateUnder lock).after.version = latestVersion := by
  rcases migrateUnder_eq_ok done with ⟨latest, same⟩ | ⟨-, -, run⟩
  · rw [same, latest]
  · obtain ⟨stocked, indexed, -, -, recorded⟩ := inv_runMigrations run
    rw [recorded, setVersion_latest]

/-- A database at the latest version is left alone. -/
theorem migrateUnder_of_latest (latest : db.version = latestVersion) :
    (db.migrateUnder lock).result = .ok () ∧ (db.migrateUnder lock).after = db := by
  have settled : ¬ (0 ≤ db.version ∧ db.version < latestVersion) := by omega
  exact ⟨(migrateUnder_of_not_behind settled).2.mpr latest, (migrateUnder_of_not_behind settled).1⟩

/-- A migration that had something to do leaves a table of documents, perhaps without all columns. -/
theorem documents_migrateUnder (done : (db.migrateUnder lock).result = .ok ())
    (behind : db.version < latestVersion) :
    (db.migrateUnder lock).after.documents = some .table ∨
      (db.migrateUnder lock).after.documents = some .bareTable := by
  rcases migrateUnder_eq_ok done with ⟨latest, -⟩ | ⟨-, -, run⟩
  · omega
  · obtain ⟨stocked, indexed, -, second, recorded⟩ := inv_runMigrations run
    have documents : (db.migrateUnder lock).after.documents = indexed.documents := by
      rw [recorded, setVersion]
    rw [documents]
    have kept := (adds_createRootTypeIndex second).documents
    unfold createRootTypeIndex at second
    split at second
    · cases second
    · cases second
    · rename_i object view there
      rw [kept _ there]
      rcases object with _ | _ | _
      · exact .inl rfl
      · exact .inr rfl
      · exact absurd rfl view

/-- The repository of a database with the latest version and a table of documents. -/
theorem ofDatabase_of_table (latest : db.version = latestVersion)
    (table : db.documents = some .table ∨ db.documents = some .bareTable) :
    Repository.ofDatabase db = .ok ⟨db, fun _ => false⟩ := by
  have read : db.readVersion = .ok latestVersion := by
    rw [readVersion, latest]
    rfl
  rcases table with same | same
  · simp only [Repository.ofDatabase, read, same, ne_eq, not_true_eq_false, if_false]
  · simp only [Repository.ofDatabase, read, same, ne_eq, not_true_eq_false, if_false]

end Database

end LevelGraph
