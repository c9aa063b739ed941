import LevelGraph.Store.Repository
import Mathlib.Tactic.ByContra

/-!
# Stores with the current layout

A repository works on a database that has the latest version and the table of documents with all its
columns. Bringing the layout of an earlier database up to date leaves it so, with the rows that were
there, unless a table of the name was there already that lacks columns.
-/

namespace LevelGraph

namespace Database

variable {db : Database}

/-- The layout is the one that this program makes. -/
structure Current (db : Database) : Prop where
  /-- It has the latest version. -/
  version : db.version = latestVersion
  /-- There is the table of documents with all its columns. -/
  table : db.documents = some .table

/-- A migration that succeeds makes what is missing and records the version. -/
theorem migrate_after_of_ok (behind : db.version < latestVersion)
    (done : db.migrate.result = .ok ()) (whole : db.documents ≠ some .bareTable) :
    db.migrate.after =
      { db with version := latestVersion, documents := some .table, index := some .index } := by
  have first : db.version = 0 := by
    by_contra later
    have negative : ¬ 0 ≤ db.version := by
      have latest : (latestVersion : Int) = 1 := rfl
      omega
    simp only [migrate, migrateUnder, readVersion, if_neg negative] at done
    cases done
  obtain ⟨version, documents, index, rows⟩ := db
  dsimp only at first whole
  subst first
  rcases documents with _ | _ | _ | _
  case none | some.table =>
    rcases index with _ | _ | _
    case none | some.index => rfl
    case some.table => cases done
  case some.bareTable => exact absurd rfl whole
  case some.view => cases done

/-- A migration that succeeds makes the layout current and keeps the rows, where no table without
columns was in its way. -/
theorem current_of_migrate (behind : db.version < latestVersion)
    (done : db.migrate.result = .ok ()) (whole : db.documents ≠ some .bareTable) :
    db.migrate.after.Current ∧ db.migrate.after.rows = db.rows := by
  rw [migrate_after_of_ok behind done whole]
  exact ⟨⟨rfl, rfl⟩, rfl⟩

/-- The repository of a database with the current layout. -/
theorem Current.ofDatabase (current : db.Current) :
    Repository.ofDatabase db = .ok ⟨db, fun _ => false⟩ := by
  have read : db.readVersion = .ok latestVersion := by
    rw [readVersion, current.version]
    rfl
  simp only [Repository.ofDatabase, read, current.table, ne_eq, not_true_eq_false, if_false]

end Database

end LevelGraph
