import LevelGraph.CommandLine.InMemory
import LevelGraph.Proofs.Files.Grown
import LevelGraph.Proofs.Store.AllOrNothing

/-!
# Programs that keep the rows of a store

A program that connects to a store and only reads it leaves the rows of all stores among the files as
they were, though it may make a file that was missing, and settle or make files beside the store. So does
a program that then keeps a database with the rows that it has found. It connects once more for that, and
finds the store in the same place, since an address leads to its place by names alone.

A file beside the store counts as a part of the store, so a store that lies there is none of those that
are kept.
-/

namespace LevelGraph

/-- Where names lead from a place, by the names alone. -/
def Place.follow : Place → List String → Place
  | place, [] => place
  | place, name :: rest =>
    if name = "." then follow place rest
    else if name = ".." then follow place.dropLast rest
    else follow (place ++ [name]) rest

/-- Whether the address that a text is forbids writing. -/
def StoreAddress.readsOnly (text : String) : Bool :=
  (StoreAddress.ofText text).toOption.any isReadOnly

namespace FileTree

variable {tree before after : FileTree} {text : String} {place : Place}

/-- The place of the store behind the text of an address, if it is a file. -/
def storeBehind? (tree : FileTree) (text : String) : Option Place :=
  match StoreAddress.ofText text with
  | .error _ => none
  | .ok address =>
    if address.livesInMemory then none
    else some ((tree.start address.path).follow (Path.names address.path))

/-- Which file a path of a store stands for depends on where relative paths start, and on no file. -/
theorem storeBehind?_congr (same : after.workingDirectory = before.workingDirectory) (text : String) :
    after.storeBehind? text = before.storeBehind? text := by
  unfold storeBehind? start
  rw [same]

/-- A store engine takes names by the names alone. -/
theorem eq_follow_of_storePlace? {start : Place} {names : List String}
    (found : tree.storePlace? start names = some place) : place = start.follow names := by
  induction names generalizing start with
  | nil => exact (Option.some.inj found).symm
  | cons name rest inductionHypothesis =>
    rw [storePlace?] at found
    rw [Place.follow]
    split at found
    · rename_i dot
      rw [if_pos dot]
      exact inductionHypothesis found
    · rename_i notDot
      rw [if_neg notDot]
      split at found
      · rename_i up
        rw [if_pos up]
        exact inductionHypothesis found
      · rename_i down
        rw [if_neg down]
        split at found
        · cases found
        · split at found
          · cases found
          · exact inductionHypothesis found

/-- The rows of all stores are the same, where a file beside a given one is not taken for a store. -/
structure RowsKept (store : Option Place) (before after : FileTree) : Prop where
  /-- Relative paths start where they did. -/
  workingDirectory : after.workingDirectory = before.workingDirectory
  /-- The rows at each path are the same. -/
  rows : ∀ path, (∀ place, store = some place → ¬ StoreFile.IsBeside place path) →
    after.rowsAt path = before.rowsAt path

namespace RowsKept

variable {store : Option Place}

/-- Files that stay as they are keep their rows. -/
theorem refl (store : Option Place) (tree : FileTree) : RowsKept store tree tree :=
  ⟨rfl, fun _ _ => rfl⟩

/-- Rows that are kept twice are kept. -/
theorem trans {between : FileTree} (first : RowsKept store before between)
    (second : RowsKept store between after) : RowsKept store before after :=
  ⟨second.workingDirectory.trans first.workingDirectory,
    fun path apart => (second.rows path apart).trans (first.rows path apart)⟩

/-- The rows of the store itself are the same. -/
theorem own (kept : RowsKept (some place) before after) :
    after.rowsAt place.text = before.rowsAt place.text :=
  kept.rows _ fun _ same => Option.some.inj same ▸ StoreFile.not_isBeside_self place

end RowsKept

/-- Where nothing is and where something new may be, there are no rows and no ledgers. -/
theorem Grown.headAt? (grown : Grown before after) (path : String) :
    after.headAt? path = before.headAt? path ∧ after.ledgerAt? path = before.ledgerAt? path := by
  rcases there : before.entries.find? path with _ | entry
  · rcases found : after.entries.find? path with _ | entry
    · exact ⟨headAt?_congr (found.trans there.symm), ledgerAt?_congr (found.trans there.symm)⟩
    · simp only [FileTree.headAt?, ledgerAt?, there, found]
      rcases grown.new there found with rfl | rfl
      · exact ⟨rfl, rfl⟩
      · exact ⟨rfl, rfl⟩
  · have same := (grown.kept there).trans there.symm
    exact ⟨headAt?_congr same, ledgerAt?_congr same⟩

/-- Directories and empty files that are new have no rows, so none are gained and none are lost. -/
theorem Grown.rowsKept (grown : Grown before after) (store : Option Place) :
    RowsKept store before after :=
  ⟨grown.workingDirectory, fun path _ => rowsAt_congr (grown.headAt? path).1 (grown.headAt? _).2⟩

end FileTree

namespace StoreFile

open LevelGraph.Action FileTree

variable {file before after : StoreFile} {content new : StoreContent}

/-- A look at a store keeps the rows of the store and of all others that are not beside it. -/
theorem Looked.rowsKept (looked : Looked before after) (inDirectory : before.handle.place ≠ [])
    (whole : before.handle.parted = none) :
    RowsKept (some before.handle.place) before.tree after.tree :=
  ⟨looked.workingDirectory, fun _ apart => looked.rowsAt inDirectory whole (apart _ rfl)⟩

/-- The rows that were read of a file that may be written to are those that the files hold. -/
theorem Settled.rowsAt (settled : file.Settled content) (writable : file.handle.readOnly = false) :
    file.tree.rowsAt file.handle.place.text = content.database.rows := by
  cases settled with
  | frozen found readOnly anew => cases writable.symm.trans readOnly
  | plain settled => exact settled.rowsAt
  | ledger settled => exact settled.rowsAt

/-- A change that leaves the rows of its store changes no rows. -/
theorem Changed.rowsKept (changed : Changed before after)
    (own : after.tree.rowsAt before.handle.place.text = before.tree.rowsAt before.handle.place.text) :
    RowsKept (some before.handle.place) before.tree after.tree := by
  refine ⟨changed.workingDirectory, fun path apart => ?_⟩
  by_cases same : path = before.handle.place.text
  · rw [same]
    exact own
  · exact changed.rowsAt same (apart _ rfl)

/-- Writing what has the rows that were read changes no rows, whether it fails or not. -/
theorem Settled.rowsKept_write (settled : file.Settled content) (free : file.isReadOnly = false)
    (same : new.database.rows = content.database.rows) :
    RowsKept (some file.handle.place) file.tree ((write new).run.run file).2.tree := by
  rcases writable : file.writeFault with _ | fault
  · cases settled with
    | frozen found readOnly anew =>
      rw [isReadOnly, readOnly] at free
      cases free
    | plain settled =>
      rw [settled.run_write writable new]
      split
      · exact looked_dropJournal.rowsKept settled.inDirectory settled.whole
      · refine (settled.changed_overwritten _).rowsKept ?_
        rw [settled.rowsAt, ← same]
        exact (settled.settled_write _ new).rowsAt
    | ledger settled =>
      rw [settled.run_write new]
      refine (settled.changed_appended _).rowsKept ?_
      rw [settled.rowsAt, ← same]
      exact (SettledLedger.appended settled rfl rfl : (file.appended _).SettledLedger new).rowsAt
  · simp only [write, run_get_bind, writable, run_throw_bind]
    exact .refl _ _

/-- Reading for a change settles a connection with its file, which may be written to. -/
theorem Unread.settled_of_run_readForChange (unread : before.Unread)
    (run : readForChange.run.run before = (.ok content, after)) :
    after.Settled content ∧ after.isReadOnly = false := by
  rcases forbidden : before.isReadOnly with _ | _
  · rcases reads : read.run.run before with ⟨fault | found, between⟩
    · simp only [readForChange, run_get_bind, forbidden, Bool.false_eq_true, if_false] at run
      rw [run_bind_of_error reads] at run
      cases run
    · have settled := unread.settled_of_run reads
      -- What is done once the file has been read is the same for a file that was read before.
      have again : readForChange.run.run before = readForChange.run.run between := by
        simp only [readForChange, run_get_bind, forbidden, Bool.false_eq_true, if_false]
        rw [run_bind_of_ok reads, run_get_bind]
        rcases refused : between.isReadOnly with _ | _
        · simp only [Bool.false_eq_true, if_false]
          rw [run_bind_of_ok settled.run_read, run_get_bind]
          simp only [refused, Bool.false_eq_true, if_false]
        · rfl
      rw [again] at run
      rcases settled.run_readForChange with ⟨fault, fails⟩ | ⟨free, tells⟩
      · cases fails.symm.trans run
      · cases tells.symm.trans run
        exact ⟨settled, free⟩
  · simp only [readForChange, run_get_bind, forbidden, if_true, run_throw_bind] at run
    cases run

end StoreFile

namespace FileTree

variable {tree : FileTree} {address : StoreAddress} {place : Place} {text : String} {file : StoreFile}

/-- To take hold of a file changes no file, and the hold is on the file at the place, for reading only
if the address says so. -/
theorem terms_holding (tree : FileTree) (address : StoreAddress) (place : Place) :
    (tree.holding address place).tree = tree ∧
      (tree.holding address place).handle.place = place ∧
      (tree.holding address place).handle.readOnly = address.isReadOnly := by
  unfold holding
  split <;> exact ⟨rfl, rfl, rfl⟩

/-- Opening a store makes at most an empty file. -/
theorem grown_openStoreAt (opened : tree.openStoreAt address place text = .ok file) :
    tree.Grown file.tree ∧ file.handle.place = place ∧
      file.handle.readOnly = address.isReadOnly := by
  unfold openStoreAt at opened
  split at opened
  · cases opened
  · split at opened
    · cases opened
    · split at opened
      · rename_i free
        split at opened
        · rw [← Except.ok.inj opened]
          obtain ⟨same, terms⟩ := terms_holding (tree.put place (.bytes [])) address place
          refine ⟨?_, terms⟩
          rw [same]
          exact grown_put free (.inr rfl)
        · cases opened
      · split at opened <;> cases opened
      · rw [← Except.ok.inj opened]
        obtain ⟨same, terms⟩ := terms_holding tree address place
        refine ⟨?_, terms⟩
        rw [same]
        exact .refl tree

end FileTree

namespace Connections

open LevelGraph.Action FileTree

variable {tree : FileTree} {text : String} {links : Connections} {contact : Contact}

/-- A connection that a program has made that had none. -/
inductive Reached (tree : FileTree) (text : String) (links : Connections) : Prop where
  /-- To a store in memory. -/
  | memory {content : StoreContent} {readOnly : Bool}
      (target : links.current.target = .memory content readOnly)
      (behind : tree.storeBehind? text = none) (same : links.tree = tree)
  /-- To a store file, which may have been made, and has not been looked at. -/
  | file {handle : StoreHandle} (target : links.current.target = .file handle)
      (behind : tree.storeBehind? text = some handle.place)
      (unread : StoreFile.Unread ⟨links.tree, handle⟩)
      (readOnly : handle.readOnly = StoreAddress.readsOnly text) (grown : tree.Grown links.tree)

/-- The store in memory that a session begins with is shared under no name. -/
theorem shares_start (tree : FileTree) (name : Option (String × String)) :
    (start tree).shares name = false := by
  cases name <;> rfl

/-- What an address reaches at first is a new store in memory or a file that was just opened. -/
theorem reached_of_reach (reaches : (start tree).reach text = .ok contact) :
    Reached tree text contact.links := by
  unfold reach at reaches
  split at reaches
  · cases reaches
  · split at reaches
    · cases reaches
    · rename_i address meant
      unfold reachAddress at reaches
      simp only [shares_start, Bool.false_eq_true, if_false] at reaches
      split at reaches
      · rename_i inMemory
        split at reaches
        · cases reaches
        · rw [← Except.ok.inj reaches]
          exact .memory rfl (by simp only [storeBehind?, meant, if_pos inMemory]) rfl
      · rename_i onDisk
        split at reaches
        · cases reaches
        · rename_i place found
          rcases opened : tree.openStoreAt address place text with fault | file
          · simp only [reachFile, start, opened] at reaches
            cases reaches
          · simp only [reachFile, start, opened] at reaches
            rw [← Except.ok.inj reaches]
            obtain ⟨grown, same, readOnly⟩ := grown_openStoreAt opened
            have unread := unread_of_openStoreAt (place_ne_nil_of_storePlaceOf? found) opened
            refine .file rfl ?_ ⟨unread.inDirectory, unread.whole, unread.page, unread.notInLedger,
              unread.frozen, unread.found⟩ ?_ grown
            · have follows := eq_follow_of_storePlace? (Option.filter_eq_some_iff.mp found).1
              simp only [storeBehind?, meant, if_neg onDisk, same, follows]
              rfl
            · simp only [StoreAddress.readsOnly, meant, readOnly]
              rfl

end Connections

namespace FileTree

open LevelGraph.Action CommandLine Connections

variable {tree : FileTree} {text : String} {place : Place} {db : Database}

/-- What a program finds behind the text of an address, and the files afterwards. -/
def connect (tree : FileTree) (text : String) : Except EngineFault Connected × FileTree :=
  match (Connections.start tree).reach text with
  | .error fault => (.error fault, tree)
  | .ok contact => (.ok contact.links.found.1, contact.links.found.2.tree)

/-- The files once a program has connected to what is behind the text of an address and has kept a
database there. -/
def keep (tree : FileTree) (text : String) (db : Database) : FileTree :=
  match (Connections.start tree).reach text with
  | .error _ => tree
  | .ok contact => ((leaveWith db).run.run contact.links).2.tree

/-- To find a database is to read it, so the files afterwards are those after a read. -/
theorem tree_found (links : Connections) :
    links.found.2.tree = (Connections.read.run.run links).2.tree := by
  unfold found
  rcases Connections.read.run.run links with ⟨_ | _, _⟩ <;> rfl

/-- Connecting to a store changes no rows. -/
theorem rowsKept_connect (tree : FileTree) (text : String) :
    RowsKept (tree.storeBehind? text) tree (tree.connect text).2 := by
  unfold connect
  rcases reaches : (Connections.start tree).reach text with fault | contact
  · exact .refl _ _
  · simp only [tree_found]
    cases reached_of_reach reaches with
    | memory target behind same =>
      simp only [Connections.read, run_get_bind, target, run_pure, same]
      exact .refl _ _
    | @file handle target behind unread readOnly grown =>
      have looked := StoreFile.keeps_read ⟨contact.links.tree, handle⟩
      rcases looks : StoreFile.read.run.run ⟨contact.links.tree, handle⟩ with ⟨result, file⟩
      rw [looks] at looked
      rw [run_read_of_file target looks, behind]
      exact (grown.rowsKept _).trans (looked.rowsKept unread.inDirectory unread.whole)

/-- The rows that are found over a connection that may write are those that the files hold. -/
theorem rows_connect {lock : Option EngineFault}
    (finds : (tree.connect text).1 = .ok (.database db lock))
    (behind : tree.storeBehind? text = some place)
    (writable : StoreAddress.readsOnly text = false) : tree.rowsAt place.text = db.rows := by
  unfold connect at finds
  rcases reaches : (Connections.start tree).reach text with fault | contact
  · rw [reaches] at finds
    cases finds
  · rw [reaches] at finds
    cases reached_of_reach reaches with
    | memory target missing same => cases missing.symm.trans behind
    | @file handle target located unread readOnly grown =>
      have looked := StoreFile.keeps_read ⟨contact.links.tree, handle⟩
      rcases looks : StoreFile.read.run.run ⟨contact.links.tree, handle⟩ with ⟨fault | content, file⟩
      · simp only [found, run_read_of_file target looks] at finds
        cases finds
      · rw [looks] at looked
        simp only [found, run_read_of_file target looks, Except.ok.injEq, Connected.database.injEq]
          at finds
        have same : handle.place = place := Option.some.inj (located.symm.trans behind)
        have kept := (grown.rowsKept (some place)).trans
          (same ▸ looked.rowsKept unread.inDirectory unread.whole)
        have rows := (unread.settled_of_run looks).rowsAt
          ((StoreFile.readOnly_of_terms looked.terms).trans (readOnly.trans writable))
        rw [looked.place, same] at rows
        rw [← kept.own, rows, ← finds.1]

/-- Keeping a database with the rows that a store has changes no rows, whether it is written or not. -/
theorem rowsKept_keep (same : ∀ place, tree.storeBehind? text = some place →
      StoreAddress.readsOnly text = false → tree.rowsAt place.text = db.rows) :
    RowsKept (tree.storeBehind? text) tree (tree.keep text db) := by
  unfold keep
  rcases reaches : (Connections.start tree).reach text with fault | contact
  · exact .refl _ _
  · simp only
    cases reached_of_reach reaches with
    | @memory held closed target behind unchanged =>
      have stays : ((leaveWith db).run.run contact.links).2.tree = contact.links.tree := by
        have reads : Connections.readForChange.run.run contact.links =
            (if closed then .error .readOnly else .ok held, contact.links) := by
          simp only [Connections.readForChange, run_get_bind, target]
          split <;> rfl
        rcases closed with _ | _
        · rw [leaveWith, run_bind_of_ok reads]
          split
          · rfl
          · simp only [Connections.write, run_get_bind, target, run_modify]
        · rw [leaveWith, run_bind_of_error reads]
      rw [stays, unchanged]
      exact .refl _ _
    | @file handle target behind unread readOnly grown =>
      have looked := StoreFile.keeps_readForChange ⟨contact.links.tree, handle⟩
      rcases looks : StoreFile.readForChange.run.run ⟨contact.links.tree, handle⟩ with ⟨result, file⟩
      have reads : Connections.readForChange.run.run contact.links =
          (result, contact.links.withFile file) := by
        simp only [Connections.readForChange, run_get_bind, target]
        exact run_onFile looks
      rw [looks] at looked
      have kept := (grown.rowsKept (some handle.place)).trans
        (looked.rowsKept unread.inDirectory unread.whole)
      rw [behind]
      rcases result with fault | content
      · rw [leaveWith, run_bind_of_error reads]
        exact kept
      · rw [leaveWith, run_bind_of_ok reads]
        split
        · exact kept
        · obtain ⟨settled, free⟩ := unread.settled_of_run_readForChange looks
          have writable : file.handle.readOnly = false := (Bool.or_eq_false_iff.mp free).1
          have open_ : StoreAddress.readsOnly text = false := by
            rw [← readOnly, ← StoreFile.readOnly_of_terms looked.terms, writable]
          have rows : (StoreContent.ofDatabase db).database.rows = content.database.rows := by
            rw [← settled.rowsAt writable, looked.place, kept.own, same _ behind open_]
            rfl
          have written := settled.rowsKept_write free rows
          rcases writes : (StoreFile.write (StoreContent.ofDatabase db)).run.run file with
            ⟨outcome, after⟩
          have run : (Connections.write (StoreContent.ofDatabase db)).run.run
              (contact.links.withFile file) =
                (outcome, (contact.links.withFile file).withFile after) := by
            have left : (contact.links.withFile file).current.target = .file file.handle := rfl
            simp only [Connections.write, run_get_bind, left]
            exact run_onFile writes
          rw [writes, looked.place] at written
          rw [run]
          exact kept.trans written

end FileTree

end LevelGraph
