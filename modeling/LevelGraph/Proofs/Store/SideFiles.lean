import LevelGraph.Proofs.Actions
import LevelGraph.Proofs.Tables
import LevelGraph.Store.Handle

/-!
# What a look at a store leaves

To look at a store an engine settles a journal, takes up a ledger or removes it, and keeps an index of
the ledger. All of these lie beside the store under longer names, so that the entry of the store is
never among them, nor is the ledger of another store. Hence a look changes nothing elsewhere, and the
rows that the files hold are the same afterwards. The ledger of a store without pages counts for
nothing, and such a ledger is all that may go.
-/

namespace LevelGraph

namespace FileTree

variable {tree before after : FileTree} {place other : Place}

/-- The head of the store file at an absolute path, if there is one that has a page. -/
def headAt? (tree : FileTree) (path : String) : Option StoreHead :=
  match tree.entries.find? path with
  | some (.bytes content) => if content.length ≤ 1 then none else some (StoreHead.ofBytes content)
  | some (.store head) => some head
  | some (.ledger _) => some (StoreHead.foreign FileStamp.blank)
  | some .directory | none => none

/-- The store as the ledger at an absolute path has it, if a ledger is there. -/
def ledgerAt? (tree : FileTree) (path : String) : Option StoreHead :=
  match tree.entries.find? path with
  | some (.ledger head) => some head
  | _ => none

/-- The rows of the documents table that are kept at an absolute path: those of the ledger if the store
has a page and a ledger, and none in what is no store. -/
def rowsAt (tree : FileTree) (path : String) : Table String Row :=
  match tree.headAt? path with
  | none => Table.empty
  | some head =>
    match ((tree.ledgerAt? (path ++ StoreFile.ledgerEnding)).getD head).content with
    | .ok content => content.database.rows
    | .error _ => Table.empty

/-- The head of a store file depends on the entry at its path. -/
theorem headAt?_congr {path : String} (same : after.entries.find? path = before.entries.find? path) :
    after.headAt? path = before.headAt? path := by
  rw [headAt?, headAt?, same]

/-- So does a ledger. -/
theorem ledgerAt?_congr {path : String} (same : after.entries.find? path = before.entries.find? path) :
    after.ledgerAt? path = before.ledgerAt? path := by
  rw [ledgerAt?, ledgerAt?, same]

/-- Rows depend on the head of the store and on the ledger beside it. -/
theorem rowsAt_congr {path : String} (head : after.headAt? path = before.headAt? path)
    (ledger : after.ledgerAt? (path ++ StoreFile.ledgerEnding) =
      before.ledgerAt? (path ++ StoreFile.ledgerEnding)) :
    after.rowsAt path = before.rowsAt path := by
  rw [rowsAt, rowsAt, head, ledger]

/-- What is no store, or has no page, has no rows. -/
theorem rowsAt_of_headAt?_eq_none {path : String} (none : tree.headAt? path = none) :
    tree.rowsAt path = Table.empty := by
  rw [rowsAt, none]

/-- What is put at one place leaves the others. -/
theorem entry?_put (entry : FileEntry) (apart : other.text ≠ place.text) :
    FileTree.entry? (tree.put place entry) other = tree.entry? other := by
  rw [FileTree.entry?, FileTree.entry?, put, Table.find?_insert, if_neg apart]

/-- What is put at a place is there. -/
theorem entry?_put_self (entry : FileEntry) :
    FileTree.entry? (tree.put place entry) place = some entry := by
  rw [FileTree.entry?, put, Table.find?_insert, if_pos rfl]

/-- Putting back what is there changes nothing. -/
theorem put_of_entry? {entry : FileEntry} (there : tree.entry? place = some entry) :
    tree.put place entry = tree := by
  rw [put, Table.insert_of_find? there]

/-- Only what is removed is missing. -/
theorem find?_remove (path : String) : (tree.remove place).entries.find? path =
    if path = place.text then none else tree.entries.find? path := by
  unfold remove
  split
  · rename_i missing
    split
    · rename_i equal
      rw [equal]
      exact missing
    · rfl
  · exact Table.find?_erase _ _ _

/-- What is removed from one place leaves the others. -/
theorem entry?_remove (apart : other.text ≠ place.text) :
    FileTree.entry? (tree.remove place) other = tree.entry? other := by
  rw [FileTree.entry?, find?_remove, if_neg apart, FileTree.entry?]

/-- What is removed from a place is not there. -/
theorem entry?_remove_self : FileTree.entry? (tree.remove place) place = none := by
  rw [FileTree.entry?, find?_remove, if_pos rfl]

/-- Relative paths start where they did when something is removed. -/
theorem workingDirectory_remove : (tree.remove place).workingDirectory = tree.workingDirectory := by
  unfold remove
  split <;> rfl

end FileTree

namespace StoreFile

/-- The endings of the files beside a store that a look may make or remove. -/
def sideEndings : List String := [journalEnding, ledgerEnding, ledgerIndexEnding]

/-- Whether a path is that of a file beside the store at a place. -/
def IsBeside (place : Place) (path : String) : Prop :=
  ∃ ending ∈ sideEndings, path = place.text ++ ending

/-- A store is not beside itself, since no ending is empty. -/
theorem not_isBeside_self (place : Place) : ¬ IsBeside place place.text := by
  rintro ⟨ending, listed, same⟩
  have empty := String.append_eq_left_iff.mp same.symm
  subst empty
  revert listed
  decide

/-- The ledger of another store is not beside this one. -/
theorem not_isBeside_ledger {place : Place} {path : String} (other : path ≠ place.text) :
    ¬ IsBeside place (path ++ ledgerEnding) := by
  rintro ⟨ending, listed, same⟩
  have tails := congrArg (fun text => text.toList.reverse.take 4) same
  simp only [sideEndings, List.mem_cons, List.not_mem_nil, or_false] at listed
  rcases listed with rfl | rfl | rfl
  · simp [journalEnding, ledgerEnding] at tails
  · exact other ((String.append_left_inj _).mp same)
  · simp [ledgerIndexEnding, ledgerEnding] at tails

variable {file before after : StoreFile} {ending : String}

/-- In a directory the path of a file beside the store is that of the store with the ending. -/
theorem sidePlace_text (inDirectory : file.handle.place ≠ []) (ending : String) :
    (file.sidePlace ending).text = file.handle.place.text ++ ending := by
  obtain ⟨front, name, shape⟩ := List.eq_nil_or_concat file.handle.place |>.resolve_left inDirectory
  simp only [sidePlace, sideName, shape, List.concat_eq_append, List.dropLast_concat,
    List.getLast?_concat, Option.getD_some, Place.text, List.map_append, List.map_cons, List.map_nil,
    String.join_append, String.join_cons, String.append_assoc]
  simp

/-- What a connection was given when it opened its file, and whether the file has lost its place. -/
def terms (file : StoreFile) : Place × FileGuard × Bool × Bool × Bool × Option FileEntry :=
  (file.handle.place, file.handle.guard, file.handle.lockless, file.handle.readOnly,
    file.handle.contended, file.handle.parted)

/-- What the files hold after a look, if the store has its place in a directory. -/
structure Looked (before after : StoreFile) : Prop where
  /-- The connection was given the same. -/
  terms : after.terms = before.terms
  /-- Relative paths start where they did. -/
  workingDirectory : after.tree.workingDirectory = before.tree.workingDirectory
  /-- Nothing has changed but beside the store. -/
  elsewhere : before.handle.place ≠ [] → ∀ path, ¬ IsBeside before.handle.place path →
    after.tree.entries.find? path = before.tree.entries.find? path
  /-- The rows that the files hold are the same. -/
  rows : before.handle.place ≠ [] → before.handle.parted = none →
    after.tree.rowsAt before.handle.place.text = before.tree.rowsAt before.handle.place.text

/-- A look stays with the place of the store. -/
theorem Looked.place (looked : Looked before after) : after.handle.place = before.handle.place :=
  congrArg (·.1) looked.terms

/-- A look takes no file from its place. -/
theorem Looked.parted (looked : Looked before after) : after.handle.parted = before.handle.parted :=
  congrArg (·.2.2.2.2.2) looked.terms

/-- Not to look is a look. -/
theorem Looked.refl (file : StoreFile) : Looked file file :=
  ⟨rfl, rfl, fun _ _ _ => rfl, fun _ _ => rfl⟩

/-- Two looks are a look, since the second is at the same place. -/
theorem Looked.trans {between : StoreFile} (first : Looked before between)
    (second : Looked between after) : Looked before after where
  terms := second.terms.trans first.terms
  workingDirectory := second.workingDirectory.trans first.workingDirectory
  elsewhere inDirectory path apart := by
    rw [← first.elsewhere inDirectory path apart]
    rw [← first.place] at inDirectory apart
    exact second.elsewhere inDirectory path apart
  rows inDirectory whole := by
    rw [← first.rows inDirectory whole]
    rw [← first.place] at inDirectory ⊢
    exact second.rows inDirectory (first.parted.trans whole)

/-- A look that changes nothing but what the connection knows. -/
theorem Looked.of_tree_eq (terms : after.terms = before.terms) (tree : after.tree = before.tree) :
    Looked before after := by
  refine ⟨terms, by rw [tree], ?_, ?_⟩
  · intro _ path _
    rw [tree]
  · intro _ _
    rw [tree]

/-- A look that changes one file beside the store: the journal, the index of the ledger, or the ledger
where that counts for nothing before and after. -/
theorem Looked.of_side (listed : ending ∈ sideEndings) (terms : after.terms = before.terms)
    (workingDirectory : after.tree.workingDirectory = before.tree.workingDirectory)
    (others : ∀ path, path ≠ (before.sidePlace ending).text →
      after.tree.entries.find? path = before.tree.entries.find? path)
    (ledger : ending = ledgerEnding → before.handle.place ≠ [] → before.handle.parted = none →
      before.tree.headAt? before.handle.place.text = none ∨
        after.tree.ledgerAt? (before.handle.place.text ++ ledgerEnding) =
          before.tree.ledgerAt? (before.handle.place.text ++ ledgerEnding)) :
    Looked before after where
  terms := terms
  workingDirectory := workingDirectory
  elsewhere inDirectory path apart := by
    refine others path fun same => apart ⟨ending, listed, ?_⟩
    rw [same, sidePlace_text inDirectory]
  rows inDirectory whole := by
    have store : after.tree.headAt? before.handle.place.text =
        before.tree.headAt? before.handle.place.text := by
      refine FileTree.headAt?_congr (others _ fun same => ?_)
      rw [sidePlace_text inDirectory] at same
      exact not_isBeside_self _ ⟨ending, listed, same⟩
    by_cases taken : ending = ledgerEnding
    · rcases ledger taken inDirectory whole with missing | kept
      · rw [FileTree.rowsAt_of_headAt?_eq_none missing,
          FileTree.rowsAt_of_headAt?_eq_none (store.trans missing)]
      · exact FileTree.rowsAt_congr store kept
    · refine FileTree.rowsAt_congr store (FileTree.ledgerAt?_congr (others _ fun same => taken ?_))
      rw [sidePlace_text inDirectory] at same
      exact ((String.append_right_inj _).mp same).symm

/-- After a look the rows at every path are the same, unless the path is that of a file beside the
store. -/
theorem Looked.rowsAt (looked : Looked before after) (inDirectory : before.handle.place ≠ [])
    (whole : before.handle.parted = none) {path : String}
    (apart : ¬ IsBeside before.handle.place path) :
    after.tree.rowsAt path = before.tree.rowsAt path := by
  by_cases same : path = before.handle.place.text
  · rw [same]
    exact looked.rows inDirectory whole
  · exact FileTree.rowsAt_congr (FileTree.headAt?_congr (looked.elsewhere inDirectory _ apart))
      (FileTree.ledgerAt?_congr (looked.elsewhere inDirectory _ (not_isBeside_ledger same)))

/-- A store file has no page where none is to be found at its place. -/
theorem isEmpty_eq (whole : file.handle.parted = none) :
    file.isEmpty = (file.tree.headAt? file.handle.place.text).isNone := by
  simp only [isEmpty, entry?, whole, FileTree.entry?, FileTree.headAt?]
  rcases file.tree.entries.find? file.handle.place.text with _ | _ | _ | _ | _
  case some.bytes content =>
    dsimp only
    split
    · exact decide_eq_true ‹_›
    · exact decide_eq_false ‹_›
  all_goals rfl

/-- The journal may go: no rows are in it. -/
theorem looked_removeSide_journal : Looked file (file.removeSide journalEnding) :=
  Looked.of_side (by decide) rfl FileTree.workingDirectory_remove
    (fun path apart => (FileTree.find?_remove path).trans (if_neg apart))
    (fun same => absurd same (by decide))

/-- The ledger of a store without pages may go. -/
theorem looked_removeSide_ledger (empty : file.isEmpty = true) :
    Looked file (file.removeSide ledgerEnding) :=
  Looked.of_side (by decide) rfl FileTree.workingDirectory_remove
    (fun path apart => (FileTree.find?_remove path).trans (if_neg apart))
    (fun _ _ whole => .inl (Option.isNone_iff_eq_none.mp ((isEmpty_eq whole).symm.trans empty)))

open LevelGraph.Action

/-- Two actions that are looks are a look together. -/
theorem looked_bind {α β : Type} {action : StoreAction α} {next : α → StoreAction β}
    (first : Keeps Looked action) (rest : ∀ value, Keeps Looked (next value)) :
    Keeps Looked (action >>= next) := keeps_bind Looked.trans first rest

/-- A journal beside the store, if there is one, stays where it is: a change seems to be going on, or it
cannot be removed from beside a store without pages, or it has no mark to be played back for. -/
def LeavesJournal (file : StoreFile) : Prop :=
  ∀ entry, file.side? journalEnding = some entry →
    file.seemsInUse = true ∨
    file.isEmpty = true ∧ (file.canReserve && !entry.isDirectory) = false ∨
    file.isEmpty = false ∧ entry.isDirectory = false ∧ beginsMarked entry = false

/-- A journal that stays is left without a fault. -/
theorem run_settleJournal_of_leavesJournal (leaves : file.LeavesJournal) :
    settleJournal.run.run file = (.ok (), file) := by
  simp only [settleJournal, run_get_bind]
  split
  · rfl
  · rename_i entry there
    rcases leaves entry there with inUse | ⟨empty, fixed⟩ | ⟨paged, plain, unmarked⟩
    · simp only [inUse, if_true, run_pure]
    · simp only [empty, fixed, if_true, Bool.false_eq_true, if_false, run_pure, ite_self]
    · simp only [paged, plain, unmarked, Bool.false_eq_true, if_false, run_pure, ite_self]

/-- Settling a journal leaves it or removes it, and where it fails it leaves everything. -/
theorem run_settleJournal (file : StoreFile) :
    (file.LeavesJournal ∧ settleJournal.run.run file = (.ok (), file)) ∨
      settleJournal.run.run file = (.ok (), file.removeSide journalEnding) ∨
      ∃ fault, settleJournal.run.run file = (.error fault, file) := by
  simp only [settleJournal, run_get_bind]
  split
  · rename_i missing
    exact .inl ⟨fun _ there => (nomatch missing.symm.trans there), rfl⟩
  · rename_i entry found
    have leaves (stays : file.seemsInUse = true ∨
        file.isEmpty = true ∧ (file.canReserve && !entry.isDirectory) = false ∨
        file.isEmpty = false ∧ entry.isDirectory = false ∧ beginsMarked entry = false) :
        file.LeavesJournal := by
      intro other there
      rw [← Option.some.inj (found.symm.trans there)]
      exact stays
    split
    · rename_i inUse
      exact .inl ⟨leaves (.inl inUse), rfl⟩
    · split
      · rename_i empty
        split
        · exact .inr (.inl rfl)
        · rename_i fixed
          exact .inl ⟨leaves (.inr (.inl ⟨empty, Bool.eq_false_iff.mpr fixed⟩)), rfl⟩
      · rename_i paged
        split
        · exact .inr (.inr ⟨_, rfl⟩)
        · rename_i plain
          split
          · split
            · exact .inr (.inr ⟨_, rfl⟩)
            · split
              · exact .inr (.inr ⟨_, rfl⟩)
              · exact .inr (.inl rfl)
          · rename_i unmarked
            exact .inl ⟨leaves (.inr (.inr ⟨Bool.eq_false_iff.mpr paged,
              Bool.eq_false_iff.mpr plain, Bool.eq_false_iff.mpr unmarked⟩)), rfl⟩

/-- Settling a journal is a look. -/
theorem keeps_settleJournal : Keeps Looked settleJournal := by
  intro file
  rcases run_settleJournal file with ⟨-, run⟩ | run | ⟨fault, run⟩
  · rw [run]
    exact Looked.refl file
  · rw [run]
    exact looked_removeSide_journal
  · rw [run]
    exact Looked.refl file

/-- A store file with its ledger open for changes. -/
def withLedger (file : StoreFile) : StoreFile :=
  { tree := if (file.tree.entry? (file.sidePlace ledgerEnding)).isSome then file.tree
      else file.tree.put (file.sidePlace ledgerEnding) (.bytes [])
    handle := { file.handle with inLedger := true, page := none } }

/-- A ledger that is opened is there already, or is empty and counts for nothing. -/
theorem looked_withLedger : Looked file file.withLedger := by
  unfold withLedger
  split
  · exact Looked.of_tree_eq rfl rfl
  · rename_i missing
    refine Looked.of_side (show ledgerEnding ∈ sideEndings by decide) rfl rfl (fun path apart => ?_)
      (fun _ inDirectory _ => .inr ?_)
    · exact (Table.find?_insert ..).trans (if_neg apart)
    · rw [Option.not_isSome_iff_eq_none, FileTree.entry?, sidePlace_text inDirectory] at missing
      rw [FileTree.ledgerAt?, FileTree.ledgerAt?, missing, FileTree.put, Table.find?_insert,
        sidePlace_text inDirectory, if_pos rfl]

/-- Opening the ledger fails and leaves everything, or succeeds. -/
theorem run_openLedger (file : StoreFile) :
    (∃ fault, openLedger.run.run file = (.error fault, file)) ∨
      openLedger.run.run file = (.ok (), file.withLedger) := by
  simp only [openLedger, run_get_bind]
  split
  · exact .inl ⟨_, rfl⟩
  · split
    · exact .inl ⟨_, rfl⟩
    · exact .inr rfl

/-- A store file with an index of its ledger. -/
def withIndex (file : StoreFile) : StoreFile :=
  { file with tree := file.tree.put (file.sidePlace ledgerIndexEnding) (.bytes ledgerIndexMark) }

/-- An index has no rows. -/
theorem looked_withIndex : Looked file file.withIndex :=
  Looked.of_side (show ledgerIndexEnding ∈ sideEndings by decide) rfl rfl
    (fun _ apart => (Table.find?_insert ..).trans (if_neg apart)) (fun same => absurd same (by decide))

/-- Joining the ledger fails and leaves everything, or makes an index unless nobody else may use the
file. -/
theorem run_joinLedger (file : StoreFile) :
    (∃ fault, joinLedger.run.run file = (.error fault, file)) ∨
      file.handle.guard = .soleUse ∧ joinLedger.run.run file = (.ok (), file) ∨
      file.sideBlocked ledgerIndexEnding = false ∧
        joinLedger.run.run file = (.ok (), file.withIndex) := by
  simp only [joinLedger, run_get_bind]
  split
  · rename_i sole
    exact .inr (.inl ⟨sole, rfl⟩)
  · split
    · exact .inl ⟨_, rfl⟩
    · rename_i free
      exact .inr (.inr ⟨Bool.eq_false_iff.mpr free, rfl⟩)

/-- Finding a ledger leaves everything where there is none, removes it from beside a store without
pages or fails there, and otherwise opens it. -/
theorem run_findLedger (file : StoreFile) :
    (file.side? ledgerEnding = none ∧ findLedger.run.run file = (.ok (), file)) ∨
      file.isEmpty = true ∧ findLedger.run.run file = (.ok (), file.removeSide ledgerEnding) ∨
      (∃ fault, findLedger.run.run file = (.error fault, file)) ∨
      file.isEmpty = false ∧ findLedger.run.run file = (.ok (), file.withLedger) := by
  simp only [findLedger, run_get_bind]
  split
  · rename_i missing
    exact .inl ⟨missing, rfl⟩
  · split
    · rename_i empty
      split
      · exact .inr (.inr (.inl ⟨_, rfl⟩))
      · exact .inr (.inl ⟨empty, rfl⟩)
    · rename_i paged
      rcases run_openLedger file with failed | opened
      · exact .inr (.inr (.inl failed))
      · exact .inr (.inr (.inr ⟨Bool.eq_false_iff.mpr paged, opened⟩))

/-- Opening the ledger is a look. -/
theorem keeps_openLedger : Keeps Looked openLedger := by
  intro file
  rcases run_openLedger file with ⟨fault, run⟩ | run
  · rw [run]
    exact Looked.refl file
  · rw [run]
    exact looked_withLedger

/-- Joining the ledger is a look. -/
theorem keeps_joinLedger : Keeps Looked joinLedger := by
  intro file
  rcases run_joinLedger file with ⟨fault, run⟩ | ⟨-, run⟩ | ⟨-, run⟩
  · rw [run]
    exact Looked.refl file
  · rw [run]
    exact Looked.refl file
  · rw [run]
    exact looked_withIndex

/-- Finding the ledger is a look, even where it is removed: then the store has no pages. -/
theorem keeps_findLedger : Keeps Looked findLedger := by
  intro file
  rcases run_findLedger file with ⟨-, run⟩ | ⟨empty, run⟩ | ⟨fault, run⟩ | ⟨-, run⟩
  · rw [run]
    exact Looked.refl file
  · rw [run]
    exact looked_removeSide_ledger empty
  · rw [run]
    exact Looked.refl file
  · rw [run]
    exact looked_withLedger

/-- To keep a first page in mind changes no file. -/
theorem keeps_keepPage (page : StoreHead) : Keeps Looked (keepPage page) := fun _ =>
  Looked.of_tree_eq rfl rfl

/-- Reading through the ledger is a look. -/
theorem keeps_readLedgered : Keeps Looked readLedgered := by
  unfold readLedgered
  refine looked_bind keeps_joinLedger fun _ => keeps_get_bind fun file => ?_
  refine looked_bind (keeps_keepPage _) (fun _ => ?_) file
  exact fun file => Looked.of_tree_eq rfl rfl

/-- The first page of the file is recalled without a fault. -/
theorem run_recallPage (file : StoreFile) : ∃ page handle,
    recallPage.run.run file = (.ok page, { file with handle := handle }) ∧
      ({ file with handle := handle } : StoreFile).terms = file.terms := by
  simp only [recallPage, run_get_bind]
  split
  · exact ⟨_, _, rfl, rfl⟩
  · split
    · exact ⟨_, _, rfl, rfl⟩
    · exact ⟨_, _, rfl, rfl⟩

/-- Recalling the first page is a look. -/
theorem keeps_recallPage : Keeps Looked recallPage := by
  intro file
  obtain ⟨page, handle, run, terms⟩ := run_recallPage file
  rw [run]
  exact Looked.of_tree_eq terms rfl

/-- Reading plainly is a look, also where the head asks for a ledger. -/
theorem keeps_readPlain : Keeps Looked readPlain := by
  unfold readPlain
  refine looked_bind keeps_recallPage fun page => ?_
  split
  · exact looked_bind keeps_openLedger fun _ => keeps_readLedgered
  · exact keeps_get_bind fun file => Looked.of_tree_eq (by rw [run_lift]) (by rw [run_lift])

/-- Reading a file that is taken to be frozen is a look. -/
theorem keeps_readTrusting (found : Option (Except EngineFault StoreContent)) :
    Keeps Looked (readTrusting found) := by
  unfold readTrusting
  split
  · exact fun file => Looked.of_tree_eq (by rw [run_lift]) (by rw [run_lift])
  · exact fun file => Looked.of_tree_eq rfl rfl

/-- To forget the first page changes no file. -/
theorem looked_refresh (file : StoreFile) : Looked file file.refresh := by
  unfold refresh
  split
  · exact Looked.of_tree_eq rfl rfl
  · exact Looked.refl file

/-- Reading a store is a look at it, whatever comes of it. -/
theorem keeps_read : Keeps Looked read := by
  unfold read
  refine keeps_get_bind fun file => ?_
  split
  · exact keeps_readTrusting _ file
  · split
    · exact keeps_readLedgered file
    · split
      · exact Looked.refl file
      · refine looked_bind keeps_settleJournal (fun _ => ?_) file
        refine looked_bind looked_refresh fun _ => ?_
        refine looked_bind keeps_findLedger fun _ => ?_
        refine keeps_get_bind fun file => ?_
        split
        · exact keeps_readLedgered file
        · exact keeps_readPlain file

/-- Reading before a change is a look, whether the change is let through or not. -/
theorem keeps_readForChange : Keeps Looked readForChange := by
  unfold readForChange
  refine keeps_get_bind fun file => ?_
  split
  · exact Looked.refl file
  · refine looked_bind keeps_read (fun content => keeps_get_bind fun file => ?_) file
    dsimp only
    split
    · exact Looked.refl file
    · split
      · split
        · exact Looked.refl file
        · exact Looked.refl file
      · exact Looked.refl file

end StoreFile

end LevelGraph
