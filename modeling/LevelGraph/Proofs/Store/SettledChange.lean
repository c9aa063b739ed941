import LevelGraph.Proofs.Store.SettledFile

/-!
# Changes of store files that have been read

A change of a file that a connection has read is written to the file or to its ledger, and the
connection then knows what it has written. A change that is begun and given up leaves no journal. In
either case only the store and what lies beside it are touched, and never the ledger of another store.
-/

namespace LevelGraph.StoreFile

open LevelGraph.Action

variable {file before after : StoreFile} {content : StoreContent} {ending other : String}

section Journal

/-- To end a change leaves the handle. -/
theorem handle_dropJournal : file.dropJournal.handle = file.handle := by
  unfold dropJournal
  split <;> rfl

/-- The connection was given the same. -/
theorem terms_dropJournal : file.dropJournal.terms = file.terms := by
  rw [terms, terms, handle_dropJournal]

/-- Relative paths start where they did. -/
theorem workingDirectory_dropJournal :
    file.dropJournal.tree.workingDirectory = file.tree.workingDirectory := by
  unfold dropJournal
  split
  · rfl
  · exact FileTree.workingDirectory_remove

/-- Only the entry of the journal is another one. -/
theorem find?_dropJournal {path : String} (apart : path ≠ (file.sidePlace journalEnding).text) :
    file.dropJournal.tree.entries.find? path = file.tree.entries.find? path := by
  unfold dropJournal
  split
  · rfl
  · exact (FileTree.find?_remove path).trans ((if_neg apart).trans
      ((Table.find?_insert ..).trans (if_neg apart)))

/-- Other files beside the store stay. -/
theorem sideEntry?_dropJournal (apart : other ≠ journalEnding) :
    file.dropJournal.tree.entry? (file.sidePlace other) = file.tree.entry? (file.sidePlace other) :=
  find?_dropJournal fun same => apart (file.sidePlace_text_injective same)

/-- So does the store itself. -/
theorem entry?_dropJournal :
    file.dropJournal.entry? = file.entry? :=
  entry?_congr terms_dropJournal (find?_dropJournal (sidePlace_text_ne _ (by decide)))

/-- The journal is gone, whether or not there was one. -/
theorem journalEntry?_dropJournal :
    file.dropJournal.tree.entry? (file.sidePlace journalEnding) = none := by
  unfold dropJournal
  split
  · rename_i missing
    exact Option.isNone_iff_eq_none.mp missing
  · exact FileTree.entry?_remove_self

/-- Where there is no journal, none has to be settled. -/
theorem leavesJournal_of_missing (missing : file.side? journalEnding = none) : file.LeavesJournal :=
  fun _ there => (nomatch missing.symm.trans there)

/-- A look after a change finds no journal. -/
theorem journal?_dropJournal : file.dropJournal.side? journalEnding = none := by
  refine side?_eq_none ?_
  rw [sidePlace_of_terms terms_dropJournal]
  exact journalEntry?_dropJournal

/-- No journal is left beside a store that has ended a change. -/
theorem SettledPlain.dropJournal (settled : file.SettledPlain content) :
    file.dropJournal.SettledPlain content :=
  have store := entry?_dropJournal
  have first : file.dropJournal.firstPage = file.firstPage := firstPage_congr store
  { alert := by rw [handle_dropJournal, settled.alert]
    inDirectory := by
      rw [handle_dropJournal]
      exact settled.inDirectory
    whole := by rw [handle_dropJournal, settled.whole]
    notInLedger := by rw [handle_dropJournal, settled.notInLedger]
    free := by
      rw [lockFault_of_terms terms_dropJournal (sideEntry?_dropJournal (by decide)), settled.free]
    journal := leavesJournal_of_missing journal?_dropJournal
    ledger := by
      rw [side?_congr terms_dropJournal (sideEntry?_dropJournal (by decide)), settled.ledger]
    page := by rw [handle_dropJournal, first, settled.page]
    stamp := by
      rw [handle_dropJournal, first, isEmpty_congr store]
      exact settled.stamp
    sealing := by
      rw [handle_dropJournal, first]
      exact settled.sealing
    unledgered := by rw [first, settled.unledgered]
    judged := by
      rw [first, judge_congr store (by rw [handle_dropJournal]) (by rw [handle_dropJournal]),
        settled.judged] }

end Journal

/-- What the files hold after a change. -/
structure Changed (before after : StoreFile) : Prop where
  /-- The connection was given the same. -/
  terms : after.terms = before.terms
  /-- Relative paths start where they did. -/
  workingDirectory : after.tree.workingDirectory = before.tree.workingDirectory
  /-- Nothing has changed but the store and beside it. -/
  elsewhere : ∀ path, path ≠ before.handle.place.text → ¬ IsBeside before.handle.place path →
    after.tree.entries.find? path = before.tree.entries.find? path
  /-- The store has not become the ledger of another one, nor was it one. -/
  ledger : after.tree.ledgerAt? before.handle.place.text =
    before.tree.ledgerAt? before.handle.place.text

/-- After a change the rows of other stores are the same, unless they are beside the store. -/
theorem Changed.rowsAt (changed : Changed before after) {path : String}
    (other : path ≠ before.handle.place.text) (apart : ¬ IsBeside before.handle.place path) :
    after.tree.rowsAt path = before.tree.rowsAt path := by
  refine FileTree.rowsAt_congr (FileTree.headAt?_congr (changed.elsewhere _ other apart)) ?_
  by_cases same : path ++ ledgerEnding = before.handle.place.text
  · rw [same]
    exact changed.ledger
  · exact FileTree.ledgerAt?_congr (changed.elsewhere _ same (not_isBeside_ledger other))

section Write

/-- The file once a first page has been written to it. -/
def overwritten (file : StoreFile) (head : StoreHead) : StoreFile :=
  { tree := file.dropJournal.tree.put file.handle.place (.store head)
    handle := { file.handle with page := some head, stamp := head.stamp } }

/-- The store has the first page that was written to it. -/
theorem entry?_overwritten (whole : file.handle.parted = none) (head : StoreHead) :
    StoreFile.entry? (file.overwritten head) = some (.store head) := by
  rw [StoreFile.entry?, show (file.overwritten head).handle.parted = none from whole]
  exact FileTree.entry?_put_self _

/-- Writing to the store leaves all files beside it but the journal. -/
theorem sideEntry?_overwritten (long : other ≠ "")
    (apart : other ≠ journalEnding) (head : StoreHead) :
    (file.overwritten head).tree.entry? (file.sidePlace other) =
      file.tree.entry? (file.sidePlace other) :=
  (FileTree.entry?_put _ (Ne.symm (sidePlace_text_ne _ long))).trans
    (sideEntry?_dropJournal apart)

/-- A file that a head was written to is settled with the content of the head. -/
theorem SettledPlain.overwritten {new : StoreContent} {head : StoreHead}
    (settled : file.SettledPlain content) (holds : head.content = .ok new)
    (unledgered : head.ledgered = false) (unsealed : head.sealed = false) :
    (file.overwritten head).SettledPlain new :=
  have store := entry?_overwritten settled.whole head
  have first : (file.overwritten head).firstPage = head := by
    rw [firstPage, store]
  have paged : (file.overwritten head).isEmpty = false := by
    rw [isEmpty, store]
  have sameTerms : (file.overwritten head).terms = file.terms := rfl
  { alert := settled.alert
    inDirectory := settled.inDirectory
    whole := settled.whole
    notInLedger := settled.notInLedger
    free := by
      rw [lockFault_of_terms sameTerms
        (sideEntry?_overwritten (by decide) (by decide) head), settled.free]
    journal := by
      refine leavesJournal_of_missing (side?_eq_none ?_)
      rw [sidePlace_of_terms sameTerms]
      exact (FileTree.entry?_put _ (Ne.symm (sidePlace_text_ne _ (by decide)))).trans
        journalEntry?_dropJournal
    ledger := by
      rw [side?_congr sameTerms
        (sideEntry?_overwritten (by decide) (by decide) head), settled.ledger]
    page := by
      rw [first]
      rfl
    stamp := by
      rw [first]
      exact fun _ => rfl
    sealing := by
      rw [first, unsealed]
      exact fun forbids => absurd forbids Bool.false_ne_true
    unledgered := by rw [first, unledgered]
    judged := by
      rw [first, judge, show (file.overwritten head).handle.inLedger = false from settled.notInLedger,
        pageCount, paged, store]
      simpa using holds }

/-- The first page that a change begins with. -/
def basePage (file : StoreFile) : StoreHead :=
  if file.isEmpty && !file.handle.inLedger then .foreign .blank
  else file.handle.page.getD (.foreign .blank)

/-- The first page that a change writes, given how often the file has been changed before. -/
def nextHead (file : StoreFile) (changes : Nat) (content : StoreContent) : StoreHead :=
  file.basePage.rewritten (changes + 1)
    (if file.basePage.claimed > 0 then file.basePage.claimed else file.pageCount file.basePage) content

/-- What is put in the place of a store that has its place goes into the tree. -/
theorem putEntry_of_whole (whole : file.handle.parted = none) (entry : FileEntry) :
    file.putEntry entry = { file with tree := file.tree.put file.handle.place entry } := by
  rw [putEntry, whole]

/-- Writing to the file itself is refused if somebody holds on to the file. -/
theorem SettledPlain.run_write (settled : file.SettledPlain content)
    (writable : file.writeFault = none) (new : StoreContent) :
    (write new).run.run file =
      if file.handle.contended = true then (.error .locked, file.dropJournal)
      else (.ok (), file.overwritten (file.nextHead file.handle.stamp.changes new)) := by
  have outside : ¬ file.handle.inLedger = true := Bool.eq_false_iff.mp settled.notInLedger
  simp only [write, run_get_bind, writable, if_neg outside, run_set_bind]
  split
  · rfl
  · rw [run_set, putEntry_of_whole (by exact settled.whole)]
    rfl

/-- A change of a store without a ledger does not ask for one. -/
theorem SettledPlain.nextHead_ledgered (settled : file.SettledPlain content) (changes : Nat)
    (new : StoreContent) :
    (file.nextHead changes new).ledgered = false := by
  change StoreHead.ledgered (if (file.isEmpty && !file.handle.inLedger) = true then _ else _) = false
  split
  · rfl
  · rw [settled.page]
    exact settled.unledgered

/-- A connection that has written to the file is settled with what it has written. -/
theorem SettledPlain.settled_write (settled : file.SettledPlain content) (changes : Nat)
    (new : StoreContent) : (file.overwritten (file.nextHead changes new)).SettledPlain new :=
  settled.overwritten rfl (settled.nextHead_ledgered changes new) rfl

/-- The file once a first page has been written to its ledger. -/
def appended (file : StoreFile) (head : StoreHead) : StoreFile :=
  { tree := file.tree.put (file.sidePlace ledgerEnding) (.ledger head)
    handle := { file.handle with page := some head, ledgerMet := true } }

/-- Writing to a ledger that is open succeeds. -/
theorem SettledLedger.run_write (settled : file.SettledLedger content) (new : StoreContent) :
    (write new).run.run file =
      (.ok (), file.appended (file.nextHead file.basePage.stamp.changes new)) := by
  have writable : file.writeFault = none := if_pos settled.inLedger
  simp only [write, run_get_bind, writable, if_pos settled.inLedger, run_set]
  rfl

/-- Writing to the ledger leaves the store itself. -/
theorem entry?_appended (head : StoreHead) :
    StoreFile.entry? (file.appended head) = file.entry? :=
  entry?_congr rfl (FileTree.entry?_put _ (sidePlace_text_ne _ (by decide)))

/-- The ledger has the first page that was written to it. -/
theorem ledgerPage?_appended (head : StoreHead) : (file.appended head).ledgerPage? = some head := by
  have there : (file.appended head).tree.entry? ((file.appended head).sidePlace ledgerEnding) =
      some (.ledger head) := FileTree.entry?_put_self _
  rw [ledgerPage?, side?, there]
  rfl

/-- A ledger that a head was written to is settled with the content of the head. -/
theorem SettledLedger.appended {new : StoreContent} {head : StoreHead}
    (settled : file.SettledLedger content) (holds : head.content = .ok new)
    (unsealed : head.sealed = false) : (file.appended head).SettledLedger new :=
  have first : (file.appended head).current = head := by
    rw [current, ledgerPage?_appended]
    rfl
  have index : (file.appended head).tree.entry? (file.sidePlace ledgerIndexEnding) =
      file.tree.entry? (file.sidePlace ledgerIndexEnding) :=
    FileTree.entry?_put _ fun same => absurd (file.sidePlace_text_injective same) (by decide)
  { alert := settled.alert
    inDirectory := settled.inDirectory
    whole := settled.whole
    inLedger := settled.inLedger
    paged := (isEmpty_congr (entry?_appended head)).trans settled.paged
    joined := by
      refine settled.joined.imp id fun joined => ?_
      obtain ⟨free, there⟩ := joined
      refine ⟨?_, index.trans there⟩
      rw [sideBlocked, FileTree.isDirectoryAt] at free ⊢
      rw [show (file.appended head).tree.entry? ((file.appended head).sidePlace ledgerIndexEnding) =
        file.tree.entry? (file.sidePlace ledgerIndexEnding) from index]
      exact free
    page := by
      rw [first]
      rfl
    met := fun _ => rfl
    sealing := by
      rw [first, unsealed]
      exact fun forbids => absurd forbids Bool.false_ne_true
    judged := by
      rw [first, judge, show (file.appended head).handle.inLedger = true from settled.inLedger,
        show (file.appended head).handle.ledgerMet = true from rfl]
      exact holds }

end Write

section Frames

/-- A store that keeps its changes in the file is no ledger of another one: it would have no content. -/
theorem SettledPlain.ledgerAt?_place (settled : file.SettledPlain content) :
    file.tree.ledgerAt? file.handle.place.text = none := by
  rw [FileTree.ledgerAt?]
  split
  · rename_i head there
    have page : file.firstPage = .foreign .blank := by
      rw [firstPage, entry?, settled.whole, FileTree.entry?, there]
    have paged : file.isEmpty = false := by
      rw [isEmpty, entry?, settled.whole, FileTree.entry?, there]
    have holds := content_of_judge paged settled.judged
    rw [page] at holds
    cases holds
  · rfl

/-- Writing to the file touches the store and its journal. -/
theorem SettledPlain.changed_overwritten (settled : file.SettledPlain content) (head : StoreHead) :
    Changed file (file.overwritten head) where
  terms := rfl
  workingDirectory := workingDirectory_dropJournal
  elsewhere path other apart := by
    refine (Table.find?_insert ..).trans ((if_neg other).trans (find?_dropJournal fun same => ?_))
    rw [sidePlace_text settled.inDirectory] at same
    exact apart ⟨journalEnding, by decide, same⟩
  ledger := by
    have store : (file.overwritten head).tree.entries.find? file.handle.place.text =
        some (.store head) := FileTree.entry?_put_self _
    rw [settled.ledgerAt?_place, FileTree.ledgerAt?, store]

/-- Writing to the ledger touches the ledger only. -/
theorem SettledLedger.changed_appended (settled : file.SettledLedger content) (head : StoreHead) :
    Changed file (file.appended head) where
  terms := rfl
  workingDirectory := rfl
  elsewhere path _ apart := by
    refine (Table.find?_insert ..).trans (if_neg fun same => ?_)
    rw [sidePlace_text settled.inDirectory] at same
    exact apart ⟨ledgerEnding, by decide, same⟩
  ledger := FileTree.ledgerAt?_congr ((Table.find?_insert ..).trans
    (if_neg (sidePlace_text_ne _ (by decide))))

/-- A change that was begun and given up changes no rows. -/
theorem looked_dropJournal : Looked file file.dropJournal :=
  Looked.of_side (by decide) terms_dropJournal workingDirectory_dropJournal
    (fun _ apart => find?_dropJournal apart) (fun same => absurd same (by decide))

end Frames

/-- Nothing else has been read of a store without pages. -/
theorem Settled.eq_blank (settled : file.Settled content) (empty : file.isEmpty = true) :
    content = StoreContent.blank := by
  cases settled with
  | frozen found readOnly anew => exact anew empty
  | plain settled =>
    exact Except.ok.inj (settled.judged.symm.trans (judge_of_isEmpty empty settled.notInLedger))
  | ledger settled => cases settled.paged.symm.trans empty

/-- A change finds what has been read, though a store without pages begins anew. -/
theorem Settled.forChange (settled : file.Settled content) : file.forChange content = content := by
  unfold StoreFile.forChange
  split
  · rename_i fresh
    rw [Bool.and_eq_true] at fresh
    exact (settled.eq_blank fresh.1).symm
  · rfl

/-- Reading for a change is refused and leaves everything, or tells what has been read. -/
theorem Settled.run_readForChange (settled : file.Settled content) :
    (∃ fault, readForChange.run.run file = (.error fault, file)) ∨
      file.isReadOnly = false ∧ readForChange.run.run file = (.ok content, file) := by
  simp only [readForChange, run_get_bind]
  split
  · exact .inl ⟨_, rfl⟩
  · rename_i free
    rw [run_bind_of_ok settled.run_read, run_get_bind, if_neg free]
    split
    · split
      · exact .inl ⟨_, rfl⟩
      · rw [settled.forChange]
        exact .inr ⟨Bool.eq_false_iff.mpr free, rfl⟩
    · rw [settled.forChange]
      exact .inr ⟨Bool.eq_false_iff.mpr free, rfl⟩

/-- Giving up a change keeps what has been read. -/
theorem Settled.giveUp (settled : file.Settled content) : file.giveUp.Settled content := by
  cases settled with
  | frozen found readOnly anew =>
    unfold StoreFile.giveUp
    split
    · exact .frozen found readOnly anew
    · refine .frozen (by rw [handle_dropJournal, found]) (by rw [handle_dropJournal, readOnly]) ?_
      rw [isEmpty_congr entry?_dropJournal]
      exact anew
  | plain settled =>
    rw [StoreFile.giveUp, if_neg (Bool.eq_false_iff.mp settled.notInLedger)]
    exact .plain settled.dropJournal
  | ledger settled =>
    have same : file.giveUp = file := by
      rw [StoreFile.giveUp, if_pos settled.inLedger]
      change { file with handle := { file.handle with page := some file.current } } = file
      rw [← settled.page]
    rw [same]
    exact .ledger settled

/-- Writing to a file that may be written to fails and keeps what has been read, or leaves what was
written. -/
theorem Settled.run_write (settled : file.Settled content) (free : file.isReadOnly = false)
    (new : StoreContent) :
    (∃ fault after, (write new).run.run file = (.error fault, after) ∧ after.Settled content) ∨
      ∃ after, (write new).run.run file = (.ok (), after) ∧ after.Settled new := by
  rcases writable : file.writeFault with _ | fault
  · cases settled with
    | frozen found readOnly anew =>
      rw [isReadOnly, readOnly] at free
      cases free
    | plain settled =>
      have run := settled.run_write writable new
      split at run
      · exact .inl ⟨_, _, run, .plain settled.dropJournal⟩
      · exact .inr ⟨_, run, .plain (settled.settled_write _ new)⟩
    | ledger settled => exact .inr ⟨_, settled.run_write new, .ledger (settled.appended rfl rfl)⟩
  · refine .inl ⟨fault, file, ?_, settled⟩
    simp only [write, run_get_bind, writable, run_throw_bind]

/-- Whether somebody else holds on to the file is nothing that was read. -/
theorem Settled.of_contended (settled : file.Settled content) (contended : Bool) :
    ({ file with handle := { file.handle with contended := contended } } : StoreFile).Settled
      content := by
  cases settled with
  | frozen found readOnly anew => exact .frozen found readOnly anew
  | plain settled =>
    obtain ⟨alert, inDirectory, whole, notInLedger, free, journal, ledger, page, stamp, sealing,
      unledgered, judged⟩ := settled
    exact .plain ⟨alert, inDirectory, whole, notInLedger, free, journal, ledger, page, stamp, sealing,
      unledgered, judged⟩
  | ledger settled =>
    obtain ⟨alert, inDirectory, whole, inLedger, paged, joined, page, met, sealing, judged⟩ := settled
    exact .ledger ⟨alert, inDirectory, whole, inLedger, paged, joined, page, met, sealing, judged⟩

/-- The endings of all files beside a store that a connection looks for. -/
def nearEndings : List String := lockEnding :: sideEndings

/-- Nothing has changed of a store and the files beside it. -/
structure Untouched (before after : StoreFile) : Prop where
  /-- The connection knows what it knew. -/
  handle : after.handle = before.handle
  /-- The store is the same. -/
  store : after.tree.entry? before.handle.place = before.tree.entry? before.handle.place
  /-- So are the files beside it. -/
  beside : ∀ ending ∈ nearEndings,
    after.tree.entry? (before.sidePlace ending) = before.tree.entry? (before.sidePlace ending)

/-- What happens elsewhere among the files does not show. -/
theorem Settled.of_untouched (settled : before.Settled content) (untouched : Untouched before after) :
    after.Settled content := by
  have terms : after.terms = before.terms := by rw [terms, terms, untouched.handle]
  have store := entry?_congr terms untouched.store
  have side : ∀ ending ∈ nearEndings, after.side? ending = before.side? ending :=
    fun ending listed => side?_congr terms (untouched.beside ending listed)
  have first : after.firstPage = before.firstPage := firstPage_congr store
  have empty : after.isEmpty = before.isEmpty := isEmpty_congr store
  have judge : ∀ page, after.judge page = before.judge page :=
    judge_congr store (by rw [untouched.handle]) (by rw [untouched.handle])
  have ledger : after.ledgerPage? = before.ledgerPage? := by
    rw [ledgerPage?, ledgerPage?, side _ (by decide)]
  have current : after.current = before.current := by rw [current, StoreFile.current, ledger, first]
  cases settled with
  | frozen found readOnly anew =>
    refine .frozen (untouched.handle ▸ found) (untouched.handle ▸ readOnly) ?_
    rw [empty]
    exact anew
  | plain settled =>
    have lock := untouched.beside lockEnding (by decide)
    refine .plain ⟨?_, ?_, ?_, ?_, ?_, ?_, ?_, ?_, ?_, ?_, ?_, ?_⟩
    · rw [untouched.handle, settled.alert]
    · rw [untouched.handle]
      exact settled.inDirectory
    · rw [untouched.handle, settled.whole]
    · rw [untouched.handle, settled.notInLedger]
    · rw [lockFault_of_terms terms lock, settled.free]
    · exact leavesJournal_of_terms terms lock
        (fun _ there => side journalEnding (by decide) ▸ there) empty settled.journal
    · rw [side _ (by decide), settled.ledger]
    · rw [untouched.handle, first, settled.page]
    · rw [untouched.handle, first, empty]
      exact settled.stamp
    · rw [untouched.handle, first]
      exact settled.sealing
    · rw [first, settled.unledgered]
    · rw [first, judge, settled.judged]
  | ledger settled =>
    have index := untouched.beside ledgerIndexEnding (by decide)
    refine .ledger ⟨?_, ?_, ?_, ?_, ?_, ?_, ?_, ?_, ?_, ?_⟩
    · rw [untouched.handle, settled.alert]
    · rw [untouched.handle]
      exact settled.inDirectory
    · rw [untouched.handle, settled.whole]
    · rw [untouched.handle, settled.inLedger]
    · rw [empty, settled.paged]
    · rw [sideBlocked, FileTree.isDirectoryAt, sideName, untouched.handle,
        sidePlace_of_terms terms, index]
      exact settled.joined
    · rw [untouched.handle, current, settled.page]
    · rw [untouched.handle, ledger]
      exact settled.met
    · rw [untouched.handle, current]
      exact settled.sealing
    · rw [current, judge, settled.judged]

end LevelGraph.StoreFile
