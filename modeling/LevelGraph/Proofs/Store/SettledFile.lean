import LevelGraph.Proofs.Store.SideFiles

/-!
# Store files that have been read

Once a connection has read its file, what it remembers is what the files say, and it reads the same
again for as long as nobody else changes the files. There are three ways to come to this: the file is
taken to be frozen, changes go to its ledger, or all is in the file itself. A connection that has not
looked at its file comes to it with the first read that succeeds, and the rows that it has read then are
those that the files hold.
-/

namespace LevelGraph.StoreFile

open LevelGraph.Action

variable {file before after : StoreFile} {content : StoreContent} {ending other : String}

section Places

/-- Files beside a store with different endings have different paths. -/
theorem sidePlace_text_injective (file : StoreFile)
    (same : (file.sidePlace ending).text = (file.sidePlace other).text) : ending = other := by
  simp only [sidePlace, sideName, Place.text, List.map_append, List.map_cons, List.map_nil,
    String.join_append, String.join_cons] at same
  simpa using same

/-- A file beside a store is not the store, even at the root of all files. -/
theorem sidePlace_text_ne (file : StoreFile) (long : ending ≠ "") :
    file.handle.place.text ≠ (file.sidePlace ending).text := by
  by_cases atRoot : file.handle.place = []
  · rw [sidePlace, atRoot]
    simp [Place.text]
  · rw [sidePlace_text atRoot]
    exact fun same => long (String.append_eq_left_iff.mp same.symm)

end Places

section Terms

variable (terms : after.terms = before.terms)

include terms

/-- Among the terms is the place of the file. -/
theorem place_of_terms : after.handle.place = before.handle.place := congrArg (·.1) terms

/-- Among them is how the file is guarded. -/
theorem guard_of_terms : after.handle.guard = before.handle.guard := congrArg (·.2.1) terms

/-- Among them is whether the guard is switched off. -/
theorem lockless_of_terms : after.handle.lockless = before.handle.lockless :=
  congrArg (·.2.2.1) terms

/-- Among them is whether the file is for reading only. -/
theorem readOnly_of_terms : after.handle.readOnly = before.handle.readOnly :=
  congrArg (·.2.2.2.1) terms

/-- Among them is what the file holds if it is not at its place any more. -/
theorem parted_of_terms : after.handle.parted = before.handle.parted :=
  congrArg (·.2.2.2.2.2) terms

/-- So the files beside the store have the same places. -/
theorem sidePlace_of_terms (ending : String) : after.sidePlace ending = before.sidePlace ending := by
  rw [sidePlace, sidePlace, sideName, sideName, place_of_terms terms]

/-- A lock depends on the entry that is made for it. -/
theorem lockFault_of_terms (lock : after.tree.entry? (before.sidePlace lockEnding) =
    before.tree.entry? (before.sidePlace lockEnding)) : after.lockFault = before.lockFault := by
  rw [lockFault, lockFault, sideName, sideName, guard_of_terms terms, lockless_of_terms terms,
    place_of_terms terms, sidePlace_of_terms terms, lock]

/-- Whether a journal stays depends on the journal, the lock, and whether there are pages. -/
theorem leavesJournal_of_terms
    (lock : after.tree.entry? (before.sidePlace lockEnding) =
      before.tree.entry? (before.sidePlace lockEnding))
    (journal : ∀ entry, after.side? journalEnding = some entry →
      before.side? journalEnding = some entry)
    (empty : after.isEmpty = before.isEmpty) (leaves : before.LeavesJournal) :
    after.LeavesJournal := by
  intro entry there
  have inUse : after.seemsInUse = before.seemsInUse := by
    simp only [seemsInUse, guard_of_terms terms, lockless_of_terms terms, sidePlace_of_terms terms,
      lock]
  have reserve : after.canReserve = before.canReserve := by
    simp only [canReserve, guard_of_terms terms, lockless_of_terms terms, readOnly_of_terms terms]
  rw [inUse, reserve, empty]
  exact leaves entry (journal entry there)

end Terms

/-- The first page as the ledger has it, or else as the file has it. -/
def current (file : StoreFile) : StoreHead := file.ledgerPage?.getD file.firstPage

/-- A connection knows the first page of its file, and nothing else has to be looked at. -/
structure SettledPlain (file : StoreFile) (content : StoreContent) : Prop where
  /-- The connection looks before it reads. -/
  alert : file.handle.watch = .alert
  /-- The file has its place in a directory. -/
  inDirectory : file.handle.place ≠ []
  /-- The file has not lost its place. -/
  whole : file.handle.parted = none
  /-- Changes go to the file. -/
  notInLedger : file.handle.inLedger = false
  /-- Nobody else has the store. -/
  free : file.lockFault = none
  /-- There is no journal to settle. -/
  journal : file.LeavesJournal
  /-- There is no ledger to find. -/
  ledger : file.side? ledgerEnding = none
  /-- The first page is known. -/
  page : file.handle.page = some file.firstPage
  /-- So is the stamp. -/
  stamp : file.isEmpty = false → file.handle.stamp = file.firstPage.stamp
  /-- Where the head forbids writing, the connection knows it. -/
  sealing : file.firstPage.sealed = true → file.handle.sealed = true
  /-- The head does not ask for a ledger. -/
  unledgered : file.firstPage.ledgered = false
  /-- This is what the first page tells. -/
  judged : file.judge file.firstPage = .ok content

/-- A connection knows the first page of its file as the ledger has it. -/
structure SettledLedger (file : StoreFile) (content : StoreContent) : Prop where
  /-- The connection looks before it reads. -/
  alert : file.handle.watch = .alert
  /-- The file has its place in a directory. -/
  inDirectory : file.handle.place ≠ []
  /-- The file has not lost its place. -/
  whole : file.handle.parted = none
  /-- Changes go to the ledger. -/
  inLedger : file.handle.inLedger = true
  /-- The file has pages. -/
  paged : file.isEmpty = false
  /-- There is an index of the ledger, unless nobody else may use the file. -/
  joined : file.handle.guard = .soleUse ∨ file.sideBlocked ledgerIndexEnding = false ∧
    file.tree.entry? (file.sidePlace ledgerIndexEnding) = some (.bytes ledgerIndexMark)
  /-- The first page is known. -/
  page : file.handle.page = some file.current
  /-- Changes in the ledger have been met. -/
  met : file.ledgerPage?.isSome = true → file.handle.ledgerMet = true
  /-- Where the head forbids writing, the connection knows it. -/
  sealing : file.current.sealed = true → file.handle.sealed = true
  /-- This is what the first page tells. -/
  judged : file.judge file.current = .ok content

/-- A connection has read its file, and what it has read is what the files say. -/
inductive Settled (file : StoreFile) (content : StoreContent) : Prop where
  /-- The file is taken to be frozen, and is not written to. -/
  | frozen (found : file.handle.watch = .trusting (some (.ok content)))
      (readOnly : file.handle.readOnly = true)
      (anew : file.isEmpty = true → content = StoreContent.blank)
  /-- All is in the file itself. -/
  | plain (settled : file.SettledPlain content)
  /-- Changes go to the ledger. -/
  | ledger (settled : file.SettledLedger content)

/-- A connection has not looked at its file yet. -/
structure Unread (file : StoreFile) : Prop where
  /-- The file has its place in a directory. -/
  inDirectory : file.handle.place ≠ []
  /-- The file has not lost its place. -/
  whole : file.handle.parted = none
  /-- No first page is known. -/
  page : file.handle.page = none
  /-- The ledger is not open. -/
  notInLedger : file.handle.inLedger = false
  /-- A file that is taken to be frozen is not written to. -/
  frozen : file.handle.watch ≠ .alert → file.handle.readOnly = true
  /-- Nothing has been found yet, unless the file has no pages. -/
  found : ∀ result, file.handle.watch = .trusting (some result) → result = .ok StoreContent.blank

section Parts

/-- The file once its first page has been read. -/
def recalled (file : StoreFile) : StoreFile :=
  { file with handle := { file.handle with
    stamp := if file.isEmpty then file.handle.stamp else file.firstPage.stamp
    page := some file.firstPage
    sealed := file.handle.sealed || file.firstPage.sealed } }

/-- A first page that is known is not read again. -/
theorem run_recallPage_of_page {page : StoreHead} (known : file.handle.page = some page) :
    recallPage.run.run file = (.ok page, file) := by
  simp only [recallPage, run_get_bind, known, run_pure]

/-- A first page that is not known is read from the file. -/
theorem run_recallPage_of_none (unknown : file.handle.page = none) :
    recallPage.run.run file = (.ok file.firstPage, file.recalled) := by
  simp only [recallPage, run_get_bind, unknown, recalled]
  by_cases empty : file.isEmpty = true
  · simp only [empty, if_true]
    rfl
  · simp only [empty]
    rfl

/-- Where no ledger is, none is opened. -/
theorem run_findLedger_of_none (missing : file.side? ledgerEnding = none) :
    findLedger.run.run file = (.ok (), file) := by
  simp only [findLedger, run_get_bind, missing, run_pure]

/-- A ledger that has been joined is joined again without a trace: its index is the one that would be
made. -/
theorem run_joinLedger_of_joined (joined : file.handle.guard = .soleUse ∨
    file.sideBlocked ledgerIndexEnding = false ∧
      file.tree.entry? (file.sidePlace ledgerIndexEnding) = some (.bytes ledgerIndexMark)) :
    joinLedger.run.run file = (.ok (), file) := by
  simp only [joinLedger, run_get_bind]
  rcases joined with sole | ⟨free, there⟩
  · rw [if_pos sole]
    rfl
  · split
    · rfl
    · rw [if_neg (Bool.eq_false_iff.mp free), FileTree.put_of_entry? there]
      rfl

/-- A plain read goes on from a first page that is known and asks for no ledger. -/
theorem run_readPlain_of_recalled {page : StoreHead}
    (recalled : recallPage.run.run before = (.ok page, file)) (unledgered : page.ledgered = false) :
    readPlain.run.run before = (file.judge page, file) := by
  rw [readPlain, run_bind_of_ok recalled]
  simp only [unledgered, Bool.false_eq_true, if_false, run_get_bind, run_lift]

/-- The file once the first page has been taken from the ledger. -/
def ledgered (file : StoreFile) : StoreFile :=
  { file with handle := { file.handle with
    page := some ((file.handle.page <|> file.ledgerPage?).getD file.firstPage)
    sealed := file.handle.sealed ||
      ((file.handle.page <|> file.ledgerPage?).getD file.firstPage).sealed
    ledgerMet := file.handle.ledgerMet || file.ledgerPage?.isSome } }

/-- A read through the ledger goes on from where the ledger has been joined. -/
theorem run_readLedgered_of_joined (joined : joinLedger.run.run before = (.ok (), file)) :
    readLedgered.run.run before =
      (file.ledgered.judge ((file.handle.page <|> file.ledgerPage?).getD file.firstPage),
        file.ledgered) := by
  rw [readLedgered, run_bind_of_ok joined, run_get_bind]
  simp only [keepPage, run_modify_bind, run_get_bind, run_lift]
  rfl

end Parts

/-- A first page that was forgotten is read again as it was. -/
theorem SettledPlain.recalled_forgotten (settled : file.SettledPlain content) :
    recalled { file with handle := { file.handle with page := none } } = file := by
  have stamp := settled.stamp
  have page := settled.page
  have sealing := settled.sealing
  change (⟨file.tree, { file.handle with
    stamp := if file.isEmpty then file.handle.stamp else file.firstPage.stamp
    page := some file.firstPage
    sealed := file.handle.sealed || file.firstPage.sealed }⟩ : StoreFile) = file
  have sameStamp : (if file.isEmpty then file.handle.stamp else file.firstPage.stamp) =
      file.handle.stamp := by
    split
    · rfl
    · rename_i paged
      exact (stamp (Bool.eq_false_iff.mpr paged)).symm
  have sameSeal : (file.handle.sealed || file.firstPage.sealed) = file.handle.sealed := by
    rcases known : file.firstPage.sealed with _ | _
    · exact Bool.or_false _
    · rw [sealing known]
      rfl
  rw [sameStamp, sameSeal, ← page]

/-- Reading again from the file tells the same and leaves everything. -/
theorem SettledPlain.run_read (settled : file.SettledPlain content) :
    read.run.run file = (.ok content, file) := by
  have recalls : ∃ between, file.refresh = between ∧ between.side? ledgerEnding = none ∧
      between.handle.inLedger = false ∧
      recallPage.run.run between = (.ok file.firstPage, file) := by
    unfold refresh
    split
    · refine ⟨_, rfl, settled.ledger, settled.notInLedger, ?_⟩
      rw [run_recallPage_of_none rfl, settled.recalled_forgotten]
      rfl
    · exact ⟨_, rfl, settled.ledger, settled.notInLedger, run_recallPage_of_page settled.page⟩
  obtain ⟨between, refreshed, missing, notInLedger, recalled⟩ := recalls
  simp only [read, run_get_bind, settled.alert, settled.notInLedger, settled.free,
    Bool.false_eq_true, if_false]
  rw [run_bind_of_ok (run_settleJournal_of_leavesJournal settled.journal), run_modify_bind, refreshed,
    run_bind_of_ok (run_findLedger_of_none missing), run_get_bind]
  simp only [notInLedger, Bool.false_eq_true, if_false]
  rw [run_readPlain_of_recalled recalled settled.unledgered, settled.judged]

/-- What is known of the ledger is what a further read would learn. -/
theorem SettledLedger.ledgered_eq (settled : file.SettledLedger content) : file.ledgered = file := by
  have page := settled.page
  have sealing := settled.sealing
  have met := settled.met
  have known : (file.handle.page <|> file.ledgerPage?).getD file.firstPage = file.current := by
    rw [page]
    rfl
  have sameSeal : (file.handle.sealed || file.current.sealed) = file.handle.sealed := by
    rcases forbids : file.current.sealed with _ | _
    · exact Bool.or_false _
    · rw [sealing forbids]
      rfl
  have sameMet : (file.handle.ledgerMet || file.ledgerPage?.isSome) = file.handle.ledgerMet := by
    rcases there : file.ledgerPage?.isSome with _ | _
    · exact Bool.or_false _
    · rw [met there]
      rfl
  rw [ledgered, known, sameSeal, sameMet, ← page]

/-- Reading again from the ledger tells the same and leaves everything. -/
theorem SettledLedger.run_read (settled : file.SettledLedger content) :
    read.run.run file = (.ok content, file) := by
  have known : (file.handle.page <|> file.ledgerPage?).getD file.firstPage = file.current := by
    rw [settled.page]
    rfl
  simp only [read, run_get_bind, settled.alert, settled.inLedger, if_true]
  rw [run_readLedgered_of_joined (run_joinLedger_of_joined settled.joined), settled.ledgered_eq, known,
    settled.judged]

/-- Reading again tells the same and leaves everything. -/
theorem Settled.run_read (settled : file.Settled content) :
    read.run.run file = (.ok content, file) := by
  cases settled with
  | frozen found readOnly anew =>
    simp only [read, run_get_bind, found]
    rfl
  | plain settled => exact settled.run_read
  | ledger settled => exact settled.run_read

section Entries

/-- Whether a store has pages depends on its entry. -/
theorem isEmpty_congr (same : after.entry? = before.entry?) : after.isEmpty = before.isEmpty := by
  rw [isEmpty, isEmpty, same]

/-- So does its first page. -/
theorem firstPage_congr (same : after.entry? = before.entry?) :
    after.firstPage = before.firstPage := by
  rw [firstPage, firstPage, same]

/-- What a page is taken for depends on the entry of the store and on what is known of the ledger. -/
theorem judge_congr (same : after.entry? = before.entry?)
    (inLedger : after.handle.inLedger = before.handle.inLedger)
    (met : after.handle.ledgerMet = before.handle.ledgerMet) (page : StoreHead) :
    after.judge page = before.judge page := by
  rw [judge, judge, pageCount, pageCount, isEmpty_congr same, same, inLedger, met]

/-- A look finds no file beside the store where no entry is. -/
theorem side?_eq_none (missing : file.tree.entry? (file.sidePlace ending) = none) :
    file.side? ending = none := by
  rw [side?, missing]
  rfl

/-- The store itself is not touched by a change of another entry. -/
theorem entry?_congr (terms : after.terms = before.terms)
    (same : after.tree.entry? before.handle.place = before.tree.entry? before.handle.place) :
    after.entry? = before.entry? := by
  rw [StoreFile.entry?, StoreFile.entry?, parted_of_terms terms, place_of_terms terms, same]

/-- What a look finds beside the store depends on the entry there. -/
theorem side?_congr (terms : after.terms = before.terms)
    (same : after.tree.entry? (before.sidePlace ending) = before.tree.entry? (before.sidePlace ending)) :
    after.side? ending = before.side? ending := by
  rw [side?, side?, sidePlace_of_terms terms, same]

/-- An index that is made leaves the store. -/
theorem entry?_withIndex : file.withIndex.entry? = file.entry? :=
  entry?_congr rfl (FileTree.entry?_put _ (sidePlace_text_ne _ (by decide)))

/-- A ledger that is opened leaves the store. -/
theorem entry?_withLedger :
    file.withLedger.entry? = file.entry? := by
  refine entry?_congr rfl ?_
  unfold withLedger
  split
  · rfl
  · exact FileTree.entry?_put _ (sidePlace_text_ne _ (by decide))

/-- A file beside the store may go without the store. -/
theorem entry?_removeSide (long : ending ≠ "") :
    StoreFile.entry? (file.removeSide ending) = file.entry? :=
  entry?_congr rfl (FileTree.entry?_remove (sidePlace_text_ne _ long))

/-- Removing one file beside the store leaves the others. -/
theorem sideEntry?_removeSide (apart : other ≠ ending) :
    (file.removeSide ending).tree.entry? (file.sidePlace other) =
      file.tree.entry? (file.sidePlace other) :=
  FileTree.entry?_remove fun same => apart (file.sidePlace_text_injective same)

/-- What the connection was given stays as well. -/
theorem terms_removeSide : (file.removeSide ending).terms = file.terms := rfl

/-- A lock stays when another file beside the store goes. -/
theorem lockFault_removeSide (apart : lockEnding ≠ ending) :
    (file.removeSide ending).lockFault = file.lockFault :=
  lockFault_of_terms terms_removeSide (sideEntry?_removeSide apart)

/-- A file that went is not found again. -/
theorem side?_removeSide_self : (file.removeSide ending).side? ending = none :=
  side?_eq_none FileTree.entry?_remove_self

end Entries

/-- A first read through the ledger. -/
theorem settledLedger_ledgered (alert : file.handle.watch = .alert)
    (inDirectory : file.handle.place ≠ []) (whole : file.handle.parted = none)
    (inLedger : file.handle.inLedger = true) (paged : file.isEmpty = false)
    (joined : file.handle.guard = .soleUse ∨ file.sideBlocked ledgerIndexEnding = false ∧
      file.tree.entry? (file.sidePlace ledgerIndexEnding) = some (.bytes ledgerIndexMark))
    (unknown : file.handle.page = none) (judged : file.ledgered.judge file.current = .ok content) :
    file.ledgered.SettledLedger content := by
  have learned : (file.handle.page <|> file.ledgerPage?).getD file.firstPage = file.current := by
    rw [unknown]
    rfl
  refine ⟨alert, inDirectory, whole, inLedger, paged, joined, ?_, ?_, ?_, judged⟩
  · exact congrArg some learned
  · intro there
    change (file.handle.ledgerMet || file.ledgerPage?.isSome) = true
    rw [show file.ledgerPage?.isSome = true from there, Bool.or_true]
  · intro forbids
    change (file.handle.sealed || _) = true
    rw [learned, show file.current.sealed = true from forbids, Bool.or_true]

/-- A first read through the ledger settles the connection, with an index made or with sole use of the
file. -/
theorem settledLedger_of_run (alert : before.handle.watch = .alert)
    (inDirectory : before.handle.place ≠ []) (whole : before.handle.parted = none)
    (inLedger : before.handle.inLedger = true) (paged : before.isEmpty = false)
    (unknown : before.handle.page = none)
    (run : readLedgered.run.run before = (.ok content, after)) : after.SettledLedger content := by
  have finish {file : StoreFile} (joins : joinLedger.run.run before = (.ok (), file))
      (handle : file.handle = before.handle) (stays : file.isEmpty = false)
      (joined : file.handle.guard = .soleUse ∨ file.sideBlocked ledgerIndexEnding = false ∧
        file.tree.entry? (file.sidePlace ledgerIndexEnding) = some (.bytes ledgerIndexMark)) :
      after.SettledLedger content := by
    have same := (run_readLedgered_of_joined joins).symm.trans run
    rw [handle, unknown] at same
    obtain ⟨judged, rfl⟩ := Prod.mk.inj same
    rw [← handle] at alert inDirectory whole inLedger unknown
    exact settledLedger_ledgered alert inDirectory whole inLedger stays joined unknown judged
  rcases run_joinLedger before with ⟨fault, joins⟩ | ⟨sole, joins⟩ | ⟨free, joins⟩
  · have failed := (run_bind_of_error joins).symm.trans run
    cases failed
  · exact finish joins rfl paged (.inl sole)
  · refine finish joins rfl ((isEmpty_congr entry?_withIndex).trans paged)
      (.inr ⟨?_, FileTree.entry?_put_self _⟩)
    rw [sideBlocked, Bool.or_eq_false_iff] at free ⊢
    refine ⟨free.1, ?_⟩
    change (FileTree.entry? (before.tree.put _ _) (before.sidePlace ledgerIndexEnding)).any _ = false
    rw [FileTree.entry?_put_self]
    rfl

/-- Fewer bytes than the mark are no store. -/
theorem ofBytes_of_short {bytes : List UInt8} (short : bytes.length < StoreHead.mark.length) :
    StoreHead.ofBytes bytes = StoreHead.foreign (StoreHead.stampOf bytes) := by
  rw [StoreHead.ofBytes, if_pos]
  intro same
  have length := congrArg List.length same
  rw [List.length_take] at length
  omega

/-- A store without pages has a first page that is no store's. -/
theorem firstPage_of_isEmpty (empty : file.isEmpty = true) :
    ∃ stamp, file.firstPage = StoreHead.foreign stamp := by
  simp only [isEmpty] at empty
  simp only [firstPage]
  generalize file.entry? = entry at empty ⊢
  rcases entry with _ | _ | content | head | head
  case some.bytes =>
    have short : content.length ≤ 1 := of_decide_eq_true empty
    exact ⟨_, ofBytes_of_short (Nat.lt_of_le_of_lt short (by decide))⟩
  case some.store => cases empty
  case some.ledger => cases empty
  all_goals exact ⟨_, rfl⟩

/-- A first plain read. -/
theorem settledPlain_recalled (alert : file.handle.watch = .alert)
    (inDirectory : file.handle.place ≠ []) (whole : file.handle.parted = none)
    (notInLedger : file.handle.inLedger = false) (free : file.lockFault = none)
    (journal : file.LeavesJournal) (ledger : file.side? ledgerEnding = none)
    (unledgered : file.firstPage.ledgered = false)
    (judged : file.recalled.judge file.firstPage = .ok content) :
    file.recalled.SettledPlain content := by
  refine ⟨alert, inDirectory, whole, notInLedger, free, ?_, ledger, rfl, ?_, ?_, unledgered, judged⟩
  · exact leavesJournal_of_terms rfl rfl (fun _ there => there) rfl journal
  · intro paged
    change (if file.isEmpty then file.handle.stamp else file.firstPage.stamp) = _
    rw [show file.isEmpty = false from paged]
    rfl
  · intro forbids
    change (file.handle.sealed || file.firstPage.sealed) = true
    rw [show file.firstPage.sealed = true from forbids, Bool.or_true]

/-- A first plain read settles the connection: in the file, or in the ledger where the head asks for
one. -/
theorem settled_of_run_readPlain (unread : before.Unread) (alert : before.handle.watch = .alert)
    (free : before.lockFault = none) (journal : before.LeavesJournal)
    (ledger : before.side? ledgerEnding = none)
    (run : readPlain.run.run before = (.ok content, after)) : after.Settled content := by
  rw [readPlain, run_bind_of_ok (run_recallPage_of_none unread.page)] at run
  by_cases asks : before.firstPage.ledgered = true
  · rw [if_pos asks] at run
    have paged : before.isEmpty = false := by
      refine Bool.eq_false_iff.mpr fun empty => ?_
      obtain ⟨stamp, foreign⟩ := firstPage_of_isEmpty empty
      rw [foreign] at asks
      cases asks
    rcases run_openLedger before.recalled with ⟨fault, opens⟩ | opens
    · rw [run_bind_of_error opens] at run
      cases run
    · rw [run_bind_of_ok opens] at run
      have opened : before.recalled.withLedger.isEmpty = before.recalled.isEmpty :=
        isEmpty_congr entry?_withLedger
      exact .ledger (@settledLedger_of_run before.recalled.withLedger _ _ alert unread.inDirectory
        unread.whole rfl (opened.trans paged) rfl run)
  · rw [if_neg asks, run_get_bind, run_lift] at run
    obtain ⟨judged, rfl⟩ := Prod.mk.inj run
    exact .plain (settledPlain_recalled alert unread.inDirectory unread.whole unread.notInLedger free
      journal ledger (Bool.eq_false_iff.mpr asks) judged)

/-- A file that has not been looked at stays so when one beside it goes. -/
theorem Unread.removeSide (unread : file.Unread) (ending : String) :
    (file.removeSide ending).Unread :=
  ⟨unread.inDirectory, unread.whole, unread.page, unread.notInLedger, unread.frozen, unread.found⟩

/-- There is nothing to forget where no first page is known. -/
theorem refresh_of_unknown (unknown : file.handle.page = none) : file.refresh = file := by
  rw [refresh, unknown]
  rfl

/-- The rest of a first read, once no journal is left to settle. -/
theorem settled_of_run_findLedger (unread : before.Unread) (alert : before.handle.watch = .alert)
    (free : before.lockFault = none) (journal : before.LeavesJournal)
    (run : (findLedger >>= fun _ => do
      if (← get).handle.inLedger then readLedgered else readPlain).run.run before =
        (.ok content, after)) : after.Settled content := by
  rcases run_findLedger before with
    ⟨missing, finds⟩ | ⟨empty, finds⟩ | ⟨fault, finds⟩ | ⟨paged, finds⟩
  · rw [run_bind_of_ok finds, run_get_bind, unread.notInLedger] at run
    exact settled_of_run_readPlain unread alert free journal missing run
  · rw [run_bind_of_ok finds, run_get_bind, (unread.removeSide _).notInLedger] at run
    have sameJournal : (before.removeSide ledgerEnding).side? journalEnding =
        before.side? journalEnding := side?_congr terms_removeSide (sideEntry?_removeSide (by decide))
    have sameEmpty : (before.removeSide ledgerEnding).isEmpty = before.isEmpty :=
      isEmpty_congr (entry?_removeSide (by decide))
    refine settled_of_run_readPlain (unread.removeSide _) alert
      ((lockFault_removeSide (by decide)).trans free) ?_ side?_removeSide_self run
    exact leavesJournal_of_terms terms_removeSide (sideEntry?_removeSide (by decide))
      (fun _ there => sameJournal ▸ there) sameEmpty journal
  · rw [run_bind_of_error finds] at run
    cases run
  · rw [run_bind_of_ok finds, run_get_bind] at run
    have opened : before.withLedger.isEmpty = before.isEmpty :=
      isEmpty_congr entry?_withLedger
    exact .ledger (@settledLedger_of_run before.withLedger _ _ alert unread.inDirectory unread.whole
      rfl (opened.trans paged) rfl run)

/-- The first read that succeeds settles a connection with its file. -/
theorem Unread.settled_of_run (unread : before.Unread)
    (run : read.run.run before = (.ok content, after)) : after.Settled content := by
  rcases watch : before.handle.watch with _ | found
  · simp only [read, run_get_bind, watch, unread.notInLedger, Bool.false_eq_true, if_false] at run
    rcases free : before.lockFault with _ | fault
    · simp only [free] at run
      rcases run_settleJournal before with ⟨leaves, settles⟩ | settles | ⟨fault, settles⟩
      · rw [run_bind_of_ok settles, run_modify_bind, refresh_of_unknown unread.page] at run
        exact settled_of_run_findLedger unread watch free leaves run
      · have removed := unread.removeSide journalEnding
        rw [run_bind_of_ok settles, run_modify_bind, refresh_of_unknown removed.page] at run
        refine settled_of_run_findLedger removed watch
          ((lockFault_removeSide (by decide)).trans free) ?_ run
        exact fun _ there => (nomatch side?_removeSide_self.symm.trans there)
      · rw [run_bind_of_error settles] at run
        cases run
    · simp only [free, run_throw_bind] at run
      cases run
  · have readOnly := unread.frozen (by rw [watch]; exact fun same => nomatch same)
    simp only [read, run_get_bind, watch] at run
    rcases found with _ | result
    · simp only [readTrusting, run_get_bind, run_set_bind, run_lift] at run
      obtain ⟨judged, rfl⟩ := Prod.mk.inj run
      refine .frozen (by rw [judged]) readOnly fun empty => ?_
      rw [if_pos (by exact empty)] at judged
      cases judged
    · simp only [readTrusting, run_lift] at run
      obtain ⟨judged, rfl⟩ := Prod.mk.inj run
      refine .frozen (by rw [watch, judged]) readOnly fun _ => ?_
      exact Except.ok.inj (judged.symm.trans (unread.found result watch))

section Rows

/-- The ledger beside a store, as it stands in the files. -/
theorem ledgerPage?_eq (inDirectory : file.handle.place ≠ []) :
    file.ledgerPage? = file.tree.ledgerAt? (file.handle.place.text ++ ledgerEnding) := by
  rw [← sidePlace_text inDirectory, FileTree.ledgerAt?, ledgerPage?, side?, FileTree.entry?]
  rcases file.tree.entries.find? (file.sidePlace ledgerEnding).text with _ | _ | content | head | head
  case some.bytes =>
    rcases content with _ | _
    · rfl
    · rfl
  all_goals rfl

/-- The first page of a store that has one. -/
theorem headAt?_eq (whole : file.handle.parted = none) (paged : file.isEmpty = false) :
    file.tree.headAt? file.handle.place.text = some file.firstPage := by
  simp only [isEmpty, entry?, whole, FileTree.entry?] at paged
  simp only [firstPage, entry?, whole, FileTree.entry?, FileTree.headAt?]
  generalize file.tree.entries.find? file.handle.place.text = entry at paged ⊢
  rcases entry with _ | _ | content | head | head
  case some.bytes => exact if_neg (of_decide_eq_false paged)
  case some.store => rfl
  case some.ledger => rfl
  all_goals cases paged

/-- The rows of a store with pages are those of its current content. -/
theorem rowsAt_of_paged (inDirectory : file.handle.place ≠ []) (whole : file.handle.parted = none)
    (paged : file.isEmpty = false) (holds : file.current.content = .ok content) :
    file.tree.rowsAt file.handle.place.text = content.database.rows := by
  have page : (file.ledgerPage?.getD file.firstPage).content = .ok content := holds
  rw [FileTree.rowsAt, headAt?_eq whole paged, ← ledgerPage?_eq inDirectory]
  dsimp only
  rw [page]

/-- Judging a page of a store that has pages lets its content through or finds a fault. -/
theorem content_of_judge {page : StoreHead} (paged : file.isEmpty = false)
    (judged : file.judge page = .ok content) : page.content = .ok content := by
  simp only [judge, paged] at judged
  split at judged
  · exact judged
  · split at judged
    · cases judged
    · exact judged

/-- A store without pages is read as blank, unless changes go to a ledger. -/
theorem judge_of_isEmpty (empty : file.isEmpty = true) (notInLedger : file.handle.inLedger = false) :
    file.judge file.firstPage = .ok StoreContent.blank := by
  obtain ⟨stamp, foreign⟩ := firstPage_of_isEmpty empty
  simp only [judge, foreign, notInLedger, empty]
  rfl

/-- Without a ledger there is no page in one. -/
theorem ledgerPage?_of_side? (missing : file.side? ledgerEnding = none) : file.ledgerPage? = none := by
  rw [ledgerPage?, missing]

/-- The rows that a connection has read are those that the files hold. -/
theorem SettledPlain.rowsAt (settled : file.SettledPlain content) :
    file.tree.rowsAt file.handle.place.text = content.database.rows := by
  rcases empty : file.isEmpty with _ | _
  · refine rowsAt_of_paged settled.inDirectory settled.whole empty ?_
    rw [current, ledgerPage?_of_side? settled.ledger]
    exact content_of_judge empty settled.judged
  · have same : StoreContent.blank = content :=
      Except.ok.inj ((judge_of_isEmpty empty settled.notInLedger).symm.trans settled.judged)
    rw [← same]
    exact FileTree.rowsAt_of_headAt?_eq_none
      (Option.isNone_iff_eq_none.mp ((isEmpty_eq settled.whole).symm.trans empty))

/-- The rows that a connection has read through the ledger are those that the files hold. -/
theorem SettledLedger.rowsAt (settled : file.SettledLedger content) :
    file.tree.rowsAt file.handle.place.text = content.database.rows :=
  rowsAt_of_paged settled.inDirectory settled.whole settled.paged
    (content_of_judge settled.paged settled.judged)

end Rows

end LevelGraph.StoreFile
