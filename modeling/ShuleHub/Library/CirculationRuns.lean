import ShuleHub.Library.Circulation

/-! The copies under issues and returns in any interleaving: when their status follows their loans. -/

namespace ShuleHub.Library

open Runs Transaction Snapshots KeyedTable

variable (copyId : String) (db : LibraryDb)

abbrev FinishedCirculation := Snapshots.Finished LibraryDb LibraryCall Exception LibraryResponse

variable (finished : List FinishedCirculation)

def returnedLoan (outcome : Except Exception LibraryResponse) : Option String :=
  match outcome with
  | .ok (.returned loanId) => some loanId
  | _ => none

def returnsOf : List String :=
  finished.filterMap fun done => returnedLoan done.outcome

def activeLoans : List LedgerRow :=
  db.ledger.rows.filter fun row => isLoanOf copyId row ∧ row.id ∉ returnsOf finished

structure Circulates : Prop where
  single : ∀ copy ∈ db.copies.rows, ∀ first ∈ activeLoans copy.id db finished,
    ∀ second ∈ activeLoans copy.id db finished, first = second
  status : ∀ copy ∈ db.copies.rows, copy.status = .issued ↔ activeLoans copy.id db finished ≠ []
  returnedOnce : (returnsOf finished).Nodup
  unfined : db.fines.rows = []

def isIssued (copies : LibraryCopies) : Prop :=
  ∃ copy ∈ copies.find copyId, copy.status = .issued
deriving Decidable

def lastLoan (rows : List LedgerRow) : Option LedgerRow :=
  (rows.filter fun row => isLoanOf copyId row).getLast?

def currentLoan : Option LedgerRow :=
  if isIssued copyId db.copies then lastLoan copyId db.ledger.rows else none

/-- A return that goes through is of the current loan of its copy. -/
def ReturnsCurrent (transaction : InFlight LibraryDb LibraryCall) (db : LibraryDb) : Prop :=
  ∀ loan ∈ returningLoan transaction db,
    (∀ other ∈ db.ledger.rows, other.id ≠ transaction.request.context.newLedgerId) →
      ∃ copyId ∈ loan.copyId, currentLoan copyId db = some loan
deriving Decidable

structure Shelved : Prop where
  copies : ∀ copy ∈ db.copies.rows, copy.status ≠ .issued
  ledger : ∀ row ∈ db.ledger.rows, row.action ≠ .issue
  fines : db.fines.rows = []

/-- Exactly the current loans have no return. -/
structure Tracked : Prop where
  loans : ∀ loan ∈ db.ledger.rows, loan.action = .issue → ∃ copyId, loan.copyId = some copyId ∧
    (loan.id ∉ returnsOf finished ↔ currentLoan copyId db = some loan)
  issued : ∀ copy ∈ db.copies.rows, copy.status = .issued → currentLoan copy.id db ≠ none
  known : ∀ loanId ∈ returnsOf finished, ∃ loan ∈ db.ledger.rows, loan.id = loanId
  returnedOnce : (returnsOf finished).Nodup
  unfined : db.fines.rows = []

section Loans

variable {db : LibraryDb} {finished : List FinishedCirculation} {copyId other : String} {row loan : LedgerRow}
  {copies : LibraryCopies} {rows : List LedgerRow} {copy : LibraryCopy} {done : FinishedCirculation}

theorem returnsOf_append (done : FinishedCirculation) :
    returnsOf (finished ++ [done]) = returnsOf finished ++ (returnedLoan done.outcome).toList := by
  rw [returnsOf, List.filterMap_append]
  congr 1

theorem lastLoan_append (copyId : String) (rows : List LedgerRow) (row : LedgerRow) :
    lastLoan copyId (rows ++ [row]) = if isLoanOf copyId row then some row else lastLoan copyId rows := by
  unfold lastLoan
  rw [List.filter_append, List.filter_singleton]
  by_cases own : isLoanOf copyId row <;> simp [own]

theorem lastLoan_mem (last : lastLoan copyId rows = some loan) : loan ∈ rows ∧ isLoanOf copyId loan := by
  have member := List.mem_filter.mp (List.mem_of_getLast? last)
  exact ⟨member.1, by simpa using member.2⟩

theorem currentLoan_mem (current : currentLoan copyId db = some loan) :
    loan ∈ db.ledger.rows ∧ isLoanOf copyId loan := by
  unfold currentLoan at current
  split at current
  · exact lastLoan_mem current
  · cases current

theorem isIssued_setStatus (copyId other : String) (status : CopyStatus) (copies : LibraryCopies) :
    isIssued other (setStatus copyId status copies) ↔
      if other = copyId then status = .issued ∧ copies.find copyId ≠ none else isIssued other copies := by
  unfold isIssued setStatus
  by_cases same : other = copyId
  · rw [same, find_update, if_pos rfl]
    cases copies.find copyId <;> simp [withStatus]
  · rw [find_update_other _ same, if_neg same]

theorem mem_setStatus {status : CopyStatus} {changed : LibraryCopy} :
    changed ∈ (setStatus copyId status copies).rows ↔
      (∃ copy ∈ copies.rows, copy.id = copyId ∧ withStatus status copy = changed) ∨
        changed ∈ copies.rows ∧ changed.id ≠ copyId :=
  mem_update

theorem isIssued_setAvailable (copyId : Option String) (other : String) (copies : LibraryCopies) :
    isIssued other (setAvailable copyId copies) ↔ copyId ≠ some other ∧ isIssued other copies := by
  cases copyId with
  | none => simp [setAvailable]
  | some copyId =>
    rw [setAvailable, isIssued_setStatus]
    by_cases same : other = copyId
    · simp [same]
    · simp [same, Ne.symm same]

theorem currentLoan_issue (member : copy ∈ db.copies.rows) (own : isLoanOf copy.id row)
    (fresh : ∀ old ∈ db.ledger.rows, old.id ≠ row.id) (other : String) :
    currentLoan other { db with
      copies := setStatus copy.id .issued db.copies, ledger := db.ledger.insert row fresh } =
        if other = copy.id then some row else currentLoan other db := by
  have present : db.copies.find copy.id ≠ none := by simp [db.copies.find_self member]
  have last : lastLoan other (db.ledger.insert row fresh).rows =
      if isLoanOf other row then some row else lastLoan other db.ledger.rows := lastLoan_append other _ row
  simp only [currentLoan, isIssued_setStatus, last]
  by_cases same : other = copy.id
  · simp [same, own, present]
  · have apart : ¬ isLoanOf other row := fun taken => same (Option.some.inj (taken.1.symm.trans own.1))
    simp [same, apart]

theorem currentLoan_return (returned : row.action = .returned) (fresh : ∀ old ∈ db.ledger.rows, old.id ≠ row.id)
    (copyId : Option String) (other : String) :
    currentLoan other { db with
      copies := setAvailable copyId db.copies, ledger := db.ledger.insert row fresh } =
        if copyId = some other then none else currentLoan other db := by
  have apart : ¬ isLoanOf other row := by
    intro taken
    rw [isLoanOf, returned] at taken
    cases taken.2
  have last : lastLoan other (db.ledger.insert row fresh).rows = lastLoan other db.ledger.rows :=
    (lastLoan_append other _ row).trans (if_neg apart)
  simp only [currentLoan, isIssued_setAvailable, last]
  by_cases same : copyId = some other <;> simp [same]

theorem Tracked.circulates (tracked : Tracked db finished) : Circulates db finished := by
  have active : ∀ copyId loan, loan ∈ activeLoans copyId db finished ↔ currentLoan copyId db = some loan := by
    intro copyId loan
    constructor
    · intro member
      obtain ⟨present, own, unreturned⟩ : loan ∈ db.ledger.rows ∧ isLoanOf copyId loan ∧ loan.id ∉ returnsOf finished := by
        simpa [activeLoans] using member
      obtain ⟨ownId, ofCopy, iff⟩ := tracked.loans loan present own.2
      obtain rfl : copyId = ownId := Option.some.inj (own.1.symm.trans ofCopy)
      exact iff.mp unreturned
    · intro current
      obtain ⟨present, own⟩ := currentLoan_mem current
      obtain ⟨ownId, ofCopy, iff⟩ := tracked.loans loan present own.2
      obtain rfl : copyId = ownId := Option.some.inj (own.1.symm.trans ofCopy)
      have unreturned := iff.mpr current
      simp [activeLoans, present, own, unreturned]
  refine ⟨?_, ?_, tracked.returnedOnce, tracked.unfined⟩
  · intro copy _ first firstActive second secondActive
    have current := ((active copy.id first).mp firstActive).symm.trans ((active copy.id second).mp secondActive)
    exact Option.some.inj current
  · intro copy member
    constructor
    · intro issued
      obtain ⟨loan, current⟩ := Option.ne_none_iff_exists'.mp (tracked.issued copy member issued)
      exact List.ne_nil_of_mem ((active copy.id loan).mpr current)
    · intro some_active
      obtain ⟨loan, member'⟩ := List.exists_mem_of_ne_nil _ some_active
      have current := (active copy.id loan).mp member'
      unfold currentLoan at current
      split at current
      · next issued =>
        obtain ⟨row, found, status⟩ := issued
        rw [db.copies.find_self member] at found
        cases found
        exact status
      · cases current

theorem Tracked.issue
    (tracked : Tracked db finished) (member : copy ∈ db.copies.rows) (available : copy.status = .available)
    (own : isLoanOf copy.id row) (fresh : ∀ old ∈ db.ledger.rows, old.id ≠ row.id)
    (issues : returnedLoan done.outcome = none) :
    Tracked { db with copies := setStatus copy.id .issued db.copies, ledger := db.ledger.insert row fresh }
      (finished ++ [done]) := by
  have returns : returnsOf (finished ++ [done]) = returnsOf finished := by
    rw [returnsOf_append, issues, Option.toList_none, List.append_nil]
  have unissued : ¬ isIssued copy.id db.copies := by
    rintro ⟨stored, found, issued⟩
    rw [db.copies.find_self member] at found
    cases found
    rw [available] at issued
    cases issued
  constructor
  · intro loan present isIssue
    rw [returns]
    have stored : loan ∈ (db.ledger.insert row fresh).rows := present
    rcases mem_insert.mp stored with old | rfl
    · obtain ⟨copyId, ofCopy, iff⟩ := tracked.loans loan old isIssue
      refine ⟨copyId, ofCopy, ?_⟩
      rw [currentLoan_issue member own fresh, iff]
      by_cases same : copyId = copy.id
      · have idle : currentLoan copyId db = none := by rw [currentLoan, same, if_neg unissued]
        rw [if_pos same, idle]
        constructor
        · intro current
          cases current
        · intro current
          exact absurd (congrArg LedgerRow.id (Option.some.inj current)).symm (fresh loan old)
      · rw [if_neg same]
    · refine ⟨copy.id, own.1, ?_⟩
      rw [currentLoan_issue member own fresh, if_pos rfl]
      refine iff_of_true (fun returned => ?_) rfl
      obtain ⟨old, present, same⟩ := tracked.known _ returned
      exact fresh old present same
  · intro changed present issued
    rw [currentLoan_issue member own fresh]
    split
    · simp
    · next differs =>
      rcases mem_setStatus.mp present with ⟨old, -, same, rfl⟩ | ⟨old, -⟩
      · exact absurd same differs
      · exact tracked.issued changed old issued
  · intro loanId returned
    rw [returns] at returned
    obtain ⟨loan, present, same⟩ := tracked.known loanId returned
    exact ⟨loan, mem_insert_of_mem fresh present, same⟩
  · rw [returns]
    exact tracked.returnedOnce
  · exact tracked.unfined

theorem Tracked.return {loan : LedgerRow} (tracked : Tracked db finished)
    (ofCopy : loan.copyId = some copyId) (current : currentLoan copyId db = some loan)
    (returned : row.action = .returned) (fresh : ∀ old ∈ db.ledger.rows, old.id ≠ row.id)
    (answers : returnedLoan done.outcome = some loan.id) :
    Tracked { db with copies := setAvailable loan.copyId db.copies, ledger := db.ledger.insert row fresh }
      (finished ++ [done]) := by
  have returns : returnsOf (finished ++ [done]) = returnsOf finished ++ [loan.id] := by
    rw [returnsOf_append, answers, Option.toList_some]
  obtain ⟨present, own⟩ := currentLoan_mem current
  obtain ⟨ownId, ofOwn, unreturned⟩ := tracked.loans loan present own.2
  obtain rfl : copyId = ownId := Option.some.inj (ofCopy.symm.trans ofOwn)
  constructor
  · intro other otherPresent isIssue
    have stored : other ∈ (db.ledger.insert row fresh).rows := otherPresent
    rcases mem_insert.mp stored with old | rfl
    · obtain ⟨otherId, ofOther, iff⟩ := tracked.loans other old isIssue
      refine ⟨otherId, ofOther, ?_⟩
      rw [returns, currentLoan_return returned fresh, List.mem_append, List.mem_singleton, not_or, iff, ofCopy]
      by_cases same : copyId = otherId
      · subst same
        rw [if_pos rfl, current]
        simp only [Option.some.injEq, reduceCtorEq, iff_false, not_and, not_not]
        rintro rfl
        rfl
      · rw [if_neg (fun taken => same (Option.some.inj taken)), and_iff_left]
        intro sameId
        obtain rfl := eq_of_key old present sameId
        exact same (Option.some.inj (ofCopy.symm.trans ofOther))
    · rw [returned] at isIssue
      cases isIssue
  · intro changed changedPresent issued
    rw [currentLoan_return returned fresh, ofCopy]
    rw [ofCopy] at changedPresent
    rcases mem_setStatus.mp changedPresent with ⟨old, -, same, rfl⟩ | ⟨old, differs⟩
    · cases issued
    · rw [if_neg (fun taken => differs (Option.some.inj taken).symm)]
      exact tracked.issued changed old issued
  · intro loanId listed
    rw [returns] at listed
    rcases List.mem_append.mp listed with old | new
    · obtain ⟨earlier, earlierPresent, same⟩ := tracked.known loanId old
      exact ⟨earlier, mem_insert_of_mem fresh earlierPresent, same⟩
    · exact ⟨loan, mem_insert_of_mem fresh present, (List.mem_singleton.mp new).symm⟩
  · rw [returns]
    refine List.nodup_append.mpr ⟨tracked.returnedOnce, List.nodup_singleton _, ?_⟩
    rintro used old last new rfl
    rw [List.mem_singleton.mp new] at old
    exact unreturned.mpr current old
  · exact tracked.unfined

theorem Tracked.fail (tracked : Tracked db finished)
    (fails : returnedLoan done.outcome = none) : Tracked db (finished ++ [done]) := by
  have returns : returnsOf (finished ++ [done]) = returnsOf finished := by
    rw [returnsOf_append, fails, Option.toList_none, List.append_nil]
  refine ⟨?_, tracked.issued, ?_, ?_, tracked.unfined⟩
  · rw [returns]
    exact tracked.loans
  · rw [returns]
    exact tracked.known
  · rw [returns]
    exact tracked.returnedOnce

theorem Shelved.tracked (shelved : Shelved db) : Tracked db [] where
  loans := fun loan member isIssue => absurd isIssue (shelved.ledger loan member)
  issued := fun copy member issued => absurd issued (shelved.copies copy member)
  known := by simp [returnsOf]
  returnedOnce := List.nodup_nil
  unfined := shelved.fines

end Loans

section Steps

variable {db seen : LibraryDb} {finished : List FinishedCirculation}
  {transaction : InFlight LibraryDb LibraryCall} {loan : LedgerRow}

def grows (before after : LibraryDb) : Prop := ∀ row ∈ before.ledger.rows, row ∈ after.ledger.rows

theorem settle_grows (transaction : InFlight LibraryDb LibraryCall) (before : grows seen db) :
    grows seen (settle perform transaction db).1 := by
  apply settle_performed (fun settled => grows seen settled.1)
  · intro _
    exact before
  · intro response after performed row member
    cases performed with
    | issued moved =>
      obtain ⟨_, _, _, _, fresh, -, -, -, rfl⟩ := moved.written
      exact mem_insert_of_mem fresh (before row member)
    | returned loan returnedOn bookScanCode found fresh => exact mem_insert_of_mem fresh (before row member)

def entryOf (transaction : InFlight LibraryDb LibraryCall) (db : LibraryDb)
    (settled : LibraryDb × Except Exception LibraryResponse) : FinishedCirculation :=
  ⟨transaction.request, db, settled.1, settled.2⟩

theorem settle_tracked (transaction : InFlight LibraryDb LibraryCall) (tracked : Tracked db finished)
    (current : ReturnsCurrent transaction db) :
    Tracked (settle perform transaction db).1
      (finished ++ [entryOf transaction db (settle perform transaction db)]) := by
  apply settle_performed (fun settled => Tracked settled.1 (finished ++ [entryOf transaction db settled]))
  · intro error
    exact tracked.fail rfl
  · intro response after performed
    cases performed with
    | issued moved =>
      obtain ⟨copy, borrowerId, dueOn, scanCodes, fresh, member, available, -, rfl⟩ := moved.written
      exact tracked.issue member available ⟨rfl, rfl⟩ fresh rfl
    | returned loan returnedOn bookScanCode found fresh =>
      obtain ⟨copyId, ofCopy, isCurrent⟩ := current loan found fresh
      exact tracked.return ofCopy isCurrent rfl fresh rfl

theorem returningLoan_mem
    (earlier : ∀ seen ∈ transaction.snapshots, grows seen db) (found : returningLoan transaction db = some loan) :
    loan ∈ db.ledger.rows ∧ loan.action = .issue := by
  unfold returningLoan at found
  split at found
  · next dto _ =>
    obtain ⟨stored, isIssue⟩ := Option.filter_eq_some_iff.mp found
    have present := ((find_eq_some _).mp stored).1
    refine ⟨?_, by simpa using isIssue⟩
    rcases (Session.begun db transaction.snapshots).head_source with same | member
    · rw [show transaction.snapshots.headD db = db from same] at present
      exact present
    · exact earlier _ member loan present
  · next dto _ =>
    obtain ⟨copy, -, active⟩ := Option.bind_eq_some_iff.mp found
    have member := (List.mem_insertionSort _).mp (List.mem_of_head? active)
    obtain ⟨present, own⟩ := List.mem_filter.mp member
    have isLoan : isLoanOf copy.id loan := (by simpa using own : isLoanOf copy.id loan ∧ _).1
    exact ⟨present, isLoan.2⟩
  · cases found

theorem settle_returns
    (found : returningLoan transaction db = some loan)
    (fresh : ∀ other ∈ db.ledger.rows, other.id ≠ transaction.request.context.newLedgerId) :
    returnedLoan (settle perform transaction db).2 = some loan.id := by
  obtain ⟨⟨context, operation⟩, snapshots⟩ := transaction
  cases operation with
  | issueCopy dto => cases found
  | issueByScan dto => cases found
  | returnCopy dto =>
    have ran : ∃ session, (perform ⟨context, .returnCopy dto⟩).run (.begun db snapshots) =
        .ok (.returned loan.id, session) := by
      simp only [perform, returnCopy, run_bind_ok, run_pure_ok, run_required_ok, snapshot_ok, run_onTables_ok,
        returnLoan_ok]
      exact ⟨_, loan.id, _, ⟨_, _, ⟨rfl, rfl⟩, loan, _, ⟨found, rfl⟩, _, ⟨rfl, fresh, rfl⟩, rfl⟩, rfl, rfl⟩
    obtain ⟨session, ran⟩ := ran
    rw [settle_of_ok ran]
    rfl
  | returnByScan dto =>
    obtain ⟨copy, scanned, active⟩ := Option.bind_eq_some_iff.mp found
    have ran : ∃ session, (perform ⟨context, .returnByScan dto⟩).run (.begun db snapshots) =
        .ok (.returned loan.id, session) := by
      simp only [perform, returnByScan, run_bind_ok, run_pure_ok, run_required_ok, run_current_ok, run_onTables_ok,
        returnLoan_ok]
      exact ⟨_, loan.id, _, ⟨_, ⟨_, _, ⟨rfl, rfl⟩, copy, _, ⟨scanned, rfl⟩, loan, _, ⟨active, rfl⟩, rfl, fresh, rfl⟩,
        rfl⟩, rfl, rfl⟩
    obtain ⟨session, ran⟩ := ran
    rw [settle_of_ok ran]
    rfl

theorem settle_returnsAgain (transaction : InFlight LibraryDb LibraryCall) (tracked : Tracked db finished)
    (earlier : ∀ seen ∈ transaction.snapshots, grows seen db) (outdated : ¬ ReturnsCurrent transaction db) :
    ¬ (returnsOf (finished ++ [entryOf transaction db (settle perform transaction db)])).Nodup := by
  simp only [ReturnsCurrent, not_forall, not_exists, not_and, exists_prop] at outdated
  obtain ⟨loan, found, fresh, outdated⟩ := outdated
  obtain ⟨present, isIssue⟩ := returningLoan_mem earlier found
  obtain ⟨copyId, ofCopy, unreturned⟩ := tracked.loans loan present isIssue
  have returned : loan.id ∈ returnsOf finished := by
    by_contra absent
    exact outdated copyId ofCopy (unreturned.mp absent)
  have answers : returnedLoan (entryOf transaction db (settle perform transaction db)).outcome = some loan.id :=
    settle_returns found fresh
  rw [returnsOf_append, answers, Option.toList_some]
  intro once
  exact (List.nodup_append.mp once).2.2 loan.id returned loan.id (List.mem_singleton_self _) rfl

end Steps

/-- The status of every copy follows its loans, and every loan is returned once, in exactly the runs whose returns are
all of the current loan of their copy. -/
theorem circulates_iff (start : LibraryDb) (events : List (Snapshots.Event LibraryCall)) (shelved : Shelved start) :
    Along (step perform) (fun world => Circulates world.db world.finished) (World.idle start) events ↔
      Meets (step perform) (Committing ReturnsCurrent) (World.idle start) events :=
  along_iff_grown grows Tracked Circulates (fun _ _ _ _ member => member)
    (fun transaction _ _ _ _ _ before => settle_grows transaction before)
    (fun transaction _ _ tracked _ current => settle_tracked transaction tracked current)
    (fun _ _ tracked => tracked.circulates)
    (fun transaction _ _ tracked earlier outdated circulates =>
      settle_returnsAgain transaction tracked earlier outdated circulates.returnedOnce) events shelved.tracked

def oneCopy : LibraryDb where
  copies := KeyedTable.empty.put
    { id := "copy-1", catalogItemId := "item-1", accessionNumber := "ACC-001", barcode := none, qrCode := none,
      status := .available }
  borrowers := [⟨"borrower-1", "student-1", some "ADM-001"⟩]
  ledger := .empty
  fines := .empty
  charges := []

def callAt (now : Int) (newLedgerId : String) (operation : LibraryOperation) : LibraryCall where
  context :=
    { now, newLedgerId, newFineId := "fine-1", parseDate := fun _ => none, createLibraryFineCharge := fun _ => .ok () }
  operation

def lending (now : Int) (newLedgerId : String) : LibraryCall :=
  callAt now newLedgerId (.issueByScan ⟨"ADM-001", "ACC-001", "2026-05-30"⟩)

def bringingBack (now : Int) (newLedgerId loanId : String) : LibraryCall :=
  callAt now newLedgerId (.returnCopy ⟨loanId, "2026-05-20", some 1000⟩)

theorem shelved_oneCopy : Shelved oneCopy := ⟨by decide +kernel, by decide +kernel, rfl⟩

theorem circulates_twice :
    Along (step perform) (fun world => Circulates world.db world.finished) (World.idle oneCopy)
      [.begin (lending 1 "loan-1"), .commit 0, .begin (bringingBack 2 "return-1" "loan-1"), .commit 0,
        .begin (lending 3 "loan-2"), .commit 0, .begin (bringingBack 4 "return-2" "loan-2"), .commit 0] :=
  (circulates_iff oneCopy _ shelved_oneCopy).mpr (by decide +kernel)

/-- The first loan is returned again while the copy is lent for the second time. -/
theorem old_loan_returned_again :
    ¬ ∀ (start : LibraryDb) (events : List (Snapshots.Event LibraryCall)), Shelved start →
      Along (step perform) (fun world => Circulates world.db world.finished) (World.idle start) events := by
  intro always
  have circulates := run_of_along (always oneCopy
    [.begin (lending 1 "loan-1"), .commit 0, .begin (bringingBack 2 "return-1" "loan-1"), .commit 0,
      .begin (lending 3 "loan-2"), .commit 0, .begin (bringingBack 4 "return-2" "loan-1"), .commit 0]
    shelved_oneCopy)
  exact absurd circulates.status (by decide +kernel)

end ShuleHub.Library
