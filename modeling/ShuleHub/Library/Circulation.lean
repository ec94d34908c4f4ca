import ShuleHub.Runtime
import ShuleHub.Lib.KeyedTable
import ShuleHub.Lib.Snapshots
import Mathlib.Data.Rat.Floor

/-! The circulation of one school's library: copies that are issued and returned, by their ids or by scanned codes, and
the ledger of it. -/

namespace ShuleHub.Library

open Transaction Snapshots

inductive CopyStatus where
  | available
  | issued
  | reserved
  | lost
  | damaged
deriving DecidableEq

structure LibraryCopy where
  id : String
  catalogItemId : String
  accessionNumber : String
  barcode : Option String
  qrCode : Option String
  status : CopyStatus

structure LibraryBorrower where
  id : String
  subjectId : String
  scanCode : Option String

inductive LedgerAction where
  | issue
  | returned
  | reserve
deriving DecidableEq

inductive LedgerMetadata where
  | issue (dueOn : String) (scanCodes : Option (String × String))
  | returned (returnedOn : String) (overdueFineMinor : ℚ) (bookScanCode : Option String)
  | reserve (catalogItemId : String) (queuePosition : Nat)
deriving DecidableEq

structure LedgerRow where
  id : String
  copyId : Option String
  borrowerId : Option String
  action : LedgerAction
  metadata : LedgerMetadata
  createdAt : Int
deriving DecidableEq

/-- No column has this name, so `loan.due_on` is undefined: the date of an issue is in its metadata. -/
def LedgerRow.dueOn (_ : LedgerRow) : Option String := none

structure LibraryFine where
  id : String
  borrowerId : Option String
  copyId : Option String
  reason : String
  amountMinor : Int

structure LibraryFineCharge where
  borrowerId : Option String
  fineId : String
  amountMinor : ℚ
  reason : String
deriving DecidableEq

abbrev LibraryCopies := KeyedTable LibraryCopy String (·.id)

structure LibraryDb where
  copies : LibraryCopies
  borrowers : List LibraryBorrower
  ledger : KeyedTable LedgerRow String (·.id)
  fines : KeyedTable LibraryFine String (·.id)
  /-- The charges that billing has accepted. -/
  charges : List LibraryFineCharge

abbrev LibraryTransaction := Transaction LibraryDb Exception

abbrev LibrarySession := Transaction (Session LibraryDb) Exception

/-- What a call takes from outside: `NOW()`, the generated ids, `Date.parse` and the billing of a fine. -/
structure CallContext where
  now : Int
  newLedgerId : String
  newFineId : String
  parseDate : String → Option Int
  createLibraryFineCharge : LibraryFineCharge → Except Exception Unit

variable (context : CallContext) (scanCode : String) (loan : LedgerRow) (copyId : String) (db : LibraryDb)

structure IssueLibraryCopyDto where
  copyId : String
  borrowerId : String
  dueOn : String

structure IssueLibraryByScanDto where
  borrowerScanCode : String
  bookScanCode : String
  dueOn : String

structure ReturnLibraryCopyDto where
  loanId : String
  returnedOn : String
  dailyFineMinor : Option ℚ

structure ReturnLibraryByScanDto where
  bookScanCode : String
  returnedOn : String
  dailyFineMinor : Option ℚ

def isScannedCopy (copy : LibraryCopy) : Prop :=
  copy.id = scanCode ∨ copy.accessionNumber = scanCode ∨ copy.barcode = some scanCode ∨ copy.qrCode = some scanCode
deriving Decidable

def findCopyByScanCodeForUpdate : Option LibraryCopy :=
  db.copies.rows.find? fun copy => isScannedCopy scanCode copy

def isScannedBorrower (borrower : LibraryBorrower) : Prop :=
  borrower.id = scanCode ∨ borrower.subjectId = scanCode ∨ borrower.scanCode = some scanCode
deriving Decidable

def findBorrowerByScanCode : Option LibraryBorrower :=
  db.borrowers.find? fun borrower => isScannedBorrower scanCode borrower

def withStatus (status : CopyStatus) (copy : LibraryCopy) : LibraryCopy := { copy with status }

theorem withStatus_id (status : CopyStatus) (copy : LibraryCopy) : (withStatus status copy).id = copy.id := rfl

def setStatus (status : CopyStatus) (copies : LibraryCopies) : LibraryCopies :=
  copies.update copyId (withStatus status) (withStatus_id status)

def appendLedger (row : LedgerRow) : LibraryTransaction Unit := do
  let db ← current
  let ledger ← required (db.ledger.tryInsert row) (.database "library_circulation_ledger_pkey")
  write fun db => { db with ledger }

def findLoanForReturn (loanId : String) (db : LibraryDb) : Option LedgerRow :=
  (db.ledger.find loanId).filter (·.action = .issue)

def isReturnOf (issue returned : LedgerRow) : Prop :=
  returned.copyId = issue.copyId ∧ issue.borrowerId ≠ none ∧ returned.borrowerId = issue.borrowerId ∧
    returned.action = .returned ∧ issue.createdAt ≤ returned.createdAt
deriving Decidable

def isLoanOf (row : LedgerRow) : Prop := row.copyId = some copyId ∧ row.action = .issue
deriving Decidable

/-- The rows of a copy are written under its lock, which the caller holds, so they are read as they are. -/
def findActiveLoanByCopyId : Option LedgerRow :=
  ((db.ledger.rows.filter fun issue =>
    isLoanOf copyId issue ∧ ¬ ∃ returned ∈ db.ledger.rows, isReturnOf issue returned).insertionSort
      fun first second => second.createdAt ≤ first.createdAt).head?

def calculateFineMinor (parseDate : String → Option Int) (dueOn : Option String) (returnedOn : String)
    (dailyFineMinor : ℚ) : ℚ :=
  match dueOn.bind parseDate, parseDate returnedOn with
  | some due, some returned =>
    if returned ≤ due ∨ dailyFineMinor ≤ 0 then 0
    else ⌈((returned - due : Int) : ℚ) / (24 * 60 * 60 * 1000)⌉ * dailyFineMinor
  | _, _ => 0

def createFine (amountMinor : ℚ) : LibraryTransaction Unit := do
  failIf (amountMinor.den ≠ 1) (.database "invalid input syntax for type integer")
  let fine : LibraryFine :=
    { id := context.newFineId, borrowerId := loan.borrowerId, copyId := loan.copyId, reason := "overdue",
      amountMinor := amountMinor.num }
  let db ← current
  let fines ← required (db.fines.tryInsert fine) (.database "library_fines_pkey")
  write fun db => { db with fines }
  let charge : LibraryFineCharge := ⟨loan.borrowerId, fine.id, amountMinor, "overdue"⟩
  context.createLibraryFineCharge charge
  write fun db => { db with charges := db.charges ++ [charge] }

def issueRow (copyId borrowerId dueOn : String) (scanCodes : Option (String × String)) :
    LedgerRow where
  id := context.newLedgerId
  copyId := some copyId
  borrowerId := some borrowerId
  action := .issue
  metadata := .issue dueOn scanCodes
  createdAt := context.now

def issueAvailable (borrowerId dueOn : String) (scanCodes : Option (String × String))
    (found : Option LibraryCopy) (message : String) : LibraryTransaction String := do
  let copy ← required (found.filter (·.status = .available)) (.badRequest message)
  write fun db => { db with copies := setStatus copy.id .issued db.copies }
  appendLedger (issueRow context copy.id borrowerId dueOn scanCodes)
  return copy.id

def issueCopy (dto : IssueLibraryCopyDto) : LibraryTransaction String := do
  let db ← current
  issueAvailable context dto.borrowerId dto.dueOn none (db.copies.find dto.copyId)
    "Library copy is not available for issue"

def issueScanned (dto : IssueLibraryByScanDto) (borrower : LibraryBorrower) :
    LibraryTransaction String := do
  let db ← current
  issueAvailable context borrower.id dto.dueOn
    (some (JsText.trim dto.borrowerScanCode, JsText.trim dto.bookScanCode))
    (findCopyByScanCodeForUpdate (JsText.trim dto.bookScanCode) db)
    "Scanned library copy is not available for issue"

def issueByScan (dto : IssueLibraryByScanDto) : LibrarySession String := do
  let seen ← snapshot
  let borrower ← required (findBorrowerByScanCode (JsText.trim dto.borrowerScanCode) seen)
    (.badRequest "Library borrower was not found for the scanned ID")
  onTables (issueScanned context dto borrower)

def setAvailable (copyId : Option String) (copies : LibraryCopies) : LibraryCopies :=
  match copyId with
  | some copyId => setStatus copyId .available copies
  | none => copies

def returnRow (returnedOn : String) (fineAmount : ℚ)
    (bookScanCode : Option String) : LedgerRow where
  id := context.newLedgerId
  copyId := loan.copyId
  borrowerId := loan.borrowerId
  action := .returned
  metadata := .returned returnedOn fineAmount bookScanCode
  createdAt := context.now

def returnLoan (returnedOn : String) (dailyFineMinor : Option ℚ)
    (bookScanCode : Option String) : LibraryTransaction String := do
  write fun db => { db with copies := setAvailable loan.copyId db.copies }
  let fineAmount := calculateFineMinor context.parseDate loan.dueOn returnedOn (dailyFineMinor.getD 0)
  (if 0 < fineAmount then createFine context loan fineAmount else pure ())
  appendLedger (returnRow context loan returnedOn fineAmount bookScanCode)
  return loan.id

def returnCopy (dto : ReturnLibraryCopyDto) : LibrarySession String := do
  let seen ← snapshot
  let loan ← required (findLoanForReturn dto.loanId seen) (.badRequest "Library loan was not found")
  onTables (returnLoan context loan dto.returnedOn dto.dailyFineMinor none)

def returnByScan (dto : ReturnLibraryByScanDto) : LibraryTransaction String := do
  let db ← current
  let copy ← required (findCopyByScanCodeForUpdate (JsText.trim dto.bookScanCode) db)
    (.badRequest "Library copy was not found for the scanned code")
  let loan ← required (findActiveLoanByCopyId copy.id db)
    (.badRequest "Scanned library copy does not have an active loan")
  returnLoan context loan dto.returnedOn dto.dailyFineMinor (some (JsText.trim dto.bookScanCode))

inductive LibraryOperation where
  | issueCopy (dto : IssueLibraryCopyDto)
  | issueByScan (dto : IssueLibraryByScanDto)
  | returnCopy (dto : ReturnLibraryCopyDto)
  | returnByScan (dto : ReturnLibraryByScanDto)

structure LibraryCall where
  context : CallContext
  operation : LibraryOperation

/-- `issued` answers with the id of the copy, `returned` with that of the loan. -/
inductive LibraryResponse where
  | issued (copyId : String)
  | returned (loanId : String)
deriving DecidableEq

def perform (call : LibraryCall) : LibrarySession LibraryResponse :=
  match call.operation with
  | .issueCopy dto => do return .issued (← onTables (issueCopy call.context dto))
  | .issueByScan dto => do return .issued (← issueByScan call.context dto)
  | .returnCopy dto => do return .returned (← returnCopy call.context dto)
  | .returnByScan dto => do return .returned (← onTables (returnByScan call.context dto))

section Outcomes

variable {context : CallContext} {db after : LibraryDb} {loan : LedgerRow} {loanId copyId : String}

theorem appendLedger_ok {row : LedgerRow} {result : Unit} : (appendLedger row).run db = .ok (result, after) ↔
    ∃ fresh : ∀ other ∈ db.ledger.rows, other.id ≠ row.id, { db with ledger := db.ledger.insert row fresh } = after := by
  simp only [appendLedger, run_bind_ok, run_current_ok, run_required_ok, run_write_ok, KeyedTable.tryInsert_eq_some]
  constructor
  · rintro ⟨_, _, ⟨rfl, rfl⟩, _, _, ⟨⟨fresh, rfl⟩, rfl⟩, rfl⟩
    exact ⟨fresh, rfl⟩
  · rintro ⟨fresh, rfl⟩
    exact ⟨_, _, ⟨rfl, rfl⟩, _, _, ⟨⟨fresh, rfl⟩, rfl⟩, rfl⟩

structure Issued (context : CallContext) (copyId : String) (db after : LibraryDb) : Prop where
  written : ∃ copy borrowerId dueOn scanCodes fresh, copy ∈ db.copies.rows ∧ copy.status = .available ∧
    copy.id = copyId ∧ after = { db with
      copies := setStatus copy.id .issued db.copies
      ledger := db.ledger.insert (issueRow context copy.id borrowerId dueOn scanCodes) fresh }

theorem issueAvailable_ok {borrowerId dueOn message : String} {scanCodes : Option (String × String)}
    {found : Option LibraryCopy} (present : ∀ copy ∈ found, copy ∈ db.copies.rows)
    (ran : (issueAvailable context borrowerId dueOn scanCodes found message).run db = .ok (copyId, after)) :
    Issued context copyId db after := by
  simp only [issueAvailable, run_bind_ok, run_required_ok, run_write_ok, run_pure_ok, appendLedger_ok,
    Option.filter_eq_some_iff, decide_eq_true_eq] at ran
  obtain ⟨copy, _, ⟨⟨same, available⟩, rfl⟩, _, _, rfl, _, _, ⟨fresh, rfl⟩, rfl, rfl⟩ := ran
  exact ⟨copy, borrowerId, dueOn, scanCodes, fresh, present copy same, available, rfl, rfl⟩

theorem issueCopy_ok {dto : IssueLibraryCopyDto} (ran : (issueCopy context dto).run db = .ok (copyId, after)) :
    Issued context copyId db after := by
  simp only [issueCopy, run_bind_ok, run_current_ok] at ran
  obtain ⟨_, _, ⟨rfl, rfl⟩, issued⟩ := ran
  apply issueAvailable_ok _ issued
  intro copy found
  exact ((KeyedTable.find_eq_some _).mp found).1

theorem issueByScan_ok {dto : IssueLibraryByScanDto} {session later : Session LibraryDb}
    (ran : (issueByScan context dto).run session = .ok (copyId, later)) :
    Issued context copyId session.tables later.tables := by
  simp only [issueByScan, issueScanned, run_bind_ok, run_required_ok, run_onTables_ok, run_current_ok,
    snapshot_ok] at ran
  obtain ⟨_, _, ⟨-, rfl⟩, borrower, _, ⟨-, rfl⟩, _, ⟨_, _, ⟨rfl, rfl⟩, issued⟩, rfl⟩ := ran
  apply issueAvailable_ok _ issued
  intro copy found
  exact List.mem_of_find?_eq_some found

theorem calculateFineMinor_loan (parseDate : String → Option Int) (loan : LedgerRow) (returnedOn : String)
    (dailyFineMinor : ℚ) : calculateFineMinor parseDate loan.dueOn returnedOn dailyFineMinor = 0 := rfl

theorem returnLoan_ok {returnedOn : String} {dailyFineMinor : Option ℚ} {bookScanCode : Option String} :
    (returnLoan context loan returnedOn dailyFineMinor bookScanCode).run db = .ok (loanId, after) ↔
      loan.id = loanId ∧ ∃ fresh : ∀ other ∈ db.ledger.rows, other.id ≠ context.newLedgerId, after = { db with
        copies := setAvailable loan.copyId db.copies
        ledger := db.ledger.insert (returnRow context loan returnedOn 0 bookScanCode) fresh } := by
  simp only [returnLoan, calculateFineMinor_loan, lt_irrefl, if_false, run_bind_ok, run_write_ok, run_pure_ok,
    appendLedger_ok]
  constructor
  · rintro ⟨_, _, rfl, _, _, ⟨-, rfl⟩, _, _, ⟨fresh, rfl⟩, rfl, rfl⟩
    exact ⟨rfl, fresh, rfl⟩
  · rintro ⟨rfl, fresh, rfl⟩
    exact ⟨(), _, rfl, (), _, ⟨trivial, rfl⟩, (), _, ⟨fresh, rfl⟩, rfl, rfl⟩

end Outcomes

def returningLoan (transaction : InFlight LibraryDb LibraryCall) (db : LibraryDb) : Option LedgerRow :=
  match transaction.request.operation with
  | .returnCopy dto => findLoanForReturn dto.loanId (transaction.snapshots.headD db)
  | .returnByScan dto => (findCopyByScanCodeForUpdate (JsText.trim dto.bookScanCode) db).bind fun copy =>
    findActiveLoanByCopyId copy.id db
  | _ => none

inductive Performed (transaction : InFlight LibraryDb LibraryCall) (db : LibraryDb) :
    LibraryResponse → LibraryDb → Prop
  | issued {copyId : String} {after : LibraryDb} (moved : Issued transaction.request.context copyId db after) :
    Performed transaction db (.issued copyId) after
  | returned (loan : LedgerRow) (returnedOn : String) (bookScanCode : Option String)
    (found : returningLoan transaction db = some loan)
    (fresh : ∀ other ∈ db.ledger.rows, other.id ≠ transaction.request.context.newLedgerId) :
    Performed transaction db (.returned loan.id) { db with
      copies := setAvailable loan.copyId db.copies
      ledger := db.ledger.insert (returnRow transaction.request.context loan returnedOn 0 bookScanCode) fresh }

section Calls

variable {transaction : InFlight LibraryDb LibraryCall} {db : LibraryDb}

theorem perform_ok {response : LibraryResponse} {session : Session LibraryDb}
    (ran : (perform transaction.request).run (.begun db transaction.snapshots) = .ok (response, session)) :
    Performed transaction db response session.tables := by
  obtain ⟨⟨context, operation⟩, snapshots⟩ := transaction
  cases operation with
  | issueCopy dto =>
    simp only [perform, run_bind_ok, run_onTables_ok, run_pure_ok] at ran
    obtain ⟨_, _, ⟨_, issued, rfl⟩, rfl, rfl⟩ := ran
    exact .issued (issueCopy_ok issued)
  | issueByScan dto =>
    simp only [perform, run_bind_ok, run_pure_ok] at ran
    obtain ⟨_, _, issued, rfl, rfl⟩ := ran
    exact .issued (issueByScan_ok issued)
  | returnCopy dto =>
    simp only [perform, returnCopy, run_bind_ok, run_pure_ok, run_required_ok, snapshot_ok, run_onTables_ok,
      returnLoan_ok] at ran
    obtain ⟨_, _, ⟨_, _, ⟨rfl, rfl⟩, loan, _, ⟨found, rfl⟩, _, ⟨rfl, fresh, rfl⟩, rfl⟩, rfl, rfl⟩ := ran
    have returning : returningLoan ⟨⟨context, .returnCopy dto⟩, snapshots⟩ db = some loan := found
    exact .returned loan dto.returnedOn none returning fresh
  | returnByScan dto =>
    simp only [perform, returnByScan, run_bind_ok, run_pure_ok, run_required_ok, run_current_ok, run_onTables_ok,
      returnLoan_ok] at ran
    obtain ⟨_, _, ⟨_, ⟨_, _, ⟨rfl, rfl⟩, copy, _, ⟨scanned, rfl⟩, loan, _, ⟨found, rfl⟩, rfl, fresh, rfl⟩, rfl⟩, rfl,
      rfl⟩ := ran
    have returning : returningLoan ⟨⟨context, .returnByScan dto⟩, snapshots⟩ db = some loan := by
      exact Option.bind_eq_some_iff.mpr ⟨copy, scanned, found⟩
    exact .returned loan dto.returnedOn (some (JsText.trim dto.bookScanCode)) returning fresh

theorem settle_performed (motive : LibraryDb × Except Exception LibraryResponse → Prop)
    (fails : ∀ error, motive (db, .error error))
    (succeeds : ∀ response after, Performed transaction db response after → motive (after, .ok response)) :
    motive (settle perform transaction db) :=
  settle_cases motive fails fun response session ran => succeeds response session.tables (perform_ok ran)

end Calls

end ShuleHub.Library
