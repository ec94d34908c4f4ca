import ShuleHub.Library.CirculationRuns

/-! What a return charges for the days after the date that its loan was issued for. -/

namespace ShuleHub.Library

open Transaction Snapshots

def returnTerms : LibraryOperation → Option (String × ℚ)
  | .returnCopy dto => some (dto.returnedOn, dto.dailyFineMinor.getD 0)
  | .returnByScan dto => some (dto.returnedOn, dto.dailyFineMinor.getD 0)
  | _ => none

def IsOverdue (parseDate : String → Option Int) (dueOn returnedOn : String) : Prop :=
  ∃ due ∈ parseDate dueOn, ∃ returned ∈ parseDate returnedOn, due < returned

def overdueFineMinor (parseDate : String → Option Int) (dueOn returnedOn : String) (dailyFineMinor : ℚ) : ℚ :=
  match parseDate dueOn, parseDate returnedOn with
  | some due, some returned =>
    if due < returned then ⌈((returned - due : Int) : ℚ) / (24 * 60 * 60 * 1000)⌉ * dailyFineMinor else 0
  | _, _ => 0

/-- The return records the amount, and a fine and a charge of it are added exactly when it is positive. -/
structure Fines (context : CallContext) (loan : LedgerRow) (amountMinor : ℚ) (db after : LibraryDb) : Prop where
  recorded : ∃ row ∈ after.ledger.rows, row.id = context.newLedgerId ∧
    ∃ returnedOn bookScanCode, row.metadata = .returned returnedOn amountMinor bookScanCode
  fined : if 0 < amountMinor then ∃ fine : LibraryFine, after.fines.rows = db.fines.rows ++ [fine] ∧
      fine.borrowerId = loan.borrowerId ∧ fine.copyId = loan.copyId ∧ (fine.amountMinor : ℚ) = amountMinor
    else after.fines = db.fines
  charged : after.charges = db.charges ++
    if 0 < amountMinor then [⟨loan.borrowerId, context.newFineId, amountMinor, "overdue"⟩] else []

section Returns

variable {parseDate : String → Option Int} {dueOn returnedOn : String} {dailyFineMinor : ℚ}

theorem overdueFineMinor_pos_iff (positive : 0 < dailyFineMinor) :
    0 < overdueFineMinor parseDate dueOn returnedOn dailyFineMinor ↔ IsOverdue parseDate dueOn returnedOn := by
  unfold overdueFineMinor IsOverdue
  split
  · next due returned dueFound returnedFound =>
    simp only [dueFound, returnedFound, Option.mem_def, Option.some.injEq, exists_eq_left']
    constructor
    · intro fined
      by_contra early
      rw [if_neg early] at fined
      exact lt_irrefl 0 fined
    · intro late
      rw [if_pos late]
      apply mul_pos _ positive
      have later : (0 : ℚ) < ((returned - due : Int) : ℚ) / (24 * 60 * 60 * 1000) := by
        apply div_pos _ (by norm_num)
        exact_mod_cast Int.sub_pos.mpr late
      exact_mod_cast Int.ceil_pos.mpr later
  · next unread =>
    constructor
    · intro fined
      exact absurd fined (lt_irrefl 0)
    · rintro ⟨due, dueFound, returned, returnedFound, -⟩
      exact absurd returnedFound (unread due returned dueFound)

theorem overdueFineMinor_eq_zero (early : ¬ IsOverdue parseDate dueOn returnedOn) :
    overdueFineMinor parseDate dueOn returnedOn dailyFineMinor = 0 := by
  unfold overdueFineMinor
  split
  · next due returned dueFound returnedFound =>
    rw [if_neg fun late => early ⟨due, dueFound, returned, returnedFound, late⟩]
  · rfl

variable {transaction : InFlight LibraryDb LibraryCall} {db : LibraryDb} {loan : LedgerRow}

theorem settle_unfined (found : returningLoan transaction db = some loan)
    (fresh : ∀ other ∈ db.ledger.rows, other.id ≠ transaction.request.context.newLedgerId) :
    ∃ returnedOn bookScanCode, (settle perform transaction db).1 = { db with
      copies := setAvailable loan.copyId db.copies
      ledger := db.ledger.insert (returnRow transaction.request.context loan returnedOn 0 bookScanCode) fresh } := by
  have answered := settle_returns found fresh
  revert answered
  apply settle_performed (fun settled => returnedLoan settled.2 = some loan.id → ∃ returnedOn bookScanCode,
    settled.1 = { db with
      copies := setAvailable loan.copyId db.copies
      ledger := db.ledger.insert (returnRow transaction.request.context loan returnedOn 0 bookScanCode) fresh })
  · intro error answered
    cases answered
  · intro response after performed answered
    cases performed with
    | issued moved => cases answered
    | returned other returnedOn bookScanCode otherFound _ =>
      obtain rfl : loan = other := Option.some.inj (found.symm.trans otherFound)
      exact ⟨returnedOn, bookScanCode, rfl⟩

end Returns

/-- A return of a loan, by its id or by a scanned code, fines the started days after its due date exactly when there are
none: the date is in the metadata of the row, and is read from a column that the table does not have. -/
theorem return_fines_overdue_days_iff {transaction : InFlight LibraryDb LibraryCall} {db : LibraryDb}
    {issuing : CallContext} {copyId borrowerId dueOn returnedOn : String} {scanCodes : Option (String × String)}
    {dailyFineMinor : ℚ}
    (found : returningLoan transaction db = some (issueRow issuing copyId borrowerId dueOn scanCodes))
    (_terms : returnTerms transaction.request.operation = some (returnedOn, dailyFineMinor))
    (fresh : ∀ other ∈ db.ledger.rows, other.id ≠ transaction.request.context.newLedgerId)
    (positive : 0 < dailyFineMinor) :
    Fines transaction.request.context (issueRow issuing copyId borrowerId dueOn scanCodes)
        (overdueFineMinor transaction.request.context.parseDate dueOn returnedOn dailyFineMinor)
        db (settle perform transaction db).1 ↔
      ¬ IsOverdue transaction.request.context.parseDate dueOn returnedOn := by
  obtain ⟨returnedAs, bookScanCode, settled⟩ := settle_unfined found fresh
  rw [settled]
  constructor
  · intro fines late
    have due := (overdueFineMinor_pos_iff positive).mpr late
    have charged := fines.charged
    rw [if_pos due] at charged
    exact absurd charged (by simp)
  · intro early
    rw [overdueFineMinor_eq_zero early]
    let row := returnRow transaction.request.context (issueRow issuing copyId borrowerId dueOn scanCodes) returnedAs 0
      bookScanCode
    have stored : row ∈ (db.ledger.insert row fresh).rows := KeyedTable.mem_insert.mpr (.inr rfl)
    refine ⟨⟨row, stored, rfl, returnedAs, bookScanCode, rfl⟩, ?_, ?_⟩
    · rw [if_neg (lt_irrefl 0)]
    · rw [if_neg (lt_irrefl 0), List.append_nil]

def lentCopy : LibraryDb := (settle perform ⟨lending 1 "loan-1", []⟩ oneCopy).1

def readDate (text : String) : Option Int :=
  if text = "2026-05-20" then some 1779235200000
  else if text = "2026-05-30" then some 1780099200000
  else if text = "2026-06-03" then some 1780444800000
  else none

def returnOn (returnedOn : String) : InFlight LibraryDb LibraryCall where
  request :=
    { context := { (bringingBack 2 "return-1" "loan-1").context with parseDate := readDate }
      operation := .returnCopy ⟨"loan-1", returnedOn, some 1000⟩ }
  snapshots := []

def lentLoan : LedgerRow :=
  issueRow (lending 1 "loan-1").context "copy-1" "borrower-1" "2026-05-30" (some ("ADM-001", "ACC-001"))

theorem timely_return_is_not_fined :
    Fines (returnOn "2026-05-20").request.context lentLoan
      (overdueFineMinor readDate "2026-05-30" "2026-05-20" 1000) lentCopy
      (settle perform (returnOn "2026-05-20") lentCopy).1 := by
  have found : returningLoan (returnOn "2026-05-20") lentCopy = some lentLoan := by decide +kernel
  refine (return_fines_overdue_days_iff found rfl (by decide +kernel) (by norm_num)).mpr ?_
  rintro ⟨due, dueFound, returned, returnedFound, late⟩
  obtain rfl := Option.some.inj dueFound
  obtain rfl := Option.some.inj returnedFound
  exact absurd late (by decide)

/-- A copy that is due on 30 May and comes back on 3 June is returned without the fine of four days. -/
theorem late_return_is_not_fined :
    overdueFineMinor readDate "2026-05-30" "2026-06-03" 1000 = 4000 ∧
      returningLoan (returnOn "2026-06-03") lentCopy = some lentLoan ∧
      ¬ Fines (returnOn "2026-06-03").request.context lentLoan
        (overdueFineMinor readDate "2026-05-30" "2026-06-03" 1000) lentCopy
        (settle perform (returnOn "2026-06-03") lentCopy).1 := by
  have four : overdueFineMinor readDate "2026-05-30" "2026-06-03" 1000 = 4000 := by decide +kernel
  refine ⟨four, by decide +kernel, fun fines => ?_⟩
  have charged := fines.charged
  rw [four, if_pos (by norm_num)] at charged
  exact absurd charged (by decide +kernel)

end ShuleHub.Library
