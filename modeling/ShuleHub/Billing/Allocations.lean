import ShuleHub.Billing.ManualFeePaymentRuns
import ShuleHub.Lib.Totals
import ShuleHub.Payments.CompletedIntents

/-! How a payment is spread over the invoices of a student: the loop of `allocateClearedPayment` and the loop
of `allocateConfirmedPayment` fill the same balances in the same order. -/

namespace ShuleHub.Billing

open Transaction Invoices ManualFeePayments Payments Filling

variable (applications : List Application)

def spread (amount : Nat) (invoices : List InvoiceEntity) : List Application :=
  (fill InvoiceEntity.balance amount invoices).map fun (invoice, applied) => ⟨invoice, applied⟩

@[grind =] def settleAll (settle : Application → Transaction BillingDb Exception Unit) :
    List Application → Transaction BillingDb Exception Unit
  | [] => return ()
  | application :: applications => do
    settle application
    settleAll settle applications

theorem allocateRemaining_eq {check : InvoiceEntity → Except Exception Unit}
    (settle : Application → Transaction BillingDb Exception Unit) (amount : Nat) {invoices : List InvoiceEntity}
    (checked : ∀ invoice ∈ invoices, check invoice = .ok ()) :
    allocateRemaining check settle amount invoices = (do
      settleAll settle (spread amount invoices)
      return (spread amount invoices, excess InvoiceEntity.balance amount invoices)) := by
  have laws : LawfulMonad (Transaction BillingDb Exception) := lawfulMonad
  induction invoices generalizing amount with
  | nil => simp [allocateRemaining, spread, fill, settleAll, excess]
  | cons invoice invoices ih =>
    have passes := checked invoice List.mem_cons_self
    have ih := fun amount => ih amount fun other member => checked other (List.mem_cons_of_mem invoice member)
    rw [allocateRemaining]
    split
    · next spent => simp [spent, spread, fill_zero, settleAll, excess]
    · next left =>
      have lifted : (liftM (check invoice) : Transaction BillingDb Exception Unit) = pure () := by
        rw [passes]
        rfl
      have positive := Nat.pos_of_ne_zero left
      rw [lifted, pure_bind]
      split
      · next full =>
        rw [ih, spread, spread, fill_cons_empty full]
        simp [excess, full]
      · next room =>
        have rest : amount - min amount invoice.balance = amount - invoice.balance := by omega
        have beyond : amount - invoice.balance - (invoices.map InvoiceEntity.balance).sum =
            amount - (invoice.balance + (invoices.map InvoiceEntity.balance).sum) := Nat.sub_sub _ _ _
        simp only [ih, rest, spread, fill_cons_of_pos positive (Nat.pos_of_ne_zero room), List.map_cons, settleAll,
          excess, List.sum_cons, beyond, bind_assoc, pure_bind]

def received (invoice : InvoiceEntity) : Nat :=
  ((applications.filter fun application => application.invoice = invoice).map (·.applied)).sum

/-- The applications and the credit are the amount, given to the invoices in their order. -/
structure Spreads (amount : Nat) (invoices : List InvoiceEntity) (applications : List Application) (credit : Nat) :
    Prop where
  once : (applications.map (·.invoice)).Sublist invoices
  bounded : ∀ application ∈ applications, 0 < application.applied ∧ application.applied ≤ application.invoice.balance
  inOrder : invoices.Pairwise fun earlier later =>
    0 < received applications later → received applications earlier = earlier.balance
  onePartial : (invoices.filter fun invoice =>
    0 < received applications invoice ∧ received applications invoice < invoice.balance).length ≤ 1
  conserved : (applications.map (·.applied)).sum + credit = amount

theorem received_spread (amount : Nat) (invoices : List InvoiceEntity) (invoice : InvoiceEntity) :
    received (spread amount invoices) invoice = share (fill InvoiceEntity.balance amount invoices) invoice := by
  rw [received, spread, List.filter_map, List.map_map]
  rfl

theorem spreads (amount : Nat) {invoices : List InvoiceEntity} (distinct : invoices.Nodup) :
    Spreads amount invoices (spread amount invoices) (excess InvoiceEntity.balance amount invoices) where
  once := by
    rw [spread, List.map_map]
    exact fill_sublist amount invoices
  bounded := by
    intro application member
    obtain ⟨given, shared, rfl⟩ := List.mem_map.mp member
    exact (mem_fill shared).2
  inOrder := by
    simp only [received_spread]
    exact fill_inOrder distinct amount
  onePartial := by
    simp only [received_spread]
    exact fill_onePartial distinct amount
  conserved := by
    rw [spread, List.map_map]
    exact poured_fill amount invoices

def standing (invoice : InvoiceEntity) : Nat × InvoiceStatus := (invoice.amountPaidMinor, invoice.status)

def SameStandings (left right : BillingDb) : Prop :=
  ∀ id, (left.invoices.find id).map standing = (right.invoices.find id).map standing

def Settling (settle : Application → Transaction BillingDb Exception Unit) : Prop :=
  ∀ application db after, (settle application).run db = .ok ((), after) →
    ∀ id, (after.invoices.find id).map standing =
      if id = application.invoice.id then
        (db.invoices.find id).map fun _ => (application.nextPaid, application.nextStatus)
      else (db.invoices.find id).map standing

theorem standing_update {table : KeyedTable InvoiceEntity String InvoiceEntity.id} (application : Application)
    (change : InvoiceEntity → InvoiceEntity) (kept : ∀ invoice, (change invoice).id = invoice.id)
    (moved : ∀ invoice, standing (change invoice) = (application.nextPaid, application.nextStatus)) (id : String) :
    ((table.update application.invoice.id change kept).find id).map standing =
      if id = application.invoice.id then
        (table.find id).map fun _ => (application.nextPaid, application.nextStatus)
      else (table.find id).map standing := by
  split
  · next same =>
    subst same
    rw [KeyedTable.find_update, Option.map_map]
    exact congrArg (Option.map · _) (funext moved)
  · next differs => rw [KeyedTable.find_update_other _ differs]

theorem settleAll_standings {first second : Application → Transaction BillingDb Exception Unit}
    (settles : Settling first) (too : Settling second) {applications : List Application}
    {left right leftAfter rightAfter : BillingDb} (same : SameStandings left right)
    (ran : (settleAll first applications).run left = .ok ((), leftAfter))
    (ranToo : (settleAll second applications).run right = .ok ((), rightAfter)) :
    SameStandings leftAfter rightAfter := by
  induction applications generalizing left right with
  | nil =>
    simp only [settleAll, run_pure_ok, true_and] at ran ranToo
    rwa [← ran, ← ranToo]
  | cons application applications ih =>
    simp only [settleAll, run_bind_ok] at ran ranToo
    obtain ⟨_, leftMiddle, settled, rest⟩ := ran
    obtain ⟨_, rightMiddle, settledToo, restToo⟩ := ranToo
    refine ih (fun id => ?_) rest restToo
    have present : (left.invoices.find id).isSome = (right.invoices.find id).isSome := by
      have known := congrArg Option.isSome (same id)
      simpa using known
    rw [settles application left leftMiddle settled id, too application right rightMiddle settledToo id]
    split
    · cases foundLeft : left.invoices.find id <;> cases foundRight : right.invoices.find id <;>
        simp [foundLeft, foundRight] at present ⊢
    · exact same id

theorem settleAll_run {settle : Application → Transaction BillingDb Exception Unit} {applications : List Application}
    (settles : ∀ application ∈ applications, ∀ db, ∃ after, (settle application).run db = .ok ((), after))
    (db : BillingDb) : ∃ after, (settleAll settle applications).run db = .ok ((), after) := by
  induction applications generalizing db with
  | nil => exact ⟨db, rfl⟩
  | cons application applications ih =>
    obtain ⟨middle, settled⟩ := settles application List.mem_cons_self db
    obtain ⟨after, rest⟩ := ih (fun other member => settles other (List.mem_cons_of_mem application member)) middle
    refine ⟨after, ?_⟩
    rw [settleAll, run_bind, settled]
    exact rest

def spreadReceipt (runtime : BillingRuntime) (payment : ManualFeePaymentEntity) (invoices : List InvoiceEntity) :
    Transaction BillingDb Exception (List Application × Nat) := do
  let (applications, remaining) ← allocateRemaining (fun _ => return ()) (settleReceipt runtime payment)
    payment.amountMinor invoices
  creditOverage runtime payment remaining
  return (applications, remaining)

def spreadIntent (studentId : String) (paymentIntent : PaymentIntentEntity) (ledgerTransactionId : Option String)
    (idempotencyKey : String) (amountPaidMinor : Nat) (invoices : List InvoiceEntity) :
    Transaction BillingDb Exception (List Application × Nat) := do
  let (applications, remaining) ← allocateRemaining (assertInvoiceBelongsToStudent studentId)
    (settleStudentFee studentId paymentIntent ledgerTransactionId idempotencyKey) amountPaidMinor invoices
  if 0 < remaining then
    createStudentFeeCredit studentId (paymentIntent.userId <|> readStringMetadata paymentIntent.metadata "parent_user_id")
      paymentIntent.id ledgerTransactionId remaining idempotencyKey
  return (applications, remaining)

def receiptAllocations (credit : Nat) : Nat :=
  applications.length + if 0 < credit then 1 else 0

def intentAllocations (credit : Nat) : StudentFeePaymentAllocationResult where
  duplicate := false
  allocatedAmountMinor := (applications.map (·.applied)).sum
  creditAmountMinor := credit
  invoiceAllocations := applications.map fun application => (application.invoice.id, application.applied)

theorem allocateClearedPayment_eq (runtime : BillingRuntime) (locked : String → Bool) (payment : ManualFeePaymentEntity) :
    allocateClearedPayment runtime locked payment = (do
      let db ← current
      let invoices ← resolveInvoicesForAllocation locked payment db
      let (applications, remaining) ← spreadReceipt runtime payment invoices
      return receiptAllocations applications remaining) := by
  have laws : LawfulMonad (Transaction BillingDb Exception) := lawfulMonad
  simp only [allocateClearedPayment, spreadReceipt, receiptAllocations, bind_assoc, pure_bind]

theorem allocateConfirmedPayment_run {tenantId studentId : String} {locked : String → Bool}
    {paymentIntent : PaymentIntentEntity} {amountPaidMinor : Nat} {ledgerTransactionId : Option String} {db : BillingDb}
    (student : readString paymentIntent.studentId = some studentId)
    (fresh : ¬ ∃ existing ∈ db.studentAllocations, existing.idempotencyKey =
      buildAllocationIdempotencyKey tenantId paymentIntent.id
        (readString ledgerTransactionId <|> readString paymentIntent.ledgerTransactionId)) :
    (allocateConfirmedPayment tenantId locked paymentIntent amountPaidMinor ledgerTransactionId).run db =
      (do
        let (applications, remaining) ← spreadIntent studentId paymentIntent
          (readString ledgerTransactionId <|> readString paymentIntent.ledgerTransactionId)
          (buildAllocationIdempotencyKey tenantId paymentIntent.id
            (readString ledgerTransactionId <|> readString paymentIntent.ledgerTransactionId)) amountPaidMinor
          (findStudentFeeInvoicesForAllocation db locked studentId (resolveExplicitInvoiceId paymentIntent))
        return intentAllocations applications remaining).run db := by
  have laws : LawfulMonad (Transaction BillingDb Exception) := lawfulMonad
  simp only [allocateConfirmedPayment, student, spreadIntent, intentAllocations, bind_assoc]
  rw [run_bind, run_current]
  simp only [fresh, if_false]
  refine congrArg (fun next => (allocateRemaining _ _ _ _ >>= next).run db) (funext fun outcome => ?_)
  split <;> simp only [bind_assoc, pure_bind]

theorem createAllocation_run {runtime : BillingRuntime} (stored : runtime.infersAllocationIndex = true)
    (manualPaymentId : String) (invoiceId : Option String) {studentId : Option String}
    (uuids : ∀ id ∈ studentId, (runtime.uuid id).isSome) (allocationType : ManualFeePaymentAllocationType)
    {amountMinor : Nat} (positive : 0 < amountMinor) (db : BillingDb) :
    ∃ after, (createAllocation runtime manualPaymentId invoiceId studentId allocationType amountMinor).run db =
      .ok ((), after) := by
  obtain ⟨parsed, reads⟩ : ∃ parsed, parseUuid runtime studentId = .ok parsed := by
    cases studentId with
    | none => exact ⟨none, rfl⟩
    | some id =>
      obtain ⟨uuid, reads⟩ := Option.isSome_iff_exists.mp (uuids id rfl)
      refine ⟨some uuid, ?_⟩
      rw [parseUuid, reads]
      rfl
  simp only [createAllocation, run_bind, run_failIf, run_lift, run_current, stored, reads, Except.map, positive,
    Bool.true_eq_false, if_false, dite_true]
  split
  · exact ⟨db, rfl⟩
  · exact ⟨_, rfl⟩

theorem settleReceipt_settling (runtime : BillingRuntime) (payment : ManualFeePaymentEntity) :
    Settling (settleReceipt runtime payment) := by
  intro application db after succeeded id
  simp only [settleReceipt, applyManualFeeInvoicePayment, updateInvoice, run_bind_ok, run_write_ok] at succeeded
  obtain ⟨_, _, rfl, allocated⟩ := succeeded
  obtain ⟨_, rfl⟩ := createAllocation_ok allocated
  exact standing_update application (payManually application.applied application.nextPaid application.nextStatus)
    (fun _ => rfl) (fun _ => rfl) id

theorem settleStudentFee_settling (studentId : String) (paymentIntent : PaymentIntentEntity)
    (ledgerTransactionId : Option String) (idempotencyKey : String) :
    Settling (settleStudentFee studentId paymentIntent ledgerTransactionId idempotencyKey) := by
  intro application db after succeeded id
  rw [settleStudentFee_invoices succeeded]
  exact standing_update application (payFromIntent paymentIntent.id application.nextPaid application.nextStatus)
    (fun _ => rfl) (fun _ => rfl) id

theorem settleStudentFee_run (studentId : String) (paymentIntent : PaymentIntentEntity)
    (ledgerTransactionId : Option String) (idempotencyKey : String) {application : Application}
    (positive : 0 < application.applied) (db : BillingDb) :
    ∃ after, (settleStudentFee studentId paymentIntent ledgerTransactionId idempotencyKey application).run db =
      .ok ((), after) := by
  simp only [settleStudentFee, applyStudentFeeInvoicePayment, updateInvoice, createStudentFeePaymentAllocation,
    run_bind, run_write, run_current, positive, dite_true]
  split
  · exact ⟨_, rfl⟩
  · exact ⟨_, rfl⟩

theorem createStudentFeeCredit_run (studentId : String) (parentUserId : Option String) (paymentIntentId : String)
    (ledgerTransactionId : Option String) {amountMinor : Nat} (positive : 0 < amountMinor) (idempotencyKey : String)
    (db : BillingDb) :
    ∃ after, (createStudentFeeCredit studentId parentUserId paymentIntentId ledgerTransactionId amountMinor
      idempotencyKey).run db = .ok ((), after) := by
  simp only [createStudentFeeCredit, run_bind, run_current, positive, dite_true]
  split
  · exact ⟨_, rfl⟩
  · exact ⟨_, rfl⟩

/-- From the tables, `confirmed` spreads the amount over the invoices, and `cleared` does it alike: it does
nothing else when it succeeds, and it does succeed when its allocations can be stored. -/
def SpreadAlike {Cleared Confirmed : Type} (amount : Nat) (invoices : List InvoiceEntity) (stored : Prop)
    (cleared : Transaction BillingDb Exception Cleared) (confirmed : Transaction BillingDb Exception Confirmed)
    (reportCleared : List Application → Nat → Cleared) (reportConfirmed : List Application → Nat → Confirmed)
    (db : BillingDb) : Prop :=
  ∃ applications credit after, Spreads amount invoices applications credit ∧
    confirmed.run db = .ok (reportConfirmed applications credit, after) ∧
    (∀ report other, cleared.run db = .ok (report, other) →
      report = reportCleared applications credit ∧ SameStandings other after) ∧
    (stored → ∃ other, cleared.run db = .ok (reportCleared applications credit, other))

section Spreading

variable {runtime : BillingRuntime} {receipt : ManualFeePaymentEntity} {studentId : String}
  {invoices : List InvoiceEntity}

theorem spreadReceipt_ok {db after : BillingDb} {result : List Application × Nat}
    (succeeded : (spreadReceipt runtime receipt invoices).run db = .ok (result, after)) :
    result = (spread receipt.amountMinor invoices, excess InvoiceEntity.balance receipt.amountMinor invoices) ∧
      ∃ middle, (settleAll (settleReceipt runtime receipt) (spread receipt.amountMinor invoices)).run db =
        .ok ((), middle) ∧ after.invoices = middle.invoices := by
  rw [spreadReceipt, @allocateRemaining_eq (fun _ => pure ()) _ _ _ fun _ _ => rfl] at succeeded
  simp only [run_bind_ok, run_pure_ok, creditOverage, run_ite_ok] at succeeded
  obtain ⟨_, middle, ⟨_, _, settled, rfl, rfl⟩, _, _, credited, rfl, rfl⟩ := succeeded
  refine ⟨rfl, _, settled, ?_⟩
  rcases credited with ⟨-, stored⟩ | ⟨-, -, same⟩
  · obtain ⟨_, rfl⟩ := createAllocation_ok stored
    rfl
  · rw [same]

theorem spreadReceipt_run (stored : runtime.infersAllocationIndex = true ∧ (runtime.uuid studentId).isSome)
    (ofStudent : ∀ id ∈ receipt.studentId, id = studentId)
    (owned : ∀ invoice ∈ invoices, invoice.studentId = some studentId) (db : BillingDb) :
    ∃ after, (spreadReceipt runtime receipt invoices).run db =
      .ok ((spread receipt.amountMinor invoices, excess InvoiceEntity.balance receipt.amountMinor invoices), after) := by
  obtain ⟨middle, settled⟩ := @settleAll_run (settleReceipt runtime receipt) (spread receipt.amountMinor invoices) (by
    intro application member db
    obtain ⟨given, shared, rfl⟩ := List.mem_map.mp member
    obtain ⟨among, positive, -⟩ := mem_fill shared
    simp only [settleReceipt, applyManualFeeInvoicePayment, updateInvoice, run_bind, run_write]
    refine createAllocation_run stored.1 _ _ (fun id named => ?_) _ positive _
    have same : id = studentId := by
      cases known : receipt.studentId with
      | none => simpa [known, owned given.1 among, eq_comm] using named
      | some own =>
        have known' : own = id := by simpa [known] using named
        exact known' ▸ ofStudent own known
    rw [same]
    exact stored.2) db
  rw [spreadReceipt, @allocateRemaining_eq (fun _ => pure ()) _ _ _ fun _ _ => rfl]
  by_cases left : 0 < excess InvoiceEntity.balance receipt.amountMinor invoices
  · obtain ⟨after, credited⟩ := createAllocation_run stored.1 receipt.id none
      (fun id named => (ofStudent id named).symm ▸ stored.2) .credit left middle
    refine ⟨after, ?_⟩
    simp only [run_bind, settled, run_pure, creditOverage, left, if_true, credited]
  · refine ⟨middle, ?_⟩
    simp only [run_bind, settled, run_pure, creditOverage, left, if_false]

theorem assertInvoiceBelongsToStudent_ok (owned : ∀ invoice ∈ invoices, invoice.studentId = some studentId) :
    ∀ invoice ∈ invoices, assertInvoiceBelongsToStudent studentId invoice = .ok () := by
  intro invoice member
  rw [assertInvoiceBelongsToStudent, failIf, if_neg (not_not.mpr (owned invoice member))]
  rfl

theorem spreadIntent_run (paymentIntent : PaymentIntentEntity) (ledgerTransactionId : Option String)
    (idempotencyKey : String) (amount : Nat) (owned : ∀ invoice ∈ invoices, invoice.studentId = some studentId)
    (db : BillingDb) :
    ∃ middle after, (settleAll (settleStudentFee studentId paymentIntent ledgerTransactionId idempotencyKey)
        (spread amount invoices)).run db = .ok ((), middle) ∧
      (spreadIntent studentId paymentIntent ledgerTransactionId idempotencyKey amount invoices).run db =
        .ok ((spread amount invoices, excess InvoiceEntity.balance amount invoices), after) ∧
      after.invoices = middle.invoices := by
  obtain ⟨middle, settled⟩ := @settleAll_run
    (settleStudentFee studentId paymentIntent ledgerTransactionId idempotencyKey) (spread amount invoices) (by
      intro application member
      obtain ⟨given, shared, rfl⟩ := List.mem_map.mp member
      exact settleStudentFee_run _ _ _ _ (mem_fill shared).2.1) db
  rw [spreadIntent, allocateRemaining_eq _ _ (assertInvoiceBelongsToStudent_ok owned)]
  by_cases left : 0 < excess InvoiceEntity.balance amount invoices
  · obtain ⟨after, credited⟩ := createStudentFeeCredit_run studentId
      (paymentIntent.userId <|> readStringMetadata paymentIntent.metadata "parent_user_id") paymentIntent.id
      ledgerTransactionId left idempotencyKey middle
    refine ⟨middle, after, settled, ?_, createStudentFeeCredit_invoices credited⟩
    simp only [run_bind, settled, run_pure, left, if_true, credited]
  · refine ⟨middle, middle, settled, ?_, rfl⟩
    simp only [run_bind, settled, run_pure, left, if_false]

theorem spread_alike (stored : Prop)
    (accepted : stored → runtime.infersAllocationIndex = true ∧ (runtime.uuid studentId).isSome)
    (distinct : invoices.Nodup) (owned : ∀ invoice ∈ invoices, invoice.studentId = some studentId)
    (ofStudent : ∀ id ∈ receipt.studentId, id = studentId) (paymentIntent : PaymentIntentEntity)
    (ledgerTransactionId : Option String) (idempotencyKey : String) (db : BillingDb) :
    SpreadAlike receipt.amountMinor invoices stored (spreadReceipt runtime receipt invoices)
      (spreadIntent studentId paymentIntent ledgerTransactionId idempotencyKey receipt.amountMinor invoices)
      Prod.mk Prod.mk db := by
  obtain ⟨middle, after, settled, confirmed, kept⟩ :=
    spreadIntent_run paymentIntent ledgerTransactionId idempotencyKey receipt.amountMinor owned db
  refine ⟨_, _, after, spreads receipt.amountMinor distinct, confirmed, fun report other ran => ?_, fun available =>
    spreadReceipt_run (accepted available) ofStudent owned db⟩
  obtain ⟨rfl, cleared, settledToo, keptToo⟩ := spreadReceipt_ok ran
  refine ⟨rfl, fun id => ?_⟩
  rw [kept, keptToo]
  exact settleAll_standings (settleReceipt_settling runtime receipt) (settleStudentFee_settling _ _ _ _) (fun _ => rfl)
    settledToo settled id

end Spreading

theorem findStudentFeeInvoicesForAllocation_owned {db : BillingDb} {locked : String → Bool} {studentId : String}
    {explicitInvoiceId : Option String} (trimmed : readString (some studentId) = some studentId) :
    ∀ invoice ∈ findStudentFeeInvoicesForAllocation db locked studentId explicitInvoiceId,
      invoice.studentId = some studentId := by
  intro invoice member
  have named := (mem_findStudentFeeInvoicesForAllocation member).2.2.1
  rw [InvoiceEntity.studentId, readStringMetadata, named, trimmed]

theorem readString_readString {value : Option String} {text : String} (read : readString value = some text) :
    readString (some text) = some text := by
  unfold readString at read ⊢
  obtain ⟨trimmed, present⟩ := Option.filter_eq_some_iff.mp read
  obtain ⟨raw, -, rfl⟩ := Option.map_eq_some_iff.mp trimmed
  exact Option.filter_eq_some_iff.mpr ⟨congrArg some (JsText.trim_trim raw), present⟩

def feeInvoice (studentId id : String) (totalAmountMinor amountPaidMinor : Nat) (totalPositive : 0 < totalAmountMinor) :
    InvoiceEntity where
  id
  subscriptionId := "plan"
  invoiceNumber := "INV-" ++ id
  status := .opened
  currencyCode := "KES"
  totalAmountMinor
  amountPaidMinor
  billingPhoneNumber := none
  paymentIntentId := none
  issuedAt := 0
  dueAt := 0
  createdAt := 0
  metadata := [("student_id", .str studentId)]
  totalPositive

theorem receipt_positive : 0 < 500 := by
  decide

def threeFees : List InvoiceEntity :=
  [feeInvoice "student" "first" 300 0 (by decide), feeInvoice "student" "second" 200 200 (by decide),
    feeInvoice "student" "third" 500 100 receipt_positive]

def billed (invoices : List InvoiceEntity) (distinct : (invoices.map (·.id)).Nodup) : BillingDb :=
  ⟨⟨invoices, distinct⟩, .empty, [], [], []⟩

def cashReceipt : ManualFeePaymentEntity :=
  receivedPayment (officeCall 1) (cashFor "student" "500" "receipt-1") (some "student") none 500 0 receipt_positive

def feeIntent : PaymentIntentEntity := { sampleIntent "intent" 0 with studentId := some "student" }

end ShuleHub.Billing
