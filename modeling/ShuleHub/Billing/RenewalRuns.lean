import ShuleHub.Billing.BulkFeeRuns
import ShuleHub.Billing.Renewals

/-! What extends the period of a subscription, and how many renewal invoices wait to be paid, over the
runs of a school. -/

namespace ShuleHub.Billing

open Transaction Payments BillingLifecycle Runs Invoicing KeyedTable

/-- A school with its clock, the invoices whose completion extended a period (`none` for any other cause), and
for each renewal invoice the end of the period that was current when it was issued. -/
structure BilledWorld where
  clock : Int
  db : SchoolDb
  extensions : List (Option InvoiceEntity)
  renewals : JsMap String Int

variable (world : BilledWorld)

def invoicesOf (db : SchoolDb) : KeyedTable InvoiceEntity String InvoiceEntity.id := db.tenant.billing.invoices

def currentOf (db : SchoolDb) : Option SubscriptionEntity := Subscriptions.lockCurrentByTenant db.subscriptions

def Extended (before after : SubscriptionsDb) : Prop :=
  ∃ row ∈ after.rows, ∃ old ∈ before.rows, old.id = row.id ∧ old.currentPeriodEnd < row.currentPeriodEnd
deriving Decidable

def newRenewal (before after : SchoolDb) : Option InvoiceEntity :=
  (invoicesOf after).rows.find? fun invoice => invoice.isRenewal && ((invoicesOf before).find invoice.id).isNone

def noteRenewal (renewals : JsMap String Int) (invoice : Option InvoiceEntity) (subscription : Option SubscriptionEntity) :
    JsMap String Int :=
  match invoice, subscription with
  | some invoice, some subscription => renewals.set invoice.id subscription.currentPeriodEnd
  | _, _ => renewals

def stepBilled (runtime : PaymentsRuntime) (world : BilledWorld) (request : SchoolRequest) : BilledWorld :=
  let after := request.perform runtime world.db
  { clock := request.now
    db := after
    extensions :=
      if Extended world.db.subscriptions after.subscriptions then
        world.extensions ++ [request.paidInvoice world.db]
      else world.extensions
    renewals := noteRenewal world.renewals (newRenewal world.db after) (currentOf world.db) }

def AwaitsRenewal (invoice : InvoiceEntity) : Prop :=
  invoice.isRenewal = true ∧ invoice.status ≠ .paid ∧ invoice.status ≠ .void ∧ invoice.status ≠ .uncollectible
deriving Decidable

/-- Renewal invoices alone extend periods, each of them once, and no period has two of them unpaid. -/
structure RenewsOnce : Prop where
  renewals : ∀ extension ∈ world.extensions, ∃ invoice ∈ extension, invoice.isRenewal = true
  once : (world.extensions.map (·.map (·.id))).Nodup
  single : ∀ left ∈ (invoicesOf world.db).rows, ∀ right ∈ (invoicesOf world.db).rows,
    AwaitsRenewal left → AwaitsRenewal right → left.subscriptionId = right.subscriptionId →
    world.renewals.get? left.id = world.renewals.get? right.id → left.id = right.id

instance (world : BilledWorld) : Decidable (RenewsOnce world) :=
  decidable_of_iff
    ((∀ extension ∈ world.extensions, ∃ invoice ∈ extension, invoice.isRenewal = true) ∧
      (world.extensions.map (·.map (·.id))).Nodup ∧
      ∀ left ∈ (invoicesOf world.db).rows, ∀ right ∈ (invoicesOf world.db).rows,
        AwaitsRenewal left → AwaitsRenewal right → left.subscriptionId = right.subscriptionId →
        world.renewals.get? left.id = world.renewals.get? right.id → left.id = right.id)
    ⟨fun ⟨renewals, once, single⟩ => ⟨renewals, once, single⟩,
      fun ⟨renewals, once, single⟩ => ⟨renewals, once, single⟩⟩

def ClockMoves (request : SchoolRequest) : Prop := world.clock ≤ request.now
deriving Decidable

def AwaitedFor (subscription : SubscriptionEntity) (invoice : InvoiceEntity) : Prop :=
  AwaitsRenewal invoice ∧ invoice.subscriptionId = subscription.id ∧
    world.renewals.get? invoice.id = some subscription.currentPeriodEnd
deriving Decidable

/-- No ad-hoc invoice says that it is a renewal; once the period has lapsed, its unpaid renewal invoice is asked
for again on the same day only; and what pays an invoice of the current subscription pays a renewal. -/
def RenewsInTime : SchoolRequest → Prop
  | .createInvoice _ dto => dto.metadata.text "billing_reason" ≠ some renewalReason
  | .ensureRenewalInvoice call =>
    ∀ subscription ∈ currentOf world.db, subscription.currentPeriodEnd ≤ call.now →
      ∀ invoice ∈ (invoicesOf world.db).rows, AwaitedFor world subscription invoice →
        invoice.metadata.text billingRenewalInvoiceMetadataKey = some (renewalWindowKey subscription call.now)
  | .handlePaymentIntentCompleted payment =>
    ∀ invoice ∈ payment.paidInvoice world.db, ∀ subscription ∈ currentOf world.db,
      subscription.id = invoice.subscriptionId → invoice.isRenewal = true
  | _ => True

instance (world : BilledWorld) (request : SchoolRequest) : Decidable (RenewsInTime world request) := by
  cases request <;> unfold RenewsInTime <;> infer_instance

section Bills

/-- How a request may move an invoice: to a payment that is awaited or made, unless it is paid already. -/
structure Follows (old row : InvoiceEntity) : Prop where
  id : row.id = old.id
  subscriptionId : row.subscriptionId = old.subscriptionId
  metadata : row.metadata = old.metadata
  status : row.status = old.status ∨ old.status ≠ .paid ∧ (row.status = .pendingPayment ∨ row.status = .paid)

structure BillsMoved (before after : KeyedTable InvoiceEntity String InvoiceEntity.id) : Prop where
  kept : ∀ old ∈ before.rows, ∃ row ∈ after.rows, Follows old row
  rows : ∀ row ∈ after.rows, ∃ old ∈ before.rows, Follows old row

variable {before middle after : KeyedTable InvoiceEntity String InvoiceEntity.id}

theorem Follows.refl (invoice : InvoiceEntity) : Follows invoice invoice := ⟨rfl, rfl, rfl, .inl rfl⟩

theorem Follows.trans {first second third : InvoiceEntity} (left : Follows first second) (right : Follows second third) :
    Follows first third := by
  refine ⟨right.id.trans left.id, right.subscriptionId.trans left.subscriptionId, right.metadata.trans left.metadata, ?_⟩
  rcases left.status with same | ⟨unpaid, moved⟩
  · rw [← same]
    exact right.status
  · refine .inr ⟨unpaid, ?_⟩
    rcases right.status with same | ⟨-, moved'⟩
    · rwa [same]
    · exact moved'

theorem BillsMoved.refl (invoices : KeyedTable InvoiceEntity String InvoiceEntity.id) : BillsMoved invoices invoices :=
  ⟨fun invoice member => ⟨invoice, member, .refl invoice⟩, fun invoice member => ⟨invoice, member, .refl invoice⟩⟩

theorem BillsMoved.trans (first : BillsMoved before middle) (second : BillsMoved middle after) :
    BillsMoved before after := by
  constructor
  · intro old member
    obtain ⟨between, present, left⟩ := first.kept old member
    obtain ⟨row, there, right⟩ := second.kept between present
    exact ⟨row, there, left.trans right⟩
  · intro row member
    obtain ⟨between, present, right⟩ := second.rows row member
    obtain ⟨old, there, left⟩ := first.rows between present
    exact ⟨old, there, left.trans right⟩

theorem BillsMoved.update {id : String} (change : InvoiceEntity → InvoiceEntity)
    (kept : ∀ invoice, (change invoice).id = invoice.id)
    (follows : ∀ invoice ∈ before.rows, invoice.id = id → Follows invoice (change invoice)) :
    BillsMoved before (before.update id change kept) := by
  constructor
  · intro old member
    by_cases same : old.id = id
    · exact ⟨change old, mem_update.mpr (.inl ⟨old, member, same, rfl⟩), follows old member same⟩
    · exact ⟨old, mem_update.mpr (.inr ⟨member, same⟩), .refl old⟩
  · intro row member
    rcases mem_update.mp member with ⟨old, present, same, rfl⟩ | ⟨present, -⟩
    · exact ⟨old, present, follows old present same⟩
    · exact ⟨row, present, .refl row⟩

theorem isPayable_ne_paid {invoice : InvoiceEntity} (payable : invoice.isPayable = true) : invoice.status ≠ .paid := by
  intro paid
  simp [InvoiceEntity.isPayable, paid] at payable

theorem Application.nextStatus_cases (application : Application) :
    application.nextStatus = .pendingPayment ∨ application.nextStatus = .paid := by
  unfold Application.nextStatus
  split
  · exact .inr rfl
  · exact .inl rfl

theorem allocateConfirmedPayment_moved {tenantId : String} {locked : String → Bool} {paymentIntent : PaymentIntentEntity}
    {amountPaidMinor : Nat} {ledgerTransactionId : Option String} {db after : BillingDb}
    {result : StudentFeePaymentAllocationResult}
    (allocated : (allocateConfirmedPayment tenantId locked paymentIntent amountPaidMinor ledgerTransactionId).run db =
      .ok (result, after)) : BillsMoved db.invoices after.invoices := by
  unfold allocateConfirmedPayment at allocated
  split at allocated
  · simp at allocated
  · next studentId _ =>
    simp only [run_bind_ok, run_current_ok, run_ite_ok, run_pure_ok] at allocated
    obtain ⟨_, _, ⟨rfl, rfl⟩, ⟨-, -, rfl⟩ | ⟨-, ⟨applications, remaining⟩, middle, spread, rest⟩⟩ := allocated
    · exact .refl _
    · have moved : BillsMoved db.invoices middle.invoices := by
        refine allocateRemaining_present (fun invoice => invoice.isPayable = true)
          (fun _ now => BillsMoved db.invoices now.invoices) ?_
          (fun invoice member => ⟨(Invoices.mem_findStudentFeeInvoicesForAllocation member).1,
            (Invoices.mem_findStudentFeeInvoicesForAllocation member).2.1⟩)
          (Invoices.findStudentFeeInvoicesForAllocation_distinct _ _ _ _) (.refl _) spread
        intro remaining invoice now later _ _ member payable moved settled
        have written := settleStudentFee_invoices settled
        rw [written]
        refine ⟨moved.trans (.update (Invoices.payFromIntent paymentIntent.id _ _) (fun _ => rfl) fun other present same => ?_), fun other present differs => ?_⟩
        · obtain rfl := eq_of_key present member same
          exact ⟨rfl, rfl, rfl, .inr ⟨isPayable_ne_paid payable, Application.nextStatus_cases _⟩⟩
        · exact mem_update.mpr (.inr ⟨present, differs⟩)
      rcases rest with ⟨-, _, _, credited, -, rfl⟩ | ⟨-, -, rfl⟩
      · rw [createStudentFeeCredit_invoices credited]
        exact moved
      · exact moved

end Bills

/-- What a request that may run in time does to the bills and the subscriptions of a school. -/
inductive Performed (before after : SchoolDb) : SchoolRequest → Prop where
  | moved (request : SchoolRequest) (bills : BillsMoved (invoicesOf before) (invoicesOf after))
      (periods : Subscriptions.KeepsPeriods before.subscriptions after.subscriptions) : Performed before after request
  | issued (request : SchoolRequest) (invoices : List InvoiceEntity)
      (bills : BillsIssued before.invoicing after.invoicing invoices)
      (others : ∀ invoice ∈ invoices, invoice.isRenewal = false) : Performed before after request
  | renewal (call : InvoiceCall) (subscription : SubscriptionEntity) (invoice : InvoiceEntity)
      (locked : currentOf before = some subscription)
      (missing : (findLatestRenewalInvoice before.invoicing subscription.id
        (renewalWindowKey subscription call.now)).filter stands = none)
      (own : invoice.subscriptionId = subscription.id) (metadata : invoice.metadata = (renewalInvoiceInput call subscription).metadata)
      (bills : BillsIssued before.invoicing after.invoicing [invoice]) :
      Performed before after (.ensureRenewalInvoice call)
  | paid (payment : CompletedPayment) (invoice : InvoiceEntity) (found : payment.paidInvoice before = some invoice)
      (bills : BillsMoved (invoicesOf before) (invoicesOf after))
      (settled : ∃ row ∈ (invoicesOf after).rows, row.id = invoice.id ∧ row.status = .paid)
      (periods : Subscriptions.KeepsPeriods before.subscriptions after.subscriptions ∨
        ∃ subscription, currentOf before = some subscription ∧ subscription.id = invoice.subscriptionId) :
      Performed before after (.handlePaymentIntentCompleted payment)

section Requests

variable {runtime : PaymentsRuntime} {db after : SchoolDb}
  {call : InvoiceCall} {result : InvoiceEntity} {payment : CompletedPayment} {request : SchoolRequest}

theorem createInvoice_performed {dto : CreateInvoiceDto}
    (ordinary : dto.metadata.text "billing_reason" ≠ some renewalReason)
    (succeeded : (onInvoicing (createInvoice runtime.toRuntime call dto)).run db = .ok (result, after)) :
    Performed db after (.createInvoice call dto) := by
  obtain ⟨invoicing, created, rfl⟩ := onInvoicing_ok.mp succeeded
  simp only [createInvoice, run_bind_ok, run_lift_ok, run_pure_ok] at created
  obtain ⟨subscription, _, billable, dueAt, _, ⟨-, rfl⟩, invoice, _, inserted, _, _, marked, -, rfl⟩ := created
  obtain ⟨-, rfl⟩ := requireBillableSubscription_ok billable
  obtain ⟨⟨totalPositive, rfl⟩, issued⟩ := issued_ok inserted marked
  refine .issued _ _ issued fun invoice member => ?_
  rw [List.mem_singleton.mp member]
  simpa [InvoiceEntity.isRenewal] using ordinary

theorem bulkGenerateFeeInvoices_performed {call : BulkCall} {result : BulkFeeInvoiceGenerationResponse}
    (succeeded : (onInvoicing (BulkFees.bulkGenerateFeeInvoices runtime.toRuntime call)).run db = .ok (result, after)) :
    Performed db after (.bulkGenerateFeeInvoices call) := by
  obtain ⟨invoicing, generated, rfl⟩ := onInvoicing_ok.mp succeeded
  obtain ⟨students, -, -, -, billed⟩ := bulkGenerateFeeInvoices_ok generated
  refine .issued _ _ billed.toBillsIssued fun invoice member => ?_
  have reason := billed.reason invoice member
  simp [InvoiceEntity.isRenewal, reason, BulkFees.bulkGenerationReason, renewalReason]

theorem ensureRenewalInvoice_performed
    (succeeded : (onInvoicing (ensureRenewalInvoice call)).run db = .ok (result, after)) :
    Performed db after (.ensureRenewalInvoice call) := by
  obtain ⟨invoicing, ensured, rfl⟩ := onInvoicing_ok.mp succeeded
  simp only [ensureRenewalInvoice, run_bind_ok, run_current_ok] at ensured
  obtain ⟨subscription, _, billable, _, _, ⟨rfl, rfl⟩, rest⟩ := ensured
  obtain ⟨locked, rfl⟩ := requireBillableSubscription_ok billable
  split at rest
  · simp only [run_pure_ok] at rest
    obtain ⟨-, rfl⟩ := rest
    exact .moved _ (.refl _) (.refl _)
  · next missing =>
    simp only [run_bind_ok, run_pure_ok] at rest
    obtain ⟨invoice, _, inserted, _, _, marked, -, rfl⟩ := rest
    obtain ⟨⟨totalPositive, rfl⟩, issued⟩ := issued_ok inserted marked
    exact .renewal call subscription _ locked missing rfl rfl issued

theorem createInvoicePaymentIntent_performed {call : InvoicePaymentCall}
    (succeeded : (BillingMpesa.createInvoicePaymentIntent runtime call).run db = .ok (result, after)) :
    Performed db after (.createInvoicePaymentIntent call) := by
  obtain ⟨access, subscriptions, invoice, phoneNumber, response, payments, looked, found, payable, -, rfl⟩ :=
    BillingMpesa.createInvoicePaymentIntent_ok succeeded
  refine .moved _ (.update (Invoices.initiatePayment response.paymentIntentId (some phoneNumber)) (fun _ => rfl)
    fun other present same => ?_) (BillingAccess.resolveForTenant_keepsPeriods looked)
  obtain rfl := eq_of_key present ((find_eq_some _).mp found).1 same
  exact ⟨rfl, rfl, rfl, .inr ⟨isPayable_ne_paid payable, .inl rfl⟩⟩

theorem paidInvoice_unpaid {invoice : InvoiceEntity}
    (found : payment.paidInvoice db = some invoice) : invoice ∈ (invoicesOf db).rows ∧ invoice.status ≠ .paid := by
  unfold CompletedPayment.paidInvoice at found
  split at found
  · cases found
  · obtain ⟨locked, unpaid⟩ := Option.filter_eq_some_iff.mp found
    exact ⟨List.mem_of_find?_eq_some locked, by simpa using unpaid⟩

theorem renewSubscription_periods {invoiceSubscriptionId : String} {now : Int} {subscriptions later : SubscriptionsDb}
    (renewed : (renewSubscription invoiceSubscriptionId now).run subscriptions = .ok ((), later)) :
    Subscriptions.KeepsPeriods subscriptions later ∨
      ∃ subscription, Subscriptions.lockCurrentByTenant subscriptions = some subscription ∧
        subscription.id = invoiceSubscriptionId := by
  simp only [renewSubscription, run_bind_ok, run_current_ok] at renewed
  obtain ⟨_, _, ⟨rfl, rfl⟩, rest⟩ := renewed
  split at rest
  · simp only [run_pure_ok, true_and] at rest
    subst rest
    exact .inl (.refl _)
  · next subscription locked =>
    by_cases same : subscription.id = invoiceSubscriptionId
    · exact .inr ⟨subscription, locked, same⟩
    · simp only [ne_eq, same, not_false_eq_true, if_true, run_pure_ok, true_and] at rest
      subst rest
      exact .inl (.refl _)

theorem completeInvoicePayment_performed
    (succeeded : (completeInvoicePayment runtime.tenantId payment).run db = .ok ((), after)) :
    Performed db after (.handlePaymentIntentCompleted payment) := by
  unfold completeInvoicePayment at succeeded
  split at succeeded
  · simp only [run_bind_ok, run_pure_ok, onTenant_ok, onBilling_ok] at succeeded
    obtain ⟨_, _, ⟨_, ⟨billing, allocated, rfl⟩, rfl⟩, -, rfl⟩ := succeeded
    exact .moved _ (allocateConfirmedPayment_moved allocated) (.refl _)
  · next platform =>
    simp only [run_bind_ok, run_current_ok] at succeeded
    obtain ⟨_, _, ⟨rfl, rfl⟩, rest⟩ := succeeded
    split at rest
    · simp only [run_pure_ok, true_and] at rest
      subst rest
      exact .moved _ (.refl _) (.refl _)
    · next invoice found =>
      simp only [run_ite_ok, run_bind_ok, run_pure_ok, onTenant_ok, onBilling_ok, onSchoolSubscriptions_ok,
        Invoices.markPaid, Invoices.updateInvoice, run_write_ok] at rest
      rcases rest with ⟨-, -, rfl⟩ | ⟨unpaid, _, _, ⟨_, ⟨_, rfl, rfl⟩, rfl⟩, subscriptions, renewed, rfl⟩
      · exact .moved _ (.refl _) (.refl _)
      · have member : invoice ∈ (invoicesOf db).rows := List.mem_of_find?_eq_some found
        have nobody : ¬ (payment.paymentIntent.bind (·.studentId)).any (· ≠ "") = true := by
          cases intent : payment.paymentIntent with
          | none => simp
          | some paymentIntent =>
            simpa [intent, Option.filter] using platform
        have pays : payment.paidInvoice db = some invoice := by
          rw [CompletedPayment.paidInvoice, if_neg nobody, found]
          simp [Option.filter, unpaid]
        refine .paid payment invoice pays (.update (Invoices.pay payment.amountPaidMinor) (fun _ => rfl) fun other present same => ?_)
          ⟨Invoices.pay payment.amountPaidMinor invoice, ?_, rfl, rfl⟩ (renewSubscription_periods renewed)
        · obtain rfl := eq_of_key present member same
          exact ⟨rfl, rfl, rfl, .inr ⟨unpaid, .inr rfl⟩⟩
        · exact (KeyedTable.Put.update (Invoices.pay payment.amountPaidMinor) (fun _ => rfl) member rfl).own.1

theorem performed_commit {A : Type} {action : Transaction SchoolDb Exception A}
    (succeeds : ∀ result after, action.run db = .ok (result, after) → Performed db after request) :
    Performed db (commit action db) request :=
  @commit_preserves _ _ _ (Performed db · request) action db (.moved request (.refl _) (.refl _)) succeeds

theorem perform_performed (runtime : PaymentsRuntime) {world : BilledWorld} (guarded : RenewsInTime world request) :
    Performed world.db (request.perform runtime world.db) request := by
  cases request with
  | createInvoice call dto =>
    exact performed_commit fun _ _ succeeded => createInvoice_performed guarded succeeded
  | bulkGenerateFeeInvoices call =>
    exact performed_commit fun _ _ succeeded => bulkGenerateFeeInvoices_performed succeeded
  | ensureRenewalInvoice call =>
    exact performed_commit fun _ _ succeeded => ensureRenewalInvoice_performed succeeded
  | createInvoicePaymentIntent call =>
    exact performed_commit fun _ _ succeeded => createInvoicePaymentIntent_performed succeeded
  | handlePaymentIntentCompleted payment =>
    exact performed_commit fun _ _ succeeded => completeInvoicePayment_performed succeeded

end Requests

def windowKeyAt (periodEnd issuedAt : Int) : String :=
  String.ofList ((JsDate.toISOString (if issuedAt < periodEnd then periodEnd else issuedAt)).toList.take 10)

theorem renewalWindowKey_eq (subscription : SubscriptionEntity) (now : Int) :
    renewalWindowKey subscription now = windowKeyAt subscription.currentPeriodEnd now := rfl

theorem windowKeyAt_before {periodEnd first second : Int} (one : first < periodEnd) (two : second < periodEnd) :
    windowKeyAt periodEnd first = windowKeyAt periodEnd second := by
  rw [windowKeyAt, windowKeyAt, if_pos one, if_pos two]

/-- What the runs keep of the bills: a renewal invoice carries the key of the moment when it was issued. -/
structure BillsKeyed (clock : Int) (invoices : KeyedTable InvoiceEntity String InvoiceEntity.id)
    (renewals : JsMap String Int) : Prop where
  standing : ∀ invoice ∈ invoices.rows, stands invoice = true
  keyed : ∀ invoice ∈ invoices.rows, invoice.isRenewal = true → ∃ period issuedAt,
    renewals.get? invoice.id = some period ∧ issuedAt ≤ clock ∧
      invoice.metadata.text billingRenewalInvoiceMetadataKey = some (windowKeyAt period issuedAt)
  single : ∀ left ∈ invoices.rows, ∀ right ∈ invoices.rows,
    AwaitsRenewal left → AwaitsRenewal right → left.subscriptionId = right.subscriptionId →
    renewals.get? left.id = renewals.get? right.id → left.id = right.id

/-- What the runs keep of the extensions: each is a renewal invoice of its own that is paid since. -/
structure ExtensionsPaid (invoices : KeyedTable InvoiceEntity String InvoiceEntity.id)
    (extensions : List (Option InvoiceEntity)) : Prop where
  paid : ∀ extension ∈ extensions, ∃ invoice ∈ extension, invoice.isRenewal = true ∧
    ∃ row ∈ invoices.rows, row.id = invoice.id ∧ row.status = .paid
  once : (extensions.map (·.map (·.id))).Nodup

section Kept

variable {clock now : Int} {before after : KeyedTable InvoiceEntity String InvoiceEntity.id}
  {renewals : JsMap String Int} {extensions : List (Option InvoiceEntity)}
  {old row : InvoiceEntity} {first last : InvoicingDb} {invoices : List InvoiceEntity}

theorem Follows.isRenewal (follows : Follows old row) : row.isRenewal = old.isRenewal := by
  rw [InvoiceEntity.isRenewal, follows.metadata, InvoiceEntity.isRenewal]

theorem Follows.awaited (follows : Follows old row) (standing : stands old = true)
    (awaits : AwaitsRenewal row) : AwaitsRenewal old := by
  obtain ⟨renewal, unpaid, -, -⟩ := awaits
  rw [follows.isRenewal] at renewal
  have open_ : old.status ≠ .paid := by
    rcases follows.status with same | ⟨open_, -⟩
    · rwa [← same]
    · exact open_
  simp only [stands, Bool.or_eq_true, decide_eq_true_eq] at standing
  refine ⟨renewal, open_, ?_, ?_⟩
  · intro gone
    simp [gone] at standing
  · intro gone
    simp [gone] at standing

theorem BillsKeyed.moved (kept : BillsKeyed clock before renewals) (moved : BillsMoved before after)
    (later : clock ≤ now) : BillsKeyed now after renewals := by
  constructor
  · intro row member
    obtain ⟨old, present, follows⟩ := moved.rows row member
    have standing := kept.standing old present
    rcases follows.status with same | ⟨-, moved⟩
    · rwa [stands, same]
    · rcases moved with pending | paid
      · simp [stands, pending]
      · simp [stands, paid]
  · intro row member renewal
    obtain ⟨old, present, follows⟩ := moved.rows row member
    obtain ⟨period, issuedAt, noted, past, key⟩ := kept.keyed old present (follows.isRenewal ▸ renewal)
    exact ⟨period, issuedAt, follows.id ▸ noted, past.trans later, follows.metadata ▸ key⟩
  · intro left leftMember right rightMember leftAwaits rightAwaits subscription period
    obtain ⟨oldLeft, leftPresent, leftFollows⟩ := moved.rows left leftMember
    obtain ⟨oldRight, rightPresent, rightFollows⟩ := moved.rows right rightMember
    rw [leftFollows.subscriptionId, rightFollows.subscriptionId] at subscription
    rw [leftFollows.id, rightFollows.id] at period ⊢
    exact kept.single oldLeft leftPresent oldRight rightPresent
      (leftFollows.awaited (kept.standing _ leftPresent) leftAwaits)
      (rightFollows.awaited (kept.standing _ rightPresent) rightAwaits) subscription period

theorem ExtensionsPaid.moved (kept : ExtensionsPaid before extensions) (moved : BillsMoved before after) :
    ExtensionsPaid after extensions := by
  refine ⟨fun extension member => ?_, kept.once⟩
  obtain ⟨invoice, own, renewal, old, present, same, paid⟩ := kept.paid extension member
  obtain ⟨row, there, follows⟩ := moved.kept old present
  refine ⟨invoice, own, renewal, row, there, follows.id.trans same, ?_⟩
  rcases follows.status with unmoved | ⟨open_, -⟩
  · exact unmoved.trans paid
  · exact absurd paid open_

theorem newRenewal_eq_none {first last : SchoolDb}
    (known : ∀ row ∈ (invoicesOf last).rows, row.isRenewal = true → ∃ old ∈ (invoicesOf first).rows, old.id = row.id) :
    newRenewal first last = none := by
  refine List.find?_eq_none.mpr fun row member => ?_
  simp only [Bool.and_eq_true, Option.isNone_iff_eq_none, not_and]
  intro renewal missing
  obtain ⟨old, present, same⟩ := known row member renewal
  exact (find_eq_none _).mp missing old present same

theorem BillsKeyed.issued
    (kept : BillsKeyed clock first.invoices renewals) (bills : BillsIssued first last invoices)
    (others : ∀ invoice ∈ invoices, invoice.isRenewal = false) (later : clock ≤ now) :
    BillsKeyed now last.invoices renewals := by
  have old : ∀ row ∈ last.invoices.rows, row.isRenewal = true → row ∈ first.invoices.rows := by
    intro row member renewal
    rcases (bills.rows row).mp member with present | new
    · exact present
    · rw [others row new] at renewal
      cases renewal
  constructor
  · intro row member
    rcases (bills.rows row).mp member with present | new
    · exact kept.standing row present
    · simp [stands, (bills.fresh row new).1]
  · intro row member renewal
    obtain ⟨period, issuedAt, noted, past, key⟩ := kept.keyed row (old row member renewal) renewal
    exact ⟨period, issuedAt, noted, past.trans later, key⟩
  · intro left leftMember right rightMember leftAwaits rightAwaits
    exact kept.single left (old left leftMember leftAwaits.1) right (old right rightMember rightAwaits.1)
      leftAwaits rightAwaits

theorem ExtensionsPaid.issued
    (kept : ExtensionsPaid first.invoices extensions) (bills : BillsIssued first last invoices) :
    ExtensionsPaid last.invoices extensions := by
  refine ⟨fun extension member => ?_, kept.once⟩
  obtain ⟨invoice, own, renewal, row, present, settled⟩ := kept.paid extension member
  exact ⟨invoice, own, renewal, row, (bills.rows row).mpr (.inl present), settled⟩

theorem BillsKeyed.renewed {invoice : InvoiceEntity} {period : Int}
    (kept : BillsKeyed clock first.invoices renewals) (bills : BillsIssued first last [invoice])
    (key : invoice.metadata.text billingRenewalInvoiceMetadataKey = some (windowKeyAt period now))
    (free : ∀ row ∈ first.invoices.rows, AwaitsRenewal row → row.subscriptionId = invoice.subscriptionId →
      renewals.get? row.id ≠ some period) (later : clock ≤ now) :
    BillsKeyed now last.invoices (renewals.set invoice.id period) := by
  obtain ⟨opened, unused⟩ := bills.fresh invoice List.mem_cons_self
  have own : (renewals.set invoice.id period).get? invoice.id = some period := by
    rw [JsMap.get?_set, if_pos rfl]
  have others : ∀ row ∈ first.invoices.rows,
      (renewals.set invoice.id period).get? row.id = renewals.get? row.id := by
    intro row present
    rw [JsMap.get?_set, if_neg fun same => unused row present same.symm]
  constructor
  · intro row member
    rcases (bills.rows row).mp member with present | new
    · exact kept.standing row present
    · rw [List.mem_singleton.mp new]
      simp [stands, opened]
  · intro row member renewal
    rcases (bills.rows row).mp member with present | new
    · obtain ⟨earlier, issuedAt, noted, past, key⟩ := kept.keyed row present renewal
      exact ⟨earlier, issuedAt, (others row present).trans noted, past.trans later, key⟩
    · rw [List.mem_singleton.mp new]
      exact ⟨period, now, own, le_refl now, key⟩
  · intro left leftMember right rightMember leftAwaits rightAwaits subscription same
    rcases (bills.rows left).mp leftMember with leftOld | leftNew <;>
      rcases (bills.rows right).mp rightMember with rightOld | rightNew
    · rw [others left leftOld, others right rightOld] at same
      exact kept.single left leftOld right rightOld leftAwaits rightAwaits subscription same
    · obtain rfl := List.mem_singleton.mp rightNew
      rw [others left leftOld, own] at same
      exact absurd same (free left leftOld leftAwaits subscription)
    · obtain rfl := List.mem_singleton.mp leftNew
      rw [others right rightOld, own] at same
      exact absurd same.symm (free right rightOld rightAwaits subscription.symm)
    · rw [List.mem_singleton.mp leftNew, List.mem_singleton.mp rightNew]

end Kept

section Steps

variable {runtime : PaymentsRuntime} {world : BilledWorld} {request : SchoolRequest}

structure Renewing (world : BilledWorld) : Prop where
  bills : BillsKeyed world.clock (invoicesOf world.db) world.renewals
  extensions : ExtensionsPaid (invoicesOf world.db) world.extensions

theorem not_extended {before after : SubscriptionsDb} (kept : Subscriptions.KeepsPeriods before after) :
    ¬ Extended before after := by
  rintro ⟨row, member, old, present, same, earlier⟩
  obtain ⟨known, there, sameId, sameEnd⟩ := kept row member
  obtain rfl := eq_of_key there present (sameId.trans same.symm)
  omega

theorem findLatestRenewalInvoice_stands {db : InvoicingDb} {row : InvoiceEntity} {subscriptionId window : String}
    (standing : ∀ invoice ∈ db.invoices.rows, stands invoice = true) (member : row ∈ db.invoices.rows)
    (own : row.subscriptionId = subscriptionId) (renewal : row.isRenewal = true)
    (key : row.metadata.text billingRenewalInvoiceMetadataKey = some window) :
    (findLatestRenewalInvoice db subscriptionId window).filter stands ≠ none := by
  have candidate : row ∈ (db.invoices.rows.filter fun invoice =>
      invoice.subscriptionId = subscriptionId && invoice.isRenewal &&
        invoice.metadata.text billingRenewalInvoiceMetadataKey = some window).insertionSort fun left right =>
      right.createdAt ≤ left.createdAt := by
    rw [List.mem_insertionSort, List.mem_filter]
    exact ⟨member, by simp [own, renewal, key]⟩
  unfold findLatestRenewalInvoice
  cases order : (db.invoices.rows.filter fun invoice =>
      invoice.subscriptionId = subscriptionId && invoice.isRenewal &&
        invoice.metadata.text billingRenewalInvoiceMetadataKey = some window).insertionSort fun left right =>
      right.createdAt ≤ left.createdAt with
  | nil => simp [order] at candidate
  | cons head rest =>
    have first : head ∈ db.invoices.rows := by
      have present := (List.mem_insertionSort _).mp (order ▸ List.mem_cons_self)
      exact (List.mem_filter.mp present).1
    simp [standing head first]

theorem renewal_free (kept : Renewing world) {call : InvoiceCall} {subscription : SubscriptionEntity}
    (moves : ClockMoves world (.ensureRenewalInvoice call)) (guarded : RenewsInTime world (.ensureRenewalInvoice call))
    (locked : currentOf world.db = some subscription)
    (missing : (findLatestRenewalInvoice world.db.invoicing subscription.id
      (renewalWindowKey subscription call.now)).filter stands = none) :
    ∀ row ∈ (invoicesOf world.db).rows, AwaitsRenewal row → row.subscriptionId = subscription.id →
      world.renewals.get? row.id ≠ some subscription.currentPeriodEnd := by
  intro row member awaits own noted
  obtain ⟨period, issuedAt, known, past, key⟩ := kept.bills.keyed row member awaits.1
  obtain rfl : subscription.currentPeriodEnd = period := Option.some.inj (noted.symm.trans known)
  refine findLatestRenewalInvoice_stands kept.bills.standing member own awaits.1 ?_ missing
  by_cases lapsed : subscription.currentPeriodEnd ≤ call.now
  · exact guarded subscription locked lapsed row member ⟨awaits, own, noted⟩
  · -- The invoice was issued before the period lapsed, so its key is the one of the window.
    have ticking : world.clock ≤ call.now := moves
    have early : windowKeyAt subscription.currentPeriodEnd issuedAt = windowKeyAt subscription.currentPeriodEnd call.now :=
      windowKeyAt_before (by omega) (by omega)
    rw [key, early, renewalWindowKey_eq]

theorem newRenewal_eq_some {first last : SchoolDb} {invoice : InvoiceEntity} (renewal : invoice.isRenewal = true)
    (bills : BillsIssued first.invoicing last.invoicing [invoice]) : newRenewal first last = some invoice := by
  have unused := (bills.fresh invoice List.mem_cons_self).2
  have fresh : (invoicesOf first).find invoice.id = none := (find_eq_none _).mpr unused
  cases found : newRenewal first last with
  | none =>
    have absent := List.find?_eq_none.mp found invoice ((bills.rows invoice).mpr (.inr List.mem_cons_self))
    simp [renewal, fresh] at absent
  | some row =>
    have new := List.find?_some found
    simp only [Bool.and_eq_true, Option.isNone_iff_eq_none] at new
    rcases (bills.rows row).mp (List.mem_of_find?_eq_some found) with present | own
    · exact absurd rfl ((find_eq_none _).mp new.2 row present)
    · rw [List.mem_singleton.mp own]

theorem stepBilled_renewing (kept : Renewing world) (moves : ClockMoves world request)
    (guarded : RenewsInTime world request) : Renewing (stepBilled runtime world request) := by
  have quiet (periods : Subscriptions.KeepsPeriods world.db.subscriptions
      (request.perform runtime world.db).subscriptions) :
      (stepBilled runtime world request).extensions = world.extensions := if_neg (not_extended periods)
  have unnoted (nothing : newRenewal world.db (request.perform runtime world.db) = none) :
      (stepBilled runtime world request).renewals = world.renewals := by
    simp only [stepBilled, nothing, noteRenewal]
  have settled (moved : BillsMoved (invoicesOf world.db) (invoicesOf (request.perform runtime world.db))) :
      BillsKeyed request.now (invoicesOf (request.perform runtime world.db))
        (stepBilled runtime world request).renewals := by
    rw [unnoted (newRenewal_eq_none fun row member _ => ?_)]
    · exact kept.bills.moved moved moves
    · obtain ⟨old, present, follows⟩ := moved.rows row member
      exact ⟨old, present, follows.id.symm⟩
  cases perform_performed runtime guarded with
  | moved _ bills periods => exact ⟨settled bills, by rw [quiet periods]; exact kept.extensions.moved bills⟩
  | issued _ invoices bills others =>
    refine ⟨?_, by rw [quiet bills.periods]; exact kept.extensions.issued bills⟩
    have nothing : newRenewal world.db (request.perform runtime world.db) = none := by
      refine newRenewal_eq_none fun row member renewal => ?_
      rcases (bills.rows row).mp member with present | new
      · exact ⟨row, present, rfl⟩
      · rw [others row new] at renewal
        cases renewal
    rw [unnoted nothing]
    exact BillsKeyed.issued kept.bills bills others moves
  | renewal call subscription invoice locked missing own metadata bills =>
    refine ⟨?_, by rw [quiet bills.periods]; exact kept.extensions.issued bills⟩
    have reason : invoice.isRenewal = true := by
      rw [InvoiceEntity.isRenewal, metadata]
      rfl
    have key : invoice.metadata.text billingRenewalInvoiceMetadataKey =
        some (windowKeyAt subscription.currentPeriodEnd call.now) := by
      rw [metadata]
      rfl
    have noted : (stepBilled runtime world (.ensureRenewalInvoice call)).renewals =
        world.renewals.set invoice.id subscription.currentPeriodEnd := by
      simp only [stepBilled, newRenewal_eq_some reason bills, locked, noteRenewal]
    rw [noted]
    refine BillsKeyed.renewed kept.bills bills key (fun row member awaits same => ?_) moves
    exact renewal_free kept moves guarded locked missing row member awaits (same.trans own)
  | paid payment invoice found bills paid periods =>
    refine ⟨settled bills, ?_⟩
    rcases periods with periods | ⟨subscription, locked, own⟩
    · rw [quiet periods]
      exact kept.extensions.moved bills
    · have renewal := guarded invoice found subscription locked own
      have extensions := kept.extensions.moved bills
      by_cases extended : Extended world.db.subscriptions
          ((SchoolRequest.handlePaymentIntentCompleted payment).perform runtime world.db).subscriptions
      · have logged : (stepBilled runtime world (.handlePaymentIntentCompleted payment)).extensions =
            world.extensions ++ [some invoice] := by
          simp only [stepBilled, if_pos extended, SchoolRequest.paidInvoice, found]
        rw [logged]
        refine ⟨fun extension member => ?_, ?_⟩
        · rcases List.mem_append.mp member with earlier | last
          · exact extensions.paid extension earlier
          · rw [List.mem_singleton.mp last]
            exact ⟨invoice, rfl, renewal, paid⟩
        · rw [List.map_append]
          refine List.nodup_append.mpr ⟨extensions.once, List.nodup_singleton _, ?_⟩
          rintro used old new last rfl
          obtain ⟨extension, member, same⟩ := List.mem_map.mp old
          obtain ⟨earlier, rfl, -, row, present, id, settled⟩ := kept.extensions.paid extension member
          obtain ⟨known, unpaid⟩ := paidInvoice_unpaid found
          have sameId : earlier.id = invoice.id := by simpa [← same] using last
          obtain rfl := eq_of_key present known (id.trans sameId)
          exact unpaid settled
      · have unlogged : (stepBilled runtime world (.handlePaymentIntentCompleted payment)).extensions =
            world.extensions := if_neg extended
        rw [unlogged]
        exact extensions

/-- Where only renewals are paid for the current subscription and a lapsed period is not asked for a second
renewal invoice, periods are extended by renewals, once by each, and none has two of them unpaid. -/
theorem renewals_extend_once (runtime : PaymentsRuntime) (start : BilledWorld)
    (unbilled : (invoicesOf start.db).rows = [] ∧ start.extensions = []) (requests : List SchoolRequest)
    (ordered : Meets (stepBilled runtime) ClockMoves start requests)
    (guarded : Meets (stepBilled runtime) RenewsInTime start requests) :
    Along (stepBilled runtime) RenewsOnce start requests := by
  have initial : Renewing start := by
    obtain ⟨none, nothing⟩ := unbilled
    refine ⟨⟨?_, ?_, ?_⟩, ⟨?_, ?_⟩⟩
    · simp [none]
    · simp [none]
    · simp [none]
    · simp [nothing]
    · simp [nothing]
  refine along_of_meets (fun world request kept both => stepBilled_renewing kept both.1 both.2)
    (fun world kept => ⟨fun extension member => ?_, kept.extensions.once, kept.bills.single⟩)
    initial (meets_and ordered guarded)
  obtain ⟨invoice, own, renewal, -⟩ := kept.extensions.paid extension member
  exact ⟨invoice, own, renewal⟩

end Steps

def unbilledWorld : BilledWorld := ⟨0, unbilledSchool, [], []⟩

def invoiceCall (id : String) (day : Int) : InvoiceCall := ⟨day * dayMs, id, "INV-" ++ id⟩

def paidRenewals : List SchoolRequest := [
  .ensureRenewalInvoice (invoiceCall "i1" 10),
  .createInvoicePaymentIntent (paymentOf "i1" "p1" (11 * dayMs)),
  .handlePaymentIntentCompleted (completionOf "p1" 150000 (11 * dayMs)),
  .ensureRenewalInvoice (invoiceCall "i2" 70),
  .ensureRenewalInvoice (invoiceCall "i3" 70)]

theorem paid_renewal_extends_once :
    Along (stepBilled schoolRuntime) RenewsOnce unbilledWorld paidRenewals :=
  renewals_extend_once schoolRuntime unbilledWorld ⟨rfl, rfl⟩ paidRenewals (by decide +kernel) (by decide +kernel)

/-- An ad-hoc invoice that is paid extends the period, and a lapsed period gets a renewal invoice each day. -/
theorem periods_extended_by_other_invoices :
    ¬ RenewsOnce (run (stepBilled schoolRuntime) unbilledWorld [
      .createInvoice (invoiceCall "i1" 1) ⟨"School trip", 50000, none, none, []⟩,
      .createInvoicePaymentIntent (paymentOf "i1" "p1" (2 * dayMs)),
      .handlePaymentIntentCompleted (completionOf "p1" 50000 (2 * dayMs))]) ∧
    ¬ RenewsOnce (run (stepBilled schoolRuntime) unbilledWorld [
      .ensureRenewalInvoice (invoiceCall "i1" 31),
      .ensureRenewalInvoice (invoiceCall "i2" 32)]) := by
  decide +kernel

end ShuleHub.Billing
