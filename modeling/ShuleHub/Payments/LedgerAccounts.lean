import ShuleHub.Finance.NewPostings
import ShuleHub.Payments.ExpiredKeys
import ShuleHub.Payments.Reconciliation

/-! The accounts that receive a payment, those that its intent records and those that the reconciliation inspects. -/

namespace ShuleHub.Payments

open Transaction Finance TenantFinance PaymentIntents

variable (runtime : PaymentsRuntime) (call : Reconciliation.ReportCall) (db : TenantDb)

/-- The debit goes to the account with one code and the credit to the one with the other. -/
def Receives (debitCode creditCode : String) (moved : List Movement) : Prop :=
  ∃ debitAccount ∈ findByCode db debitCode, ∃ creditAccount ∈ findByCode db creditCode,
    moved.map (fun movement => (movement.accountId, movement.direction)) =
      [(debitAccount.id, .debit), (creditAccount.id, .credit)]
deriving Decidable

def inspectedCodes : List String :=
  Reconciliation.getMpesaLedgerAccountCodes call.settings call.tenantFinance runtime.tenantId

/-- The accounts that the intent records and the ones that the report inspects are those that receive the money. -/
structure AgreesOnAccounts
    (intent : PaymentIntentEntity) (moved : List Movement) : Prop where
  recorded : ∃ debitCode ∈ intent.ledgerDebitAccountCode, ∃ creditCode ∈ intent.ledgerCreditAccountCode,
    Receives db debitCode creditCode moved
  inspected : ∀ account ∈ db.finance.accounts,
    account.code ∈ inspectedCodes runtime call ↔ ∃ movement ∈ moved, movement.accountId = account.id

instance (runtime : PaymentsRuntime) (call : Reconciliation.ReportCall) (db : TenantDb) (intent : PaymentIntentEntity) :
    DecidablePred (AgreesOnAccounts runtime call db intent) := fun _ =>
  decidable_of_iff ((∃ debitCode ∈ intent.ledgerDebitAccountCode, ∃ creditCode ∈ intent.ledgerCreditAccountCode, _) ∧ _)
    ⟨fun ⟨recorded, inspected⟩ => ⟨recorded, inspected⟩, fun ⟨recorded, inspected⟩ => ⟨recorded, inspected⟩⟩

/-- The codes on the intent are the configured ones, and those of the report name the same accounts. -/
structure SameAccounts
    (intent : PaymentIntentEntity) : Prop where
  debit : intent.ledgerDebitAccountCode = some runtime.ledgerDebitAccountCode
  credit : intent.ledgerCreditAccountCode = some runtime.ledgerCreditAccountCode
  inspected : ∀ account ∈ db.finance.accounts, account.code ∈ inspectedCodes runtime call ↔
    account.code = runtime.ledgerDebitAccountCode ∨ account.code = runtime.ledgerCreditAccountCode

instance (runtime : PaymentsRuntime) (call : Reconciliation.ReportCall) (db : TenantDb) :
    DecidablePred (SameAccounts runtime call db) := fun _ =>
  decidable_of_iff (_ ∧ _ ∧ ∀ account ∈ db.finance.accounts, _)
    ⟨fun ⟨debit, credit, inspected⟩ => ⟨debit, credit, inspected⟩,
      fun ⟨debit, credit, inspected⟩ => ⟨debit, credit, inspected⟩⟩

def DistinctCodes : Prop := (db.finance.accounts.map (·.code)).Nodup
deriving Decidable

section Postings

variable {runtime : PaymentsRuntime} {context : CallbackContext} {callback : ParsedMpesaCallback}
  {db middle after : TenantDb} {intent : PaymentIntentEntity} {upserted : MpesaTransactionEntity}
  {transaction : FinancialTransactionEntity} {amountMinor : Nat}
  {result : PaymentJobResult} {debitAccount creditAccount account : AccountEntity}

structure PostsTo (runtime : PaymentsRuntime) (context : CallbackContext) (callback : ParsedMpesaCallback)
    (intent : PaymentIntentEntity) (amountMinor : Nat) (debitAccount creditAccount : AccountEntity)
    (db : TenantDb) (finance : FinanceDb) : Prop where
  debit : findByCode db runtime.ledgerDebitAccountCode = some debitAccount
  credit : findByCode db runtime.ledgerCreditAccountCode = some creditAccount
  posting : ∃ response, (postTransaction runtime.toRuntime context.toCallContext
    (mpesaPosting intent callback amountMinor debitAccount creditAccount)).run db.finance = .ok (response, finance)

theorem requireConfig_ok {key value result : String} (given : requireConfig key value = .ok result) : result = value := by
  simp only [requireConfig, Outcome.bind_ok, Outcome.pure_ok] at given
  obtain ⟨-, -, rfl⟩ := given
  rfl

theorem postPayment_accounts {response : PostedFinancialTransaction}
    (ran : (postPayment runtime context intent callback amountMinor).run middle = .ok (response, after)) :
    ∃ debitAccount creditAccount,
      PostsTo runtime context callback intent amountMinor debitAccount creditAccount middle after.finance := by
  simp only [postPayment, run_bind_ok, run_current_ok, run_lift_ok] at ran
  obtain ⟨_, _, ⟨rfl, rfl⟩, _, _, ⟨debitCode, rfl⟩, _, _, ⟨creditCode, rfl⟩, posting⟩ := ran
  obtain rfl := requireConfig_ok debitCode
  obtain rfl := requireConfig_ok creditCode
  split at posting
  · next debitAccount creditAccount debit credit =>
    obtain ⟨finance, ran, rfl⟩ := onFinance_ok.mp posting
    exact ⟨debitAccount, creditAccount, debit, credit, response, ran⟩
  · simp at posting

theorem completePayment_accounts {ledgerTransactionId : String}
    (ran : (completePayment runtime context intent callback amountMinor).run middle = .ok (ledgerTransactionId, after)) :
    ∃ debitAccount creditAccount,
      PostsTo runtime context callback intent amountMinor debitAccount creditAccount middle after.finance := by
  simp only [completePayment, markProcessing, markCompleted, updateIntent,
    MpesaTransactions.attachLedgerTransaction, run_bind_ok, onPayments_ok, onBilling_ok, run_write_ok, run_pure_ok] at ran
  obtain ⟨_, _, ⟨_, rfl, rfl⟩, posted, _, posting, _, _, ⟨_, rfl, rfl⟩, _, _, ⟨_, rfl, rfl⟩, _, _, ⟨billing, handled, rfl⟩,
    rfl, rfl⟩ := ran
  obtain ⟨debitAccount, creditAccount, posts⟩ := postPayment_accounts posting
  exact ⟨debitAccount, creditAccount, posts.debit, posts.credit, posts.posting⟩

theorem settlePayment_accounts (new : after.finance ≠ middle.finance)
    (ran : (settlePayment runtime context intent callback amountMinor upserted).run middle = .ok (result, after)) :
    ∃ debitAccount creditAccount,
      PostsTo runtime context callback intent amountMinor debitAccount creditAccount middle after.finance := by
  unfold settlePayment at ran
  cases posted : upserted.ledgerTransactionId with
  | some ledgerTransactionId =>
    simp only [posted] at ran
    split at ran
    · simp only [markCompleted, updateIntent, run_bind_ok, onPayments_ok, run_write_ok, run_pure_ok] at ran
      obtain ⟨_, _, ⟨_, rfl, rfl⟩, -, rfl⟩ := ran
      exact absurd rfl new
    · obtain ⟨-, rfl⟩ := run_pure_ok.mp ran
      exact absurd rfl new
  | none =>
    cases settled : intent.ledgerTransactionId with
    | some ledgerTransactionId =>
      simp only [posted, settled, MpesaTransactions.attachLedgerTransaction, run_bind_ok, onPayments_ok, run_write_ok,
        run_pure_ok] at ran
      obtain ⟨_, _, ⟨_, rfl, rfl⟩, -, rfl⟩ := ran
      exact absurd rfl new
    | none =>
      simp only [posted, settled, run_ite_ok, run_bind_ok, run_pure_ok] at ran
      rcases ran with ⟨-, -, rfl⟩ | ⟨-, _, _, completed, -, rfl⟩
      · exact absurd rfl new
      · exact completePayment_accounts completed

theorem processLockedPayment_accounts (new : after.finance ≠ db.finance)
    (locked : lockByCheckoutOrMerchantRequestId db.payments callback.checkoutRequestId callback.merchantRequestId =
      some intent)
    (ran : (processLockedPayment runtime context callback).run db = .ok (result, after)) :
    ∃ amountMinor debitAccount creditAccount,
      PostsTo runtime context callback intent amountMinor debitAccount creditAccount db after.finance := by
  simp only [processLockedPayment, run_bind_ok, run_current_ok] at ran
  obtain ⟨_, _, ⟨rfl, rfl⟩, rest⟩ := ran
  simp only [locked, run_bind_ok, onPayments_ok] at rest
  obtain ⟨_, middle, marked, upserted, _, ⟨payments, -, rfl⟩, rest⟩ := rest
  obtain ⟨-, same⟩ := receiveCallback_ok marked (lockByCheckoutOrMerchantRequestId_some locked).1
  have finance : middle.finance = db.finance := by rw [same]
  by_cases failed : callback.status = .failed
  · simp only [if_pos failed, PaymentIntents.markFailed, updateIntent, run_bind_ok, onPayments_ok, run_write_ok,
      run_pure_ok] at rest
    obtain ⟨_, _, ⟨_, rfl, rfl⟩, -, rfl⟩ := rest
    exact absurd finance new
  · rw [if_neg failed] at rest
    split at rest
    · simp at rest
    · next amountMinor given =>
      simp only [run_bind_ok, run_lift_ok] at rest
      obtain ⟨_, _, ⟨-, rfl⟩, rest⟩ := rest
      obtain ⟨debitAccount, creditAccount, posts⟩ := settlePayment_accounts (finance ▸ new) rest
      have found (code : String) : findByCode { middle with payments } code = findByCode db code := by
        unfold findByCode
        rw [← finance]
      refine ⟨amountMinor, debitAccount, creditAccount, (found _).symm.trans posts.debit, (found _).symm.trans posts.credit, ?_⟩
      rw [← finance]
      exact posts.posting

theorem posted_movements (books : Books db.finance)
    (posts : PostsTo runtime context callback intent amountMinor debitAccount creditAccount db after.finance)
    (posted : transaction ∈ after.finance.transactions) (new : transaction ∉ db.finance.transactions) :
    (movements after.finance transaction.id).map (fun movement => (movement.accountId, movement.direction)) =
      [(debitAccount.id, .debit), (creditAccount.id, .credit)] := by
  obtain ⟨response, ran⟩ := posts.posting
  have moves := postTransaction_moves books ran posted new
  unfold mpesaPosting at moves
  generalize movements after.finance transaction.id = moved at *
  cases moves with
  | cons debits rest =>
    cases rest with
    | cons credits rest =>
      cases rest
      simp only [List.map_cons, List.map_nil, debits.account, debits.direction, credits.account, credits.direction]

theorem findByCode_some {code : String} (found : findByCode db code = some account) :
    account ∈ db.finance.accounts ∧ account.code = code :=
  ⟨List.mem_of_find?_eq_some found, by simpa using List.find?_some found⟩

theorem account_of_id {first second : AccountEntity} (firstKnown : first ∈ db.finance.accounts)
    (secondKnown : second ∈ db.finance.accounts) (same : first.id = second.id) : first = second :=
  List.inj_on_of_nodup_map db.finance.accountsDistinct firstKnown secondKnown same

theorem receiving_iff (codes : DistinctCodes db)
    (debit : findByCode db runtime.ledgerDebitAccountCode = some debitAccount)
    (credit : findByCode db runtime.ledgerCreditAccountCode = some creditAccount) {moved : List Movement}
    (shape : moved.map (fun movement => (movement.accountId, movement.direction)) =
      [(debitAccount.id, .debit), (creditAccount.id, .credit)]) (known : account ∈ db.finance.accounts) :
    (∃ movement ∈ moved, movement.accountId = account.id) ↔
      account.code = runtime.ledgerDebitAccountCode ∨ account.code = runtime.ledgerCreditAccountCode := by
  obtain ⟨debitKnown, debitCode⟩ := findByCode_some debit
  obtain ⟨creditKnown, creditCode⟩ := findByCode_some credit
  have ids : moved.map (·.accountId) = [debitAccount.id, creditAccount.id] := by
    have firsts := congrArg (List.map Prod.fst) shape
    rwa [List.map_map] at firsts
  have named (other : AccountEntity) (present : other ∈ db.finance.accounts) : account.id = other.id ↔
      account.code = other.code := by
    constructor
    · intro same
      rw [account_of_id known present same]
    · intro same
      rw [List.inj_on_of_nodup_map codes known present same]
  have listed : (∃ movement ∈ moved, movement.accountId = account.id) ↔ account.id ∈ moved.map (·.accountId) :=
    List.mem_map.symm
  rw [listed, ids, List.mem_pair, named debitAccount debitKnown, debitCode, named creditAccount creditKnown, creditCode]

end Postings

/-- A callback that posts a transaction pays into the accounts that the intent records and the report inspects exactly
when these are the configured ones. -/
theorem callback_pays_recorded_accounts_iff (runtime : PaymentsRuntime) (call : Reconciliation.ReportCall)
    {context : CallbackContext} {callback : ParsedMpesaCallback} {db after : TenantDb} {intent : PaymentIntentEntity}
    {result : PaymentJobResult} {transaction : FinancialTransactionEntity} (books : Books db.finance)
    (codes : DistinctCodes db)
    (locked : lockByCheckoutOrMerchantRequestId db.payments callback.checkoutRequestId callback.merchantRequestId =
      some intent)
    (ran : (processLockedPayment runtime context callback).run db = .ok (result, after))
    (posted : transaction ∈ after.finance.transactions) (new : transaction ∉ db.finance.transactions) :
    AgreesOnAccounts runtime call db intent (movements after.finance transaction.id) ↔
      SameAccounts runtime call db intent := by
  have changed : after.finance ≠ db.finance := by
    intro same
    rw [same] at posted
    exact new posted
  obtain ⟨amountMinor, debitAccount, creditAccount, posts⟩ := processLockedPayment_accounts changed locked ran
  have shape := posted_movements books posts posted new
  constructor
  · rintro ⟨⟨debitCode, recordedDebit, creditCode, recordedCredit, first, foundFirst, second, foundSecond, moved⟩,
      inspected⟩
    obtain ⟨firstKnown, rfl⟩ := findByCode_some foundFirst
    obtain ⟨secondKnown, rfl⟩ := findByCode_some foundSecond
    obtain ⟨debitKnown, debitCode⟩ := findByCode_some posts.debit
    obtain ⟨creditKnown, creditCode⟩ := findByCode_some posts.credit
    have same := moved.symm.trans shape
    simp only [List.cons.injEq, Prod.mk.injEq, and_true] at same
    obtain rfl := account_of_id firstKnown debitKnown same.1
    obtain rfl := account_of_id secondKnown creditKnown same.2
    refine ⟨debitCode ▸ recordedDebit, creditCode ▸ recordedCredit, ?_⟩
    intro account known
    rw [inspected account known, receiving_iff codes posts.debit posts.credit shape known]
  · rintro ⟨recordedDebit, recordedCredit, inspected⟩
    refine ⟨⟨_, recordedDebit, _, recordedCredit, debitAccount, posts.debit, creditAccount, posts.credit, shape⟩, ?_⟩
    intro account known
    rw [inspected account known, receiving_iff codes posts.debit posts.credit shape known]

def schoolChart : ChartOfAccounts where
  accounts := [sampleAccount "1110-MPESA-CLEARING" .debit, sampleAccount "1100-AR-FEES" .credit,
    sampleAccount "cash" .debit, sampleAccount "fees" .credit]
  accountsDistinct := by decide

def schoolPayments : PaymentsRuntime :=
  { samplePaymentsRuntime with
    resolveMpesaConfig := fun _ => .ok ⟨"174379", none, "1110-MPESA-CLEARING", "1100-AR-FEES"⟩ }

def askedFor : TenantDb :=
  KeyedRequest.perform runtime { sampleTenant [] List.nodup_nil with finance := FinanceDb.opened schoolChart }
    (paymentRequest "a" 0)

def feesPaid : ParsedMpesaCallback := { sampleCallback "a" "a" 0 with amountMinor := some 50000 }

def configuredReport : Reconciliation.ReportCall where
  settings := ⟨some "cash", some "fees", none, none, none⟩
  tenantFinance := none
  now := 0
  generatedAt := 0

theorem school_payment_misses_its_accounts :
    (processLockedPayment schoolPayments (sampleContext "1") feesPaid).Goes (askedFor schoolPayments) fun _ after =>
      ∃ transaction ∈ after.finance.transactions, transaction ∉ (askedFor schoolPayments).finance.transactions ∧
        ∃ intent ∈ (askedFor schoolPayments).payments.intents.rows,
          intent.ledgerDebitAccountCode = some "1110-MPESA-CLEARING" ∧
          intent.ledgerCreditAccountCode = some "1100-AR-FEES" ∧
          ¬ AgreesOnAccounts schoolPayments configuredReport (askedFor schoolPayments) intent
            (movements after.finance transaction.id) := by
  decide +kernel

theorem platform_accounts_receive_the_payment :
    (processLockedPayment samplePaymentsRuntime (sampleContext "1") feesPaid).Goes (askedFor samplePaymentsRuntime)
      fun _ after => ∃ transaction ∈ after.finance.transactions,
        ∃ intent ∈ lockByCheckoutOrMerchantRequestId (askedFor samplePaymentsRuntime).payments
            feesPaid.checkoutRequestId feesPaid.merchantRequestId,
          AgreesOnAccounts samplePaymentsRuntime configuredReport (askedFor samplePaymentsRuntime) intent
            (movements after.finance transaction.id) := by
  have books : Books (askedFor samplePaymentsRuntime).finance := books_opened schoolChart
  have paid : (processLockedPayment samplePaymentsRuntime (sampleContext "1") feesPaid).Goes
      (askedFor samplePaymentsRuntime) fun _ after => ∃ transaction ∈ after.finance.transactions,
        transaction ∉ (askedFor samplePaymentsRuntime).finance.transactions ∧
        ∃ intent ∈ lockByCheckoutOrMerchantRequestId (askedFor samplePaymentsRuntime).payments
            feesPaid.checkoutRequestId feesPaid.merchantRequestId,
          SameAccounts samplePaymentsRuntime configuredReport (askedFor samplePaymentsRuntime) intent := by
    decide +kernel
  obtain ⟨result, after, ran, transaction, posted, new, intent, locked, same⟩ := paid
  have agrees := (callback_pays_recorded_accounts_iff samplePaymentsRuntime configuredReport books (by decide +kernel)
    locked ran posted new).mpr same
  exact ⟨result, after, ran, transaction, posted, intent, locked, agrees⟩

end ShuleHub.Payments
