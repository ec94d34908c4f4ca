import ShuleHub.Payments.CompletedIntents

/-! Which ledger transaction a payment intent gets: what holds in every run of callbacks and sweeps, and
what holds while no callback joins the checkout of one intent with another. -/

namespace ShuleHub.Payments

open Transaction Runs Idempotency Finance PaymentIntents MpesaTransactions KeyedTable

variable (db : TenantDb)

def paymentIntentOf (transaction : FinancialTransactionEntity) : Option String :=
  match transaction.metadata with
  | .obj fields => Metadata.text fields "payment_intent_id"
  | _ => none

def PostedOnce : Prop :=
  (db.finance.transactions.map paymentIntentOf).Nodup ∧
  ∀ transaction ∈ db.finance.transactions, ∃ intent ∈ db.payments.intents.rows,
    paymentIntentOf transaction = some intent.id ∧ transaction.totalAmountMinor = intent.amountMinor
deriving Decidable

def LedgersDistinct : Prop :=
  ∀ intent ∈ db.payments.intents.rows, intent.status = .completed → intent.ledgerTransactionId ≠ none ∧
    ∀ other ∈ db.payments.intents.rows, other.ledgerTransactionId = intent.ledgerTransactionId → other.id = intent.id
deriving Decidable

/-- A payment that is taken for a checkout whose row is posted completes the intent of that posting. -/
def CompletesOwner : PaymentEvent → Prop
  | .sweep _ _ => True
  | .callback _ callback =>
    ∀ intent ∈ lockByCheckoutOrMerchantRequestId db.payments callback.checkoutRequestId callback.merchantRequestId,
      ∀ row ∈ db.payments.mpesaTransactions.rows, row.checkoutRequestId = callback.checkoutRequestId →
        ¬ receiptTaken db.payments callback → callback.status = .succeeded → callback.amountMinor ≠ none →
        assertCallbackMatchesIntent intent callback = .ok () → intent.status ≠ .completed →
        row.ledgerTransactionId ≠ none → intent.ledgerTransactionId = row.ledgerTransactionId

instance (db : TenantDb) : ∀ event, Decidable (CompletesOwner db event)
  | .sweep _ _ => .isTrue trivial
  | .callback _ _ => inferInstanceAs (Decidable (∀ _ ∈ _, ∀ _ ∈ _, _ → _))

def FundsFrom (checkoutRequestId : String) (db : FinanceDb) (transaction : FinancialTransactionEntity) : Prop :=
  (findByTransactionId db transaction.id).head?.bind (·.description) = some (receivedFunds checkoutRequestId)

theorem receivedFunds_injective {first second : String} (same : receivedFunds first = receivedFunds second) :
    first = second :=
  (String.append_right_inj "M-PESA funds received (").mp ((String.append_left_inj ")").mp same)

section Posting

variable {runtime : Runtime} {context : CallContext} {paymentIntent : PaymentIntentEntity}
  {callback : ParsedMpesaCallback} {amountMinor : Nat} {debitAccount creditAccount : AccountEntity}
  {db after : FinanceDb} {posted : PostedFinancialTransaction} {payload : NormalizedPayload}

theorem mpesaPosting_normal
    (normal : normalizedPayload (mpesaPosting paymentIntent callback amountMinor debitAccount creditAccount) =
      .ok payload) :
    Table.total (fun entry => entry.direction = .debit) (·.amountMinor) payload.entries = amountMinor ∧
      ∃ first rest, payload.entries = first :: rest ∧
        first.description = some (receivedFunds callback.checkoutRequestId) := by
  simp only [normalizedPayload, mpesaPosting, List.mapM_cons, List.mapM_nil, normalizedEntry, normalizeLedgerAmount,
    normalizeMinorAmount, JsText.trim_toString, JsText.decimalValue_toString, Outcome.bind_ok, Outcome.failIf_ok,
    Outcome.pure_ok] at normal
  obtain ⟨_, ⟨_, ⟨_, ⟨_, -, rfl⟩, rfl⟩, _, ⟨_, ⟨_, ⟨_, -, rfl⟩, rfl⟩, _, rfl, rfl⟩, rfl⟩, rfl⟩ := normal
  exact ⟨by simp [Table.total_cons], _, _, rfl, rfl⟩

theorem fundsFrom_of_matches {transaction : FinancialTransactionEntity}
    (normal : normalizedPayload (mpesaPosting paymentIntent callback amountMinor debitAccount creditAccount) =
      .ok payload)
    (matching : MatchesStored db payload transaction) : FundsFrom callback.checkoutRequestId db transaction := by
  obtain ⟨-, first, rest, entries, described⟩ := mpesaPosting_normal normal
  have rows := matching.entries
  rw [entries] at rows
  unfold FundsFrom
  cases stored : findByTransactionId db transaction.id with
  | nil =>
    rw [stored] at rows
    cases rows
  | cons row others =>
    rw [stored] at rows
    cases rows with
    | cons asks _ => exact asks.description.trans described

inductive PaymentPosted (runtime : Runtime) (posting : PostFinancialTransactionInput) (checkoutRequestId : String)
    (paymentIntent : PaymentIntentEntity) (amountMinor : Nat) (posted : PostedFinancialTransaction)
    (db after : FinanceDb) : Prop
  | replayed (same : SamePostings db after) (record : IdempotencyRecord PostedFinancialTransaction)
      (member : record ∈ db.idempotencyKeys) (hashed : buildIdempotencyHash runtime posting = .ok record.requestHash)
  | reused (same : SamePostings db after) (existing : FinancialTransactionEntity)
      (member : existing ∈ db.transactions) (funds : FundsFrom checkoutRequestId db existing)
  | inserted (transaction : FinancialTransactionEntity)
      (transactions : after.transactions = db.transactions ++ [transaction])
      (answers : transaction.id = posted.transactionId)
      (named : paymentIntentOf transaction = some paymentIntent.id)
      (total : transaction.totalAmountMinor = amountMinor)
      (funds : FundsFrom checkoutRequestId after transaction)
      (kept : ∀ old ∈ db.transactions, ∀ checkout, FundsFrom checkout db old → FundsFrom checkout after old)

theorem mpesaPosting_ok (books : Books db)
    (ran : (postTransaction runtime context
      (mpesaPosting paymentIntent callback amountMinor debitAccount creditAccount)).run db = .ok (posted, after)) :
    Books after ∧
      (∀ record ∈ after.idempotencyKeys, (∃ old ∈ db.idempotencyKeys, old.requestHash = record.requestHash) ∨
        buildIdempotencyHash runtime (mpesaPosting paymentIntent callback amountMinor debitAccount creditAccount) =
          .ok record.requestHash) ∧
      PaymentPosted runtime (mpesaPosting paymentIntent callback amountMinor debitAccount creditAccount)
        callback.checkoutRequestId paymentIntent amountMinor posted db after := by
  refine ⟨postTransaction_books books ran, ?_⟩
  obtain ⟨reference, description, record, middle, referenced, described, locked, rest⟩ := postTransaction_ok ran
  obtain ⟨_, requestHash, keys, -, hashed, lockedRow, rfl⟩ := lockIdempotencyKey_ok locked
  obtain ⟨payload, normal⟩ := normalizedPayload_total hashed
  obtain ⟨hash, known, rows⟩ := lockRequest_hashes lockedRow
  have hash : record.requestHash = requestHash := hash
  have lockedKeys : ∀ row ∈ keys, (∃ old ∈ db.idempotencyKeys, old.requestHash = row.requestHash) ∨
      buildIdempotencyHash runtime (mpesaPosting paymentIntent callback amountMinor debitAccount creditAccount) =
        .ok row.requestHash := by
    intro row member
    rcases rows row member with old | new
    · exact .inl ⟨row, old, rfl⟩
    · right
      rw [hashed, new]
      rfl
  have completedKeys (code : Nat) : ∀ row ∈ updateById record.id (Idempotency.complete context.now code posted) keys,
      (∃ old ∈ db.idempotencyKeys, old.requestHash = row.requestHash) ∨
      buildIdempotencyHash runtime (mpesaPosting paymentIntent callback amountMinor debitAccount creditAccount) =
        .ok row.requestHash := by
    intro row member
    obtain ⟨old, present, rfl⟩ := List.mem_map.mp member
    have earlier := lockedKeys old present
    split <;> exact earlier
  rcases rest with ⟨completed, -, rfl⟩ | ⟨-, settles⟩
  · refine ⟨lockedKeys, .replayed ⟨rfl, rfl, rfl⟩ record (known completed) ?_⟩
    rw [hash, hashed]
  · cases settles with
    | reused postingPlan existing _ found hydrated compatible planned =>
      refine ⟨completedKeys 200, .reused ⟨rfl, rfl, rfl⟩ existing (List.mem_of_find?_eq_some found) ?_⟩
      have sameReference : existing.reference = reference := by simpa using List.find?_some found
      have matching := matchesStored_of_reuse normal planned (sameReference ▸ referenced) described hydrated compatible
      have funds : FundsFrom callback.checkoutRequestId { db with idempotencyKeys := keys } existing :=
        fundsFrom_of_matches normal matching
      exact funds
    | inserted postingPlan effectiveAt postedAt _ free freshId freshKey answers planned =>
      have unposted : ∀ entry ∈ db.ledgerEntries, entry.transactionId ≠ context.newTransactionId := by
        intro entry member same
        obtain ⟨transaction, present, known⟩ := books.owned entry member
        exact freshId transaction present (known.trans same)
      refine ⟨completedKeys 201, .inserted _ rfl answers.symm rfl ?_ ?_ ?_⟩
      · exact (plan_entries planned normal).2.symm.trans (mpesaPosting_normal normal).1
      · exact fundsFrom_of_matches normal (matchesStored_of_insert { db with idempotencyKeys := keys } record.id
          effectiveAt postedAt normal planned referenced described unposted _ _)
      · intro old member checkout funds
        have others : ∀ row ∈ postingPlan.entries.map (entryRow context context.newTransactionId),
            row.transactionId ≠ old.id := by
          intro row added same
          obtain ⟨_, -, rfl⟩ := List.mem_map.mp added
          exact freshId old member same.symm
        unfold FundsFrom at funds ⊢
        rw [findByTransactionId_other others]
        exact funds

end Posting

structure IntentsPosted : Prop where
  books : Books db.finance
  once : (db.finance.transactions.map paymentIntentOf).Nodup
  intents : ∀ transaction ∈ db.finance.transactions, ∃ intent ∈ db.payments.intents.rows,
    paymentIntentOf transaction = some intent.id ∧ transaction.totalAmountMinor = intent.amountMinor ∧
      intent.ledgerTransactionId ≠ none

def PostedFor (checkoutRequestId : String) (db : TenantDb) : Prop :=
  ∃ row ∈ db.payments.mpesaTransactions.rows, row.checkoutRequestId = checkoutRequestId ∧
    row.ledgerTransactionId ≠ none

section Steps

variable {runtime : PaymentsRuntime} {context : CallbackContext} {callback : ParsedMpesaCallback}
  {db after : TenantDb} {paymentIntent settled : PaymentIntentEntity} {upserted row : MpesaTransactionEntity}
  {finance : FinanceDb} {billing : Billing.BillingDb} {now : Int}
  {change : PaymentIntentEntity → PaymentIntentEntity}

theorem received_kept (paymentIntent : PaymentIntentEntity) : (received paymentIntent).amountMinor = paymentIntent.amountMinor ∧
    (received paymentIntent).ledgerTransactionId = paymentIntent.ledgerTransactionId := by
  unfold received
  split <;> exact ⟨rfl, rfl⟩

theorem settled_kept
    (outcome : Processed runtime context callback db paymentIntent upserted settled row finance billing) :
    settled.amountMinor = paymentIntent.amountMinor ∧
      (paymentIntent.ledgerTransactionId ≠ none → settled.ledgerTransactionId ≠ none) := by
  obtain ⟨amount, ledger⟩ := received_kept paymentIntent
  cases outcome with
  | failed => exact ⟨amount, fun posted => by rwa [← ledger] at posted⟩
  | repeated => exact ⟨rfl, id⟩
  | recovered => exact ⟨amount, nofun⟩
  | attached => exact ⟨amount, fun posted => by rwa [← ledger] at posted⟩
  | tooLate => exact ⟨rfl, id⟩
  | completed => exact ⟨amount, nofun⟩

theorem Settled.intent (done : Settled runtime context callback db after paymentIntent upserted settled row)
    (present : paymentIntent ∈ db.payments.intents.rows) {intent : PaymentIntentEntity}
    (member : intent ∈ db.payments.intents.rows) :
    ∃ next ∈ after.payments.intents.rows, next.id = intent.id ∧ next.amountMinor = intent.amountMinor ∧
      (intent.ledgerTransactionId ≠ none → next.ledgerTransactionId ≠ none) := by
  by_cases same : intent.id = paymentIntent.id
  · obtain rfl := eq_of_key member present same
    exact ⟨settled, done.intents.own.1, done.intents.own.2, settled_kept done.outcome⟩
  · exact ⟨intent, (done.intents.others intent same).mpr member, rfl, rfl, id⟩

def NewlyPosted (runtime : PaymentsRuntime) (context : CallbackContext) (callback : ParsedMpesaCallback)
    (db : TenantDb) (paymentIntent settled : PaymentIntentEntity) (upserted row : MpesaTransactionEntity)
    (finance : FinanceDb) : Prop :=
  ∃ posted debitAccount creditAccount,
    paymentIntent.ledgerTransactionId = none ∧ upserted.ledgerTransactionId = none ∧
    (postTransaction runtime.toRuntime context.toCallContext (mpesaPosting paymentIntent callback
      paymentIntent.amountMinor debitAccount creditAccount)).run db.finance = .ok (posted, finance) ∧
    settled.ledgerTransactionId = some posted.transactionId ∧ row.ledgerTransactionId = some posted.transactionId

theorem Processed.posting
    (outcome : Processed runtime context callback db paymentIntent upserted settled row finance billing) :
    finance = db.finance ∨ NewlyPosted runtime context callback db paymentIntent settled upserted row finance := by
  cases outcome with
  | completed posted debitAccount creditAccount _ _ _ unposted unsettled _ posting _ =>
    exact .inr ⟨posted, debitAccount, creditAccount, unsettled, unposted, posting, rfl, rfl⟩
  | _ => exact .inl rfl

theorem IntentsPosted.unposted (kept : IntentsPosted db) (present : paymentIntent ∈ db.payments.intents.rows)
    (unsettled : paymentIntent.ledgerTransactionId = none) :
    some paymentIntent.id ∉ db.finance.transactions.map paymentIntentOf := by
  intro member
  obtain ⟨transaction, old, named⟩ := List.mem_map.mp member
  obtain ⟨intent, known, same, -, posted⟩ := kept.intents transaction old
  have id : intent.id = paymentIntent.id := Option.some.inj (same.symm.trans named)
  obtain rfl := eq_of_key known present id
  exact posted unsettled

theorem callback_intentsPosted (kept : IntentsPosted db) {result : PaymentJobResult}
    (succeeded : (processLockedPayment runtime context callback).run db = .ok (result, after)) : IntentsPosted after := by
  obtain ⟨paymentIntent, upserted, settled, row, locked, -, -, done⟩ := processLockedPayment_ok succeeded
  have present := (lockByCheckoutOrMerchantRequestId_some locked).1
  have stored : ∀ transaction ∈ db.finance.transactions, ∃ intent ∈ after.payments.intents.rows,
      paymentIntentOf transaction = some intent.id ∧ transaction.totalAmountMinor = intent.amountMinor ∧
        intent.ledgerTransactionId ≠ none := by
    intro transaction member
    obtain ⟨intent, old, named, total, posted⟩ := kept.intents transaction member
    obtain ⟨next, found, same, amount, ledger⟩ := done.intent present old
    exact ⟨next, found, by rw [named, same], by rw [total, amount], ledger posted⟩
  rcases done.outcome.posting with same | ⟨posted, debitAccount, creditAccount, unsettled, -, ran, ledger, -⟩
  · rw [← same] at stored
    exact ⟨same ▸ kept.books, same ▸ kept.once, stored⟩
  · obtain ⟨books, -, posting⟩ := mpesaPosting_ok kept.books ran
    cases posting with
    | replayed same =>
      rw [← same.2.1] at stored
      exact ⟨books, same.2.1 ▸ kept.once, stored⟩
    | reused same =>
      rw [← same.2.1] at stored
      exact ⟨books, same.2.1 ▸ kept.once, stored⟩
    | inserted transaction transactions answers named total =>
      refine ⟨books, ?_, ?_⟩
      · rw [transactions, List.map_append]
        refine List.nodup_append.mpr ⟨kept.once, List.nodup_singleton _, ?_⟩
        rintro first old second new rfl
        rw [List.mem_singleton.mp new, named] at old
        exact kept.unposted present unsettled old
      · intro other member
        rw [transactions] at member
        rcases List.mem_append.mp member with old | new
        · exact stored other old
        · obtain rfl := List.mem_singleton.mp new
          refine ⟨settled, done.intents.own.1, ?_, ?_, by simp [ledger]⟩
          · rw [named, done.intents.own.2]
          · rw [total, (settled_kept done.outcome).1]

theorem Swept.intent (swept : Swept db after now change)
    {intent : PaymentIntentEntity} (member : intent ∈ db.payments.intents.rows) :
    change intent ∈ after.payments.intents.rows ∧ (change intent).id = intent.id ∧
      (change intent).amountMinor = intent.amountMinor ∧
      (change intent).ledgerTransactionId = intent.ledgerTransactionId ∧
      ((change intent).status = .completed → intent.status = .completed) := by
  refine ⟨(swept.intents _).mpr ⟨intent, member, rfl⟩, ?_⟩
  rcases swept.changes intent member with same | ⟨-, same⟩
  · rw [same]
    exact ⟨rfl, rfl, rfl, id⟩
  · rw [same]
    exact ⟨rfl, rfl, rfl, nofun⟩

theorem sweep_intentsPosted
    (kept : IntentsPosted db) (swept : Swept db after now change) : IntentsPosted after := by
  refine ⟨swept.finance ▸ kept.books, swept.finance ▸ kept.once, fun transaction member => ?_⟩
  rw [swept.finance] at member
  obtain ⟨intent, old, named, total, posted⟩ := kept.intents transaction member
  obtain ⟨found, same, amount, ledger, -⟩ := swept.intent old
  exact ⟨_, found, by rw [named, same], by rw [total, amount], by rwa [ledger]⟩

theorem performPayment_intentsPosted (db : TenantDb) (event : PaymentEvent) (kept : IntentsPosted db) :
    IntentsPosted (performPayment runtime db event) := by
  cases event with
  | callback context callback =>
    exact commit_preserves kept fun _ _ succeeded => callback_intentsPosted kept succeeded
  | sweep now locked =>
    rw [performPayment]
    refine commit_preserves kept fun _ _ succeeded => ?_
    obtain ⟨change, swept⟩ := expireStalePaymentIntents_ok succeeded
    exact sweep_intentsPosted kept swept

end Steps

structure LedgersOwned (runtime : Runtime) (db : TenantDb) : Prop extends IntentsPosted db where
  completed : ∀ intent ∈ db.payments.intents.rows, intent.status = .completed → intent.ledgerTransactionId ≠ none
  ledgers : ∀ intent ∈ db.payments.intents.rows, ∀ ledgerTransactionId,
    intent.ledgerTransactionId = some ledgerTransactionId → ∃ transaction ∈ db.finance.transactions,
      transaction.id = ledgerTransactionId ∧ paymentIntentOf transaction = some intent.id
  funds : ∀ transaction ∈ db.finance.transactions, ∃ checkoutRequestId,
    PostedFor checkoutRequestId db ∧ FundsFrom checkoutRequestId db.finance transaction
  keys : ∀ record ∈ db.finance.idempotencyKeys, ∃ paymentIntent callback amountMinor debitAccount creditAccount,
    buildIdempotencyHash runtime (mpesaPosting paymentIntent callback amountMinor debitAccount creditAccount) =
      .ok record.requestHash ∧ PostedFor callback.checkoutRequestId db

theorem LedgersOwned.distinct {runtime : Runtime} {db : TenantDb} (owned : LedgersOwned runtime db) :
    LedgersDistinct db := by
  intro intent member completed
  refine ⟨owned.completed intent member completed, fun other present same => ?_⟩
  obtain ⟨ledgerTransactionId, posted⟩ := Option.ne_none_iff_exists'.mp (owned.completed intent member completed)
  obtain ⟨transaction, stored, id, named⟩ := owned.ledgers intent member _ posted
  obtain ⟨second, storedSecond, secondId, secondNamed⟩ := owned.ledgers other present _ (same.trans posted)
  obtain rfl : transaction = second :=
    List.inj_on_of_nodup_map owned.books.ids stored storedSecond (id.trans secondId.symm)
  exact Option.some.inj (secondNamed.symm.trans named)

section OwnedSteps

variable {runtime : PaymentsRuntime} {context : CallbackContext} {callback : ParsedMpesaCallback}
  {db after : TenantDb} {paymentIntent settled : PaymentIntentEntity} {upserted row : MpesaTransactionEntity}
  {finance : FinanceDb} {billing : Billing.BillingDb} {first second : String}

theorem row_ledger
    (outcome : Processed runtime context callback db paymentIntent upserted settled row finance billing)
    (posted : upserted.ledgerTransactionId ≠ none) : row.ledgerTransactionId ≠ none := by
  cases outcome with
  | attached => nofun
  | completed => nofun
  | _ => exact posted

theorem Settled.postedFor (done : Settled runtime context callback db after paymentIntent upserted settled row)
    (upsert : Upserted db.payments paymentIntent.id callback upserted) {checkoutRequestId : String}
    (posted : PostedFor checkoutRequestId db) : PostedFor checkoutRequestId after := by
  obtain ⟨other, member, rfl, ledger⟩ := posted
  by_cases same : other.checkoutRequestId = callback.checkoutRequestId
  · refine ⟨row, done.rows.own.1, done.rows.own.2.trans same.symm, row_ledger done.outcome ?_⟩
    have found := find_self _ member
    rw [same] at found
    rw [upsert.ledger, found]
    exact ledger
  · exact ⟨other, (done.rows.others other same).mpr member, rfl, ledger⟩

theorem upserted_notPosted (upsert : Upserted db.payments paymentIntent.id callback upserted)
    (unposted : upserted.ledgerTransactionId = none) : ¬ PostedFor callback.checkoutRequestId db := by
  rintro ⟨other, member, same, ledger⟩
  have found := find_self _ member
  rw [upsert.ledger, ← same, found] at unposted
  exact ledger unposted

theorem mpesaKey_injective
    (same : mpesaLedgerIdempotencyPrefix ++ ":" ++ first = mpesaLedgerIdempotencyPrefix ++ ":" ++ second) :
    first = second :=
  (String.append_right_inj _).mp same

theorem fundsFrom_unique {books : FinanceDb} {transaction : FinancialTransactionEntity}
    (one : FundsFrom first books transaction) (two : FundsFrom second books transaction) : first = second :=
  receivedFunds_injective (Option.some.inj (one.symm.trans two))

theorem LedgersOwned.inserts {debitAccount creditAccount : AccountEntity}
    {posted : PostedFinancialTransaction} (owned : LedgersOwned runtime.toRuntime db)
    (injective : Function.Injective runtime.sha256) (fresh : ¬ PostedFor callback.checkoutRequestId db)
    (posting : PaymentPosted runtime.toRuntime
      (mpesaPosting paymentIntent callback paymentIntent.amountMinor debitAccount creditAccount)
      callback.checkoutRequestId paymentIntent paymentIntent.amountMinor posted db.finance finance) :
    ∃ transaction, finance.transactions = db.finance.transactions ++ [transaction] ∧
      transaction.id = posted.transactionId ∧ paymentIntentOf transaction = some paymentIntent.id ∧
      FundsFrom callback.checkoutRequestId finance transaction ∧
      ∀ old ∈ db.finance.transactions, ∀ checkout, FundsFrom checkout db.finance old → FundsFrom checkout finance old := by
  cases posting with
  | replayed _ record member hashed =>
    obtain ⟨_, other, _, _, _, earlier, posted⟩ := owned.keys record member
    have keys := (buildIdempotencyHash_ok injective hashed earlier).1
    exact absurd (mpesaKey_injective keys ▸ posted) fresh
  | reused _ existing member funds =>
    obtain ⟨checkoutRequestId, posted, earlier⟩ := owned.funds existing member
    exact absurd (fundsFrom_unique funds earlier ▸ posted) fresh
  | inserted transaction transactions answers named _ funds kept =>
    exact ⟨transaction, transactions, answers, named, funds, kept⟩

theorem settled_ledger
    (guarded : CompletesOwner db (.callback context callback))
    (locked : lockByCheckoutOrMerchantRequestId db.payments callback.checkoutRequestId callback.merchantRequestId =
      some paymentIntent)
    (free : ¬ receiptTaken db.payments callback) (upsert : Upserted db.payments paymentIntent.id callback upserted)
    (outcome : Processed runtime context callback db paymentIntent upserted settled row finance billing) :
    NewlyPosted runtime context callback db paymentIntent settled upserted row finance ∨
      finance = db.finance ∧ settled.ledgerTransactionId = paymentIntent.ledgerTransactionId ∧
        (settled.status = .completed → paymentIntent.status = .completed ∨ settled.ledgerTransactionId ≠ none) := by
  obtain ⟨-, ledger⟩ := received_kept paymentIntent
  cases outcome with
  | failed => exact .inr ⟨rfl, ledger, nofun⟩
  | repeated => exact .inr ⟨rfl, rfl, .inl⟩
  | recovered ledgerTransactionId reported given matching posted uncompleted =>
    refine .inr ⟨rfl, ?_, fun _ => .inr nofun⟩
    rw [upsert.ledger] at posted
    obtain ⟨stored, found, same⟩ := Option.bind_eq_some_iff.mp posted
    obtain ⟨member, checkout⟩ := (find_eq_some _).mp found
    have owner := guarded paymentIntent locked stored member checkout free reported (by simp [given]) matching
      uncompleted (by simp [same])
    exact (owner.trans same).symm
  | attached ledgerTransactionId _ _ posted =>
    refine .inr ⟨rfl, ledger, fun _ => .inr ?_⟩
    rw [ledger, posted]
    nofun
  | tooLate => exact .inr ⟨rfl, rfl, .inl⟩
  | completed posted debitAccount creditAccount _ _ _ unposted unsettled _ posting _ =>
    exact .inl ⟨posted, debitAccount, creditAccount, unsettled, unposted, posting, rfl, rfl⟩

theorem callback_ledgersOwned (injective : Function.Injective runtime.sha256)
    (owned : LedgersOwned runtime.toRuntime db) (guarded : CompletesOwner db (.callback context callback))
    {result : PaymentJobResult}
    (succeeded : (processLockedPayment runtime context callback).run db = .ok (result, after)) :
    LedgersOwned runtime.toRuntime after := by
  have intentsPosted := callback_intentsPosted owned.toIntentsPosted succeeded
  obtain ⟨paymentIntent, upserted, settled, row, locked, free, upsert, done⟩ := processLockedPayment_ok succeeded
  have present := (lockByCheckoutOrMerchantRequestId_some locked).1
  have rows : ∀ {checkoutRequestId : String}, PostedFor checkoutRequestId db → PostedFor checkoutRequestId after :=
    done.postedFor upsert
  rcases settled_ledger guarded locked free upsert done.outcome with
    ⟨posted, debitAccount, creditAccount, unsettled, unposted, ran, ledger, attached⟩ | ⟨same, ledger, status⟩
  · have fresh := upserted_notPosted upsert unposted
    obtain ⟨-, keys, posting⟩ := mpesaPosting_ok owned.books ran
    obtain ⟨transaction, transactions, answers, named, funds, kept⟩ := owned.inserts injective fresh posting
    have nowPosted : PostedFor callback.checkoutRequestId after :=
      ⟨row, done.rows.own.1, done.rows.own.2, by simp [attached]⟩
    refine { intentsPosted with completed := ?_, ledgers := ?_, funds := ?_, keys := ?_ }
    · intro intent member completed
      rcases done.intents.cases member with rfl | ⟨old, -⟩
      · simp [ledger]
      · exact owned.completed intent old completed
    · intro intent member ledgerTransactionId own
      rw [transactions]
      rcases done.intents.cases member with rfl | ⟨old, -⟩
      · refine ⟨transaction, List.mem_append_right _ List.mem_cons_self, ?_, ?_⟩
        · exact answers.trans (Option.some.inj (ledger.symm.trans own))
        · rw [named, done.intents.own.2]
      · obtain ⟨stored, found, rest⟩ := owned.ledgers intent old ledgerTransactionId own
        exact ⟨stored, List.mem_append_left _ found, rest⟩
    · intro stored member
      rw [transactions] at member
      rcases List.mem_append.mp member with old | new
      · obtain ⟨checkoutRequestId, posted, first⟩ := owned.funds stored old
        exact ⟨checkoutRequestId, rows posted, kept stored old _ first⟩
      · rw [List.mem_singleton.mp new]
        exact ⟨_, nowPosted, funds⟩
    · intro record member
      rcases keys record member with ⟨old, present, hash⟩ | hashed
      · obtain ⟨intent, other, amount, debit, credit, hashed, posted⟩ := owned.keys old present
        exact ⟨intent, other, amount, debit, credit, hash ▸ hashed, rows posted⟩
      · exact ⟨paymentIntent, callback, _, _, _, hashed, nowPosted⟩
  · refine { intentsPosted with completed := ?_, ledgers := ?_, funds := ?_, keys := ?_ }
    · intro intent member completed
      rcases done.intents.cases member with rfl | ⟨old, -⟩
      · rcases status completed with before | posted
        · rw [ledger]
          exact owned.completed paymentIntent present before
        · exact posted
      · exact owned.completed intent old completed
    · intro intent member ledgerTransactionId own
      rw [same]
      rcases done.intents.cases member with rfl | ⟨old, -⟩
      · rw [done.intents.own.2]
        exact owned.ledgers paymentIntent present ledgerTransactionId (ledger.symm.trans own)
      · exact owned.ledgers intent old ledgerTransactionId own
    · intro stored member
      rw [same] at member ⊢
      obtain ⟨checkoutRequestId, posted, first⟩ := owned.funds stored member
      exact ⟨checkoutRequestId, rows posted, first⟩
    · intro record member
      rw [same] at member
      obtain ⟨intent, other, amount, debit, credit, hashed, posted⟩ := owned.keys record member
      exact ⟨intent, other, amount, debit, credit, hashed, rows posted⟩

theorem sweep_ledgersOwned {now : Int} {change : PaymentIntentEntity → PaymentIntentEntity}
    (owned : LedgersOwned runtime.toRuntime db) (swept : Swept db after now change) :
    LedgersOwned runtime.toRuntime after := by
  have rows {checkoutRequestId : String} (posted : PostedFor checkoutRequestId db) : PostedFor checkoutRequestId after := by
    unfold PostedFor
    rw [swept.rows]
    exact posted
  refine { sweep_intentsPosted owned.toIntentsPosted swept with completed := ?_, ledgers := ?_, funds := ?_, keys := ?_ }
  · intro intent member completed
    obtain ⟨old, present, rfl⟩ := (swept.intents intent).mp member
    obtain ⟨-, -, -, ledger, status⟩ := swept.intent present
    rw [ledger]
    exact owned.completed old present (status completed)
  · intro intent member ledgerTransactionId own
    obtain ⟨old, present, rfl⟩ := (swept.intents intent).mp member
    obtain ⟨-, same, -, ledger, -⟩ := swept.intent present
    rw [same, swept.finance]
    exact owned.ledgers old present ledgerTransactionId (ledger.symm.trans own)
  · intro stored member
    rw [swept.finance] at member ⊢
    obtain ⟨checkoutRequestId, posted, first⟩ := owned.funds stored member
    exact ⟨checkoutRequestId, rows posted, first⟩
  · intro record member
    rw [swept.finance] at member
    obtain ⟨intent, other, amount, debit, credit, hashed, posted⟩ := owned.keys record member
    exact ⟨intent, other, amount, debit, credit, hashed, rows posted⟩

theorem performPayment_ledgersOwned (injective : Function.Injective runtime.sha256) (db : TenantDb)
    (event : PaymentEvent) (owned : LedgersOwned runtime.toRuntime db) (guarded : CompletesOwner db event) :
    LedgersOwned runtime.toRuntime (performPayment runtime db event) := by
  cases event with
  | callback context callback =>
    exact commit_preserves owned fun _ _ succeeded => callback_ledgersOwned injective owned guarded succeeded
  | sweep now locked =>
    rw [performPayment]
    refine commit_preserves owned fun _ _ succeeded => ?_
    obtain ⟨change, swept⟩ := expireStalePaymentIntents_ok succeeded
    exact sweep_ledgersOwned owned swept

end OwnedSteps

/-- In every run at most one transaction is posted for an intent, over its amount. Completed intents have
ledger transactions of their own in every run whose callbacks complete the owners of their rows. -/
theorem completed_intents_have_own_ledgers (runtime : PaymentsRuntime) (injective : Function.Injective runtime.sha256)
    (chart : ChartOfAccounts) (billing : Billing.BillingDb) (payments : PaymentsDb)
    (awaiting : ∀ intent ∈ payments.intents.rows, intent.status ≠ .completed ∧ intent.ledgerTransactionId = none)
    (events : List PaymentEvent) :
    Along (performPayment runtime) PostedOnce ⟨FinanceDb.opened chart, billing, payments⟩ events ∧
      (Meets (performPayment runtime) CompletesOwner ⟨FinanceDb.opened chart, billing, payments⟩ events →
        Along (performPayment runtime) LedgersDistinct ⟨FinanceDb.opened chart, billing, payments⟩ events) := by
  have posted : IntentsPosted ⟨FinanceDb.opened chart, billing, payments⟩ :=
    ⟨books_opened chart, List.nodup_nil, fun _ member => absurd member List.not_mem_nil⟩
  have owned : LedgersOwned runtime.toRuntime ⟨FinanceDb.opened chart, billing, payments⟩ := {
    posted with
    completed := fun intent member completed => absurd completed (awaiting intent member).1
    ledgers := fun intent member _ own => by
      rw [(awaiting intent member).2] at own
      cases own
    funds := fun _ member => absurd member List.not_mem_nil
    keys := fun _ member => absurd member List.not_mem_nil }
  constructor
  · refine along_of_preserves performPayment_intentsPosted (fun db kept => ⟨kept.once, fun transaction member => ?_⟩)
      events posted
    obtain ⟨intent, present, named, total, -⟩ := kept.intents transaction member
    exact ⟨intent, present, named, total⟩
  · exact along_of_meets (performPayment_ledgersOwned injective) (fun db owned => owned.distinct) owned

def sampleSiblings : TenantDb := sampleTenant [sampleIntent "a" 0, sampleIntent "b" 1] (by decide)

theorem sibling_payments_have_own_ledgers :
    Along (performPayment { samplePaymentsRuntime with sha256 := id }) LedgersDistinct sampleSiblings
      [.callback (sampleContext "1") (sampleCallback "b" "b" 0), .sweep 5000 fun _ => false] :=
  (completed_intents_have_own_ledgers { samplePaymentsRuntime with sha256 := id } Function.injective_id
    Finance.sampleChart sampleSiblings.billing sampleSiblings.payments (by decide) _).2
    ⟨by decide, trivial, trivial⟩

theorem mixed_callback_shares_ledger :
    ¬ LedgersDistinct (run (performPayment samplePaymentsRuntime) sampleSiblings
      [.callback (sampleContext "1") (sampleCallback "a" "a" 0),
        .callback (sampleContext "2") (sampleCallback "a" "b" 0)]) := by
  decide +kernel

end ShuleHub.Payments
