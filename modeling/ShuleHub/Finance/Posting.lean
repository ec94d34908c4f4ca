import ShuleHub.Finance.Ledger
import ShuleHub.Idempotency

/-! The finance tables of one tenant and `LedgerService.postTransaction` on them. -/

namespace ShuleHub.Finance

open Transaction Idempotency

variable (runtime : Runtime)

def financeIdempotencyScope : String := "finance:ledger:post"

def financeRequestMethod : String := "POST"

def financeRequestPath : String := "/internal/finance/transactions"

def authAnonymousUserId : String := "anonymous"

structure FinancialTransactionEntity where
  id : String
  idempotencyKeyId : String
  reference : String
  description : String
  currencyCode : String
  totalAmountMinor : Nat
  entryCount : Nat
  effectiveAt : Int
  postedAt : Int
  createdByUserId : Option String
  requestId : Option String
  metadata : Json
deriving DecidableEq

structure LedgerEntryEntity where
  id : String
  transactionId : String
  accountId : String
  lineNumber : Nat
  direction : EntryDirection
  amountMinor : Nat
  currencyCode : String
  description : Option String
  metadata : Json
deriving DecidableEq

structure AccountBalanceSnapshot where
  accountId : String
  accountCode : String
  currencyCode : String
  normalBalance : EntryDirection
  debitTotalMinor : Nat
  creditTotalMinor : Nat
  balanceMinor : Int
deriving DecidableEq

structure PostedLedgerEntry where
  entryId : String
  lineNumber : Nat
  accountId : String
  accountCode : String
  accountName : String
  direction : EntryDirection
  amountMinor : Nat
  currencyCode : String
  description : Option String
deriving DecidableEq

structure PostedFinancialTransaction where
  transactionId : String
  tenantId : String
  idempotencyKey : String
  reference : String
  description : String
  currencyCode : String
  totalAmountMinor : Nat
  entryCount : Nat
  postedAt : Int
  effectiveAt : Int
  entries : List PostedLedgerEntry
  balances : List AccountBalanceSnapshot
deriving DecidableEq

variable {response : PostedFinancialTransaction} {record : IdempotencyRecord PostedFinancialTransaction}

structure ChartOfAccounts where
  accounts : List AccountEntity
  accountsDistinct : (accounts.map (·.id)).Nodup
deriving DecidableEq

structure FinanceDb extends ChartOfAccounts where
  transactions : List FinancialTransactionEntity
  ledgerEntries : List LedgerEntryEntity
  idempotencyKeys : List (IdempotencyRecord PostedFinancialTransaction)
deriving DecidableEq

variable {after : FinanceDb}

/-- What a call finds in its request context, and the values that `NOW()` and `gen_random_uuid()`
take in it. -/
structure CallContext where
  now : Int
  userId : Option String
  requestId : Option String
  newIdempotencyId : String
  newTransactionId : String
  newEntryId : Nat → String

variable (context : CallContext) (input : PostFinancialTransactionInput) (reference description : String)
  (transactionId : String) (db : FinanceDb)

def contextUserId : Option String :=
  context.userId.filter fun userId => userId ≠ "" ∧ userId ≠ authAnonymousUserId

def onKeys {A : Type}
    (action : Transaction (List (IdempotencyRecord PostedFinancialTransaction)) Exception A) :
    Transaction FinanceDb Exception A :=
  zoom (·.idempotencyKeys) (fun db idempotencyKeys => { db with idempotencyKeys }) action

def requestLock (idempotencyKey requestHash : String) :
    IdempotencyRequestLock where
  userId := contextUserId context
  scope := financeIdempotencyScope
  idempotencyKey
  requestHash
  requestMethod := financeRequestMethod
  requestPath := financeRequestPath
  ttlSeconds := runtime.idempotencyTtlSeconds

def lockIdempotencyKey :
    Transaction FinanceDb Exception (IdempotencyRecord PostedFinancialTransaction) := do
  let idempotencyKey ← requireNonEmptyText input.idempotencyKey "idempotency_key"
  let requestHash ← buildIdempotencyHash runtime input
  onKeys (lockRequest context.now context.newIdempotencyId
    (requestLock runtime context idempotencyKey requestHash))

def sortedDistinct (ids : List String) : List String :=
  ids.eraseDups.insertionSort fun left right => Json.utf16Units left ≤ Json.utf16Units right

def accountsByIds (accountIds : List String) : List AccountEntity :=
  (db.accounts.filter fun account => account.id ∈ accountIds).insertionSort fun left right =>
    Json.utf16Units left.id ≤ Json.utf16Units right.id

def findByReference (reference : String) : Option FinancialTransactionEntity :=
  db.transactions.find? fun transaction => transaction.reference = reference

def findByTransactionId (transactionId : String) : List LedgerEntryEntity :=
  (db.ledgerEntries.filter fun entry => entry.transactionId = transactionId).insertionSort fun left right =>
    left.lineNumber ≤ right.lineNumber

def entryTotal (direction : EntryDirection) (accountId : String) (entries : List LedgerEntryEntity) : Nat :=
  Table.total (fun entry => entry.accountId = accountId ∧ entry.direction = direction) (·.amountMinor) entries

def calculateBalances (accountIds : List String) : JsMap String AccountBalanceSnapshot :=
  JsMap.ofEntries ((db.accounts.filter fun account => account.id ∈ accountIds).map fun account =>
    (account.id, {
      accountId := account.id
      accountCode := account.code
      currencyCode := account.currencyCode
      normalBalance := account.normalBalance
      debitTotalMinor := entryTotal .debit account.id db.ledgerEntries
      creditTotalMinor := entryTotal .credit account.id db.ledgerEntries
      balanceMinor := 0 }))

def calculateBalanceSnapshot (account : AccountEntity) (totals : Option AccountBalanceSnapshot) :
    AccountBalanceSnapshot :=
  let debitTotal := (totals.map (·.debitTotalMinor)).getD 0
  let creditTotal := (totals.map (·.creditTotalMinor)).getD 0
  { accountId := account.id
    accountCode := account.code
    currencyCode := account.currencyCode
    normalBalance := account.normalBalance
    debitTotalMinor := debitTotal
    creditTotalMinor := creditTotal
    balanceMinor :=
      if account.normalBalance = .debit then (debitTotal : Int) - creditTotal
      else (creditTotal : Int) - debitTotal }

def postedEntry (accountById : JsMap String AccountEntity) (entry : LedgerEntryEntity) :
    Except Exception PostedLedgerEntry :=
  match accountById.get? entry.accountId with
  | none => fail (.notFound ("Account \"" ++ entry.accountId ++ "\" is missing for response rendering"))
  | some account =>
    return {
      entryId := entry.id
      lineNumber := entry.lineNumber
      accountId := entry.accountId
      accountCode := account.code
      accountName := account.name
      direction := entry.direction
      amountMinor := entry.amountMinor
      currencyCode := entry.currencyCode
      description := entry.description }

def buildPostedTransaction (idempotencyKey : String)
    (transaction : FinancialTransactionEntity) (accounts : List AccountEntity)
    (ledgerEntries : List LedgerEntryEntity) (balances : JsMap String AccountBalanceSnapshot) :
    Except Exception PostedFinancialTransaction := do
  let accountById := JsMap.ofEntries (accounts.map fun account => (account.id, account))
  let entries ← (ledgerEntries.insertionSort fun left right =>
    left.lineNumber ≤ right.lineNumber).mapM (postedEntry accountById)
  let accountBalances := (accounts.map fun account =>
    calculateBalanceSnapshot account (balances.get? account.id)).insertionSort fun left right =>
      runtime.localeLe left.accountCode right.accountCode
  return {
    transactionId := transaction.id
    tenantId := runtime.tenantId
    idempotencyKey
    reference := transaction.reference
    description := transaction.description
    currencyCode := transaction.currencyCode
    totalAmountMinor := transaction.totalAmountMinor
    entryCount := transaction.entryCount
    postedAt := transaction.postedAt
    effectiveAt := transaction.effectiveAt
    entries
    balances := accountBalances }

def hydratePostedTransaction (idempotencyKey : String)
    (transaction : FinancialTransactionEntity) (db : FinanceDb) :
    Except Exception PostedFinancialTransaction := do
  let ledgerEntries := findByTransactionId db transaction.id
  let accountIds := sortedDistinct (ledgerEntries.map (·.accountId))
  let accounts := accountsByIds db accountIds
  failIf (accounts.length ≠ accountIds.length) (.notFound ("Unable to hydrate transaction \""
    ++ transaction.reference ++ "\" because one or more accounts are missing"))
  buildPostedTransaction runtime idempotencyKey transaction accounts ledgerEntries
    (calculateBalances db accountIds)

def SameEntry (existing : PostedLedgerEntry) (requested : ValidatedLedgerEntry) : Prop :=
  existing.accountId = requested.accountId ∧ existing.direction = requested.direction ∧
    existing.amountMinor = requested.amountMinor ∧ existing.currencyCode = requested.currencyCode ∧
    existing.description = requested.description
deriving Decidable

def assertReferenceReuseCompatible (description : String) (postingPlan : LedgerPostingPlan)
    (existing : PostedFinancialTransaction) : Except Exception Unit := do
  let refusal (difference : String) : Exception :=
    .conflict ("Financial reference \"" ++ existing.reference ++ "\" is already posted " ++ difference)
  failIf (existing.description ≠ description) (refusal "with a different description")
  failIf (existing.currencyCode ≠ postingPlan.currencyCode) (refusal "in a different currency")
  failIf (existing.totalAmountMinor ≠ postingPlan.totalAmountMinor) (refusal "with a different amount")
  failIf (existing.entries.length ≠ postingPlan.entries.length) (refusal "with a different entry count")
  failIf (∃ pair ∈ existing.entries.zip postingPlan.entries, ¬ SameEntry pair.1 pair.2)
    (refusal "with a different ledger shape")

def bigintLimit : Nat := 2 ^ 63

def createTransaction (row : FinancialTransactionEntity) : Transaction FinanceDb Exception Unit := do
  let db ← current
  failIf (∃ other ∈ db.transactions, other.id = row.id) (.database "transactions_pkey")
  failIf (∃ other ∈ db.transactions, other.idempotencyKeyId = row.idempotencyKeyId)
    (.database "uq_transactions_tenant_idempotency_key")
  failIf (∃ other ∈ db.transactions, other.reference = row.reference)
    (.database "uq_transactions_tenant_reference")
  failIf (bigintLimit ≤ row.totalAmountMinor) (.database "bigint out of range")
  write fun db => { db with transactions := db.transactions ++ [row] }

def entryRow (entry : ValidatedLedgerEntry) :
    LedgerEntryEntity where
  id := context.newEntryId entry.lineNumber
  transactionId
  accountId := entry.accountId
  lineNumber := entry.lineNumber
  direction := entry.direction
  amountMinor := entry.amountMinor
  currencyCode := entry.currencyCode
  description := entry.description
  metadata := entry.metadata.getD (.obj [])

def insertEntries (entries : List ValidatedLedgerEntry) :
    Transaction FinanceDb Exception (List LedgerEntryEntity) := do
  let rows := entries.map (entryRow context transactionId)
  let db ← current
  failIf (¬ ((db.ledgerEntries ++ rows).map (·.id)).Nodup) (.database "ledger_entries_pkey")
  failIf (¬ ((db.ledgerEntries ++ rows).map fun row => (row.transactionId, row.lineNumber)).Nodup)
    (.database "uq_ledger_entries_transaction_line")
  write fun db => { db with ledgerEntries := db.ledgerEntries ++ rows }
  return rows

def validateFinancialTransactionBalance :
    Except Exception Unit := do
  let entries := findByTransactionId db transactionId
  failIf (entries.length < 2) (.database "financial transaction must have at least two ledger entries")
  failIf ((entries.map (·.currencyCode)).eraseDups.length ≠ 1)
    (.database "financial transaction must use exactly one currency")
  failIf (Table.total (fun entry => entry.direction = .debit) (·.amountMinor) entries ≠
      Table.total (fun entry => entry.direction = .credit) (·.amountMinor) entries)
    (.database "financial transaction is unbalanced")

def reuseReference
    (description : String) (postingPlan : LedgerPostingPlan)
    (record : IdempotencyRecord PostedFinancialTransaction) (existing : FinancialTransactionEntity) :
    Transaction FinanceDb Exception PostedFinancialTransaction := do
  let db ← current
  let existingResponse ← hydratePostedTransaction runtime input.idempotencyKey existing db
  assertReferenceReuseCompatible description postingPlan existingResponse
  onKeys (markCompleted context.now record.id 200 existingResponse)
  return existingResponse

def transactionRow (postingPlan : LedgerPostingPlan) (idempotencyKeyId : String)
    (effectiveAt postedAt : Int) : FinancialTransactionEntity where
  id := context.newTransactionId
  idempotencyKeyId
  reference
  description
  currencyCode := postingPlan.currencyCode
  totalAmountMinor := postingPlan.totalAmountMinor
  entryCount := postingPlan.entryCount
  effectiveAt
  postedAt
  createdByUserId := contextUserId context
  requestId := context.requestId
  metadata := input.metadata.getD (.obj [])

def insertPosting (accounts : List AccountEntity) (postingPlan : LedgerPostingPlan)
    (record : IdempotencyRecord PostedFinancialTransaction) :
    Transaction FinanceDb Exception PostedFinancialTransaction := do
  let effectiveAt ← resolveTimestamp runtime context.now input.effectiveAt
  let postedAt ← resolveTimestamp runtime context.now input.postedAt
  let transaction :=
    transactionRow context input reference description postingPlan record.id effectiveAt postedAt
  createTransaction transaction
  let ledgerEntries ← insertEntries context transaction.id postingPlan.entries
  let db ← current
  let response ← buildPostedTransaction runtime input.idempotencyKey transaction accounts ledgerEntries
    (calculateBalances db (sortedDistinct (input.entries.map (·.accountId))))
  onKeys (markCompleted context.now record.id 201 response)
  validateFinancialTransactionBalance transaction.id db
  return response

def postLocked (record : IdempotencyRecord PostedFinancialTransaction)
    (lookup : FinanceDb → Option FinancialTransactionEntity) :
    Transaction FinanceDb Exception PostedFinancialTransaction := do
  let db ← current
  let accountIds := sortedDistinct (input.entries.map (·.accountId))
  let accounts := accountsByIds db accountIds
  let postingPlan ← buildPostingPlan input accounts
  failIf (accounts.length ≠ accountIds.length)
    (.badRequest "One or more accounts could not be locked for the transaction")
  match lookup db with
  | some existing => reuseReference runtime context input description postingPlan record existing
  | none => insertPosting runtime context input reference description accounts postingPlan record

def answerLocked (record : IdempotencyRecord PostedFinancialTransaction)
    (lookup : FinanceDb → Option FinancialTransactionEntity) :
    Transaction FinanceDb Exception PostedFinancialTransaction :=
  match record.status, record.responseBody with
  | .completed, some response => return response
  | _, _ => postLocked runtime context input reference description record lookup

def postTransaction :
    Transaction FinanceDb Exception PostedFinancialTransaction := do
  let reference ← requireNonEmptyText input.reference "reference"
  let description ← requireNonEmptyText input.description "description"
  let record ← lockIdempotencyKey runtime context input
  answerLocked runtime context input reference description record fun db => findByReference db reference

def createLedgerTransaction (input : CreateLedgerTransactionInput) :
    Transaction FinanceDb Exception PostedFinancialTransaction := do
  let posting ← mapCreateTransaction input
  postTransaction runtime context posting

/-- How a call that holds the key as `record` ends with `response` and the tables `after`: `db` are
the tables with the key row it has locked. -/
inductive Settles (runtime : Runtime) (context : CallContext) (input : PostFinancialTransactionInput)
    (reference description : String) (record : IdempotencyRecord PostedFinancialTransaction)
    (db : FinanceDb) : PostedFinancialTransaction → FinanceDb → Prop
  | reused (postingPlan : LedgerPostingPlan) (existing : FinancialTransactionEntity)
      (response : PostedFinancialTransaction)
      (found : findByReference db reference = some existing)
      (hydrated : hydratePostedTransaction runtime input.idempotencyKey existing db = .ok response)
      (compatible : assertReferenceReuseCompatible description postingPlan response = .ok ())
      (planned : ValidPlan (accountsByIds db (sortedDistinct (input.entries.map (·.accountId)))) input
        postingPlan) :
      Settles runtime context input reference description record db response { db with
        idempotencyKeys := updateById record.id (complete context.now 200 response) db.idempotencyKeys }
  | inserted (postingPlan : LedgerPostingPlan) (effectiveAt postedAt : Int)
      (response : PostedFinancialTransaction)
      (absent : findByReference db reference = none)
      (freshId : ∀ other ∈ db.transactions, other.id ≠ context.newTransactionId)
      (freshKey : ∀ other ∈ db.transactions, other.idempotencyKeyId ≠ record.id)
      (answers : response.transactionId = context.newTransactionId)
      (planned : ValidPlan (accountsByIds db (sortedDistinct (input.entries.map (·.accountId)))) input
        postingPlan) :
      Settles runtime context input reference description record db response { db with
        transactions := db.transactions ++
          [transactionRow context input reference description postingPlan record.id effectiveAt postedAt]
        ledgerEntries := db.ledgerEntries ++
          postingPlan.entries.map (entryRow context context.newTransactionId)
        idempotencyKeys := updateById record.id (complete context.now 201 response) db.idempotencyKeys }

variable {runtime context input} {db}

theorem createTransaction_ok {row : FinancialTransactionEntity} {result : Unit}
    (succeeded : (createTransaction row).run db = .ok (result, after)) :
    (∀ other ∈ db.transactions, other.id ≠ row.id) ∧
      (∀ other ∈ db.transactions, other.idempotencyKeyId ≠ row.idempotencyKeyId) ∧
      (∀ other ∈ db.transactions, other.reference ≠ row.reference) ∧ row.totalAmountMinor < bigintLimit ∧
      after = { db with transactions := db.transactions ++ [row] } := by
  simp only [createTransaction, run_bind_ok, run_current_ok, run_failIf_ok, run_write_ok] at succeeded
  obtain ⟨_, _, ⟨rfl, rfl⟩, _, _, ⟨freshId, rfl⟩, _, _, ⟨freshKey, rfl⟩, _, _, ⟨freshReference, rfl⟩,
    _, _, ⟨small, rfl⟩, rfl⟩ := succeeded
  exact ⟨by simpa using freshId, by simpa using freshKey, by simpa using freshReference,
    Nat.not_le.mp small, rfl⟩

theorem insertEntries_ok {transactionId : String}
    {entries : List ValidatedLedgerEntry} {rows : List LedgerEntryEntity}
    (succeeded : (insertEntries context transactionId entries).run db = .ok (rows, after)) :
    rows = entries.map (entryRow context transactionId) ∧
      after = { db with ledgerEntries := db.ledgerEntries ++ rows } := by
  simp only [insertEntries, run_bind_ok, run_current_ok, run_failIf_ok, run_write_ok, run_pure_ok] at succeeded
  obtain ⟨_, _, ⟨rfl, rfl⟩, _, _, ⟨-, rfl⟩, _, _, ⟨-, rfl⟩, _, _, rfl, rfl, rfl⟩ := succeeded
  exact ⟨rfl, rfl⟩

theorem buildPostedTransaction_ok {idempotencyKey : String}
    {transaction : FinancialTransactionEntity} {accounts : List AccountEntity}
    {ledgerEntries : List LedgerEntryEntity} {balances : JsMap String AccountBalanceSnapshot}
    (built : buildPostedTransaction runtime idempotencyKey transaction accounts ledgerEntries balances =
      .ok response) :
    response.transactionId = transaction.id ∧ response.reference = transaction.reference ∧
      response.description = transaction.description ∧ response.currencyCode = transaction.currencyCode ∧
      response.totalAmountMinor = transaction.totalAmountMinor ∧
      response.idempotencyKey = idempotencyKey := by
  simp only [buildPostedTransaction, Outcome.bind_ok, Outcome.pure_ok] at built
  obtain ⟨_, -, rfl⟩ := built
  exact ⟨rfl, rfl, rfl, rfl, rfl, rfl⟩

theorem postLocked_ok
    {reference description : String}
    (succeeded : (postLocked runtime context input reference description record
      fun db => findByReference db reference).run db = .ok (response, after)) :
    Settles runtime context input reference description record db response after := by
  simp only [postLocked, run_bind_ok, run_current_ok, run_lift_ok, run_failIf_ok] at succeeded
  obtain ⟨_, _, ⟨rfl, rfl⟩, postingPlan, _, ⟨built, rfl⟩, _, _, ⟨-, rfl⟩, rest⟩ := succeeded
  have planned := buildPostingPlan_ok built
  split at rest
  · next existing found =>
    simp only [reuseReference, onKeys, markCompleted, run_bind_ok, run_current_ok, run_lift_ok, run_zoom_ok,
      run_write_ok, run_pure_ok] at rest
    obtain ⟨_, _, ⟨rfl, rfl⟩, _, _, ⟨hydrated, rfl⟩, _, _, ⟨compatible, rfl⟩, _, _, ⟨_, rfl, rfl⟩,
      rfl, rfl⟩ := rest
    exact .reused postingPlan existing _ found hydrated compatible planned
  · next absent =>
    simp only [insertPosting, onKeys, markCompleted, run_bind_ok, run_current_ok, run_lift_ok, run_zoom_ok,
      run_write_ok, run_pure_ok] at rest
    obtain ⟨effectiveAt, _, ⟨-, rfl⟩, postedAt, _, ⟨-, rfl⟩, _, _, created, rows, _, inserted,
      _, _, ⟨rfl, rfl⟩, _, _, ⟨answered, rfl⟩, _, _, ⟨_, rfl, rfl⟩, _, _, ⟨-, rfl⟩, rfl, rfl⟩ := rest
    obtain ⟨freshId, freshKey, -, -, rfl⟩ := createTransaction_ok created
    obtain ⟨rfl, rfl⟩ := insertEntries_ok inserted
    exact .inserted postingPlan effectiveAt postedAt _ absent freshId freshKey
      (buildPostedTransaction_ok answered).1 planned

theorem lockIdempotencyKey_ok
    (succeeded : (lockIdempotencyKey runtime context input).run db = .ok (record, after)) :
    ∃ idempotencyKey requestHash idempotencyKeys,
      requireNonEmptyText input.idempotencyKey "idempotency_key" = .ok idempotencyKey ∧
      buildIdempotencyHash runtime input = .ok requestHash ∧
      (lockRequest context.now context.newIdempotencyId
        (requestLock runtime context idempotencyKey requestHash)).run db.idempotencyKeys =
        .ok (record, idempotencyKeys) ∧
      after = { db with idempotencyKeys } := by
  simp only [lockIdempotencyKey, onKeys, run_bind_ok, run_lift_ok, run_zoom_ok] at succeeded
  obtain ⟨idempotencyKey, _, ⟨named, rfl⟩, requestHash, _, ⟨hashed, rfl⟩, idempotencyKeys, locked, rfl⟩ :=
    succeeded
  exact ⟨idempotencyKey, requestHash, idempotencyKeys, named, hashed, locked, rfl⟩

theorem postTransaction_ok
    (succeeded : (postTransaction runtime context input).run db = .ok (response, after)) :
    ∃ reference description record middle,
      requireNonEmptyText input.reference "reference" = .ok reference ∧
      requireNonEmptyText input.description "description" = .ok description ∧
      (lockIdempotencyKey runtime context input).run db = .ok (record, middle) ∧
      (record.status = .completed ∧ record.responseBody = some response ∧ after = middle ∨
        (record.status ≠ .completed ∨ record.responseBody = none) ∧
          Settles runtime context input reference description record middle response after) := by
  simp only [postTransaction, answerLocked, run_bind_ok, run_lift_ok] at succeeded
  obtain ⟨reference, _, ⟨referenceKnown, rfl⟩, description, _, ⟨described, rfl⟩, record, middle, locked,
    rest⟩ := succeeded
  refine ⟨reference, description, record, middle, referenceKnown, described, locked, ?_⟩
  split at rest
  · next stored completed body =>
    simp only [run_pure_ok] at rest
    obtain ⟨rfl, rfl⟩ := rest
    exact .inl ⟨completed, body, rfl⟩
  · next unanswered =>
    refine .inr ⟨?_, postLocked_ok rest⟩
    by_cases completed : record.status = .completed
    · right
      cases body : record.responseBody with
      | none => rfl
      | some stored => exact (unanswered stored completed body).elim
    · exact .inl completed

end ShuleHub.Finance
