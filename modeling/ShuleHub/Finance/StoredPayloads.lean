import ShuleHub.Finance.Books
import ShuleHub.Finance.RequestHash

/-! When a stored transaction is the one that a request asks for. -/

namespace ShuleHub.Finance

open Transaction Idempotency Outcome

variable {accounts : List AccountEntity} {currencyCode : String} {plan : LedgerPostingPlan} {db : FinanceDb}

structure AsksFor (currencyCode : String) (requested : NormalizedEntry) (row : LedgerEntryEntity) : Prop where
  account : row.accountId = requested.accountId
  direction : row.direction = requested.direction
  amount : row.amountMinor = requested.amountMinor
  currency : row.currencyCode = currencyCode
  namedCurrency : ∀ code, requested.currencyCode = some code → code = currencyCode
  description : row.description = requested.description

structure MatchesStored (db : FinanceDb) (payload : NormalizedPayload) (stored : FinancialTransactionEntity) :
    Prop where
  reference : requireNonEmptyText payload.reference "reference" = .ok stored.reference
  description : requireNonEmptyText payload.description "description" = .ok stored.description
  total : Table.total (fun entry => entry.direction = .debit) (·.amountMinor) payload.entries =
    stored.totalAmountMinor
  entries : List.Forall₂ (AsksFor stored.currencyCode) payload.entries (findByTransactionId db stored.id)

structure PlannedAs (currencyCode : String) (requested : NormalizedEntry) (entry : ValidatedLedgerEntry) :
    Prop where
  account : entry.accountId = requested.accountId
  direction : entry.direction = requested.direction
  amount : entry.amountMinor = requested.amountMinor
  currency : entry.currencyCode = currencyCode
  namedCurrency : ∀ code, requested.currencyCode = some code → code = currencyCode
  description : entry.description = requested.description

theorem plannedAs_of_valid {requested : LedgerPostingEntryInput} {line : Nat}
    {entry : ValidatedLedgerEntry} {normalized : NormalizedEntry}
    (valid : ValidEntry accounts requested line entry) (normal : normalizedEntry requested = .ok normalized)
    (currency : entry.currencyCode = currencyCode) : PlannedAs currencyCode normalized entry := by
  simp only [normalizedEntry, bind_ok, pure_ok] at normal
  obtain ⟨amount, normalizedAmount, rfl⟩ := normal
  have amounts : entry.amountMinor = amount := Except.ok.inj (valid.amount.symm.trans normalizedAmount)
  refine ⟨valid.account, valid.direction, amounts, currency, fun code named => ?_, valid.description⟩
  obtain ⟨asked, given, rfl⟩ := Option.map_eq_some_iff.mp named
  exact (valid.currency asked given).trans currency

theorem planned_entries
    {requested : List LedgerPostingEntryInput} {lines : List Nat} {entries : List ValidatedLedgerEntry}
    {normalized : List NormalizedEntry} (enough : requested.length ≤ lines.length)
    (valid : List.Forall₂ (fun pair entry => ValidEntry accounts pair.1 pair.2 entry) (requested.zip lines) entries)
    (normal : requested.mapM normalizedEntry = .ok normalized)
    (currency : ∀ entry ∈ entries, entry.currencyCode = currencyCode) :
    List.Forall₂ (PlannedAs currencyCode) normalized entries := by
  have each := mapM_ok normal
  clear normal
  induction each generalizing lines entries with
  | nil =>
    rw [List.zip_nil_left] at valid
    cases valid
    exact .nil
  | cons head _ ih =>
    cases lines with
    | nil => simp at enough
    | cons line lines =>
      rw [List.zip_cons_cons] at valid
      cases valid with
      | cons first rest =>
        obtain ⟨now, later⟩ := List.forall_mem_cons.mp currency
        exact .cons (plannedAs_of_valid first head now) (ih (by simpa using enough) rest later)

theorem plan_entries {input : PostFinancialTransactionInput} {payload : NormalizedPayload} (planned : ValidPlan accounts input plan)
    (normal : normalizedPayload input = .ok payload) :
    List.Forall₂ (PlannedAs plan.currencyCode) payload.entries plan.entries ∧
      Table.total (fun entry => entry.direction = .debit) (·.amountMinor) payload.entries =
        plan.totalAmountMinor := by
  simp only [normalizedPayload, bind_ok, pure_ok] at normal
  obtain ⟨normalized, each, rfl⟩ := normal
  have entries := planned_entries (by simp) planned.entries each planned.currency
  refine ⟨entries, ?_⟩
  rw [← planned.debits, directionTotal]
  refine Table.total_forall₂ (entries.imp fun requested entry same => ?_)
  exact ⟨by rw [same.direction], same.amount.symm⟩

theorem findByTransactionId_inserted {context : CallContext}
    (lines : plan.entries.map (·.lineNumber) = List.range' 1 plan.entries.length)
    (fresh : ∀ entry ∈ db.ledgerEntries, entry.transactionId ≠ context.newTransactionId)
    (transactions : List FinancialTransactionEntity)
    (idempotencyKeys : List (IdempotencyRecord PostedFinancialTransaction)) :
    findByTransactionId { db with
      transactions
      ledgerEntries := db.ledgerEntries ++ plan.entries.map (entryRow context context.newTransactionId)
      idempotencyKeys } context.newTransactionId = plan.entries.map (entryRow context context.newTransactionId) := by
  have old : (db.ledgerEntries.filter fun entry => entry.transactionId = context.newTransactionId) = [] :=
    List.filter_eq_nil_iff.mpr (by simpa using fresh)
  have new : (plan.entries.map (entryRow context context.newTransactionId)).filter
      (fun entry => entry.transactionId = context.newTransactionId) =
      plan.entries.map (entryRow context context.newTransactionId) :=
    List.filter_eq_self.mpr (by simp [entryRow])
  unfold findByTransactionId
  rw [List.filter_append, old, new, List.nil_append]
  apply List.Pairwise.insertionSort_eq
  have sorted : (plan.entries.map (·.lineNumber)).Pairwise (· ≤ ·) := by
    rw [lines]
    exact List.pairwise_le_range'
  rw [List.pairwise_map] at sorted ⊢
  exact sorted

theorem findByTransactionId_other {rows : List LedgerEntryEntity} {transactionId : String}
    (others : ∀ row ∈ rows, row.transactionId ≠ transactionId)
    (transactions : List FinancialTransactionEntity)
    (idempotencyKeys : List (IdempotencyRecord PostedFinancialTransaction)) :
    findByTransactionId { db with transactions, ledgerEntries := db.ledgerEntries ++ rows, idempotencyKeys }
      transactionId = findByTransactionId db transactionId := by
  have none : (rows.filter fun entry => entry.transactionId = transactionId) = [] :=
    List.filter_eq_nil_iff.mpr (by simpa using others)
  unfold findByTransactionId
  rw [List.filter_append, none, List.append_nil]

theorem postedEntry_ok {accountById : JsMap String AccountEntity} {row : LedgerEntryEntity}
    {entry : PostedLedgerEntry} (rendered : postedEntry accountById row = .ok entry) :
    entry.accountId = row.accountId ∧ entry.direction = row.direction ∧ entry.amountMinor = row.amountMinor ∧
      entry.currencyCode = row.currencyCode ∧ entry.description = row.description := by
  unfold postedEntry at rendered
  split at rendered
  · simp at rendered
  · simp only [pure_ok] at rendered
    subst rendered
    exact ⟨rfl, rfl, rfl, rfl, rfl⟩

theorem hydratePostedTransaction_ok {runtime : Runtime} {idempotencyKey : String}
    {transaction : FinancialTransactionEntity} {response : PostedFinancialTransaction}
    (hydrated : hydratePostedTransaction runtime idempotencyKey transaction db = .ok response) :
    response.transactionId = transaction.id ∧ response.description = transaction.description ∧
      response.currencyCode = transaction.currencyCode ∧
      response.totalAmountMinor = transaction.totalAmountMinor ∧
      List.Forall₂ (fun row entry => entry.accountId = row.accountId ∧ entry.direction = row.direction ∧
        entry.amountMinor = row.amountMinor ∧ entry.currencyCode = row.currencyCode ∧
        entry.description = row.description) (findByTransactionId db transaction.id) response.entries := by
  simp only [hydratePostedTransaction, bind_ok, failIf_ok, buildPostedTransaction,
    pure_ok] at hydrated
  obtain ⟨-, -, entries, rendered, rfl⟩ := hydrated
  refine ⟨rfl, rfl, rfl, rfl, ?_⟩
  have sorted : (findByTransactionId db transaction.id).Pairwise
      fun left right => left.lineNumber ≤ right.lineNumber := by
    have lineOrder : Std.Total fun left right : LedgerEntryEntity => left.lineNumber ≤ right.lineNumber :=
      ⟨fun left right => Nat.le_total _ _⟩
    have transitive : IsTrans LedgerEntryEntity fun left right => left.lineNumber ≤ right.lineNumber :=
      ⟨fun _ _ _ => Nat.le_trans⟩
    exact List.pairwise_insertionSort _ _
  rw [sorted.insertionSort_eq] at rendered
  exact (mapM_ok rendered).imp fun _ _ => postedEntry_ok

theorem assertReferenceReuseCompatible_ok {description : String}
    {existing : PostedFinancialTransaction}
    (compatible : assertReferenceReuseCompatible description plan existing = .ok ()) :
    existing.description = description ∧ existing.currencyCode = plan.currencyCode ∧
      existing.totalAmountMinor = plan.totalAmountMinor ∧
      List.Forall₂ SameEntry existing.entries plan.entries := by
  simp only [assertReferenceReuseCompatible, bind_ok, failIf_ok, not_not] at compatible
  obtain ⟨_, sameDescription, _, sameCurrency, _, sameTotal, _, sameLength, sameEntries⟩ := compatible
  refine ⟨sameDescription, sameCurrency, sameTotal, List.forall₂_iff_zip.mpr ⟨sameLength, ?_⟩⟩
  intro left right member
  by_contra differs
  exact sameEntries ⟨(left, right), member, differs⟩

section Matches

variable {runtime : Runtime} {context : CallContext} {input : PostFinancialTransactionInput}
  {payload : NormalizedPayload} {plan : LedgerPostingPlan} {accounts : List AccountEntity}
  {rows : List LedgerEntryEntity} {db : FinanceDb} {description : String}

theorem asksFor_of_hydrated {currencyCode : String} {requested : List NormalizedEntry}
    {planned : List ValidatedLedgerEntry} {rendered : List PostedLedgerEntry}
    (plans : List.Forall₂ (PlannedAs currencyCode) requested planned)
    (same : List.Forall₂ SameEntry rendered planned)
    (rows_rendered : List.Forall₂ (fun row entry => entry.accountId = row.accountId ∧
      entry.direction = row.direction ∧ entry.amountMinor = row.amountMinor ∧
      entry.currencyCode = row.currencyCode ∧ entry.description = row.description) rows rendered) :
    List.Forall₂ (AsksFor currencyCode) requested rows := by
  induction plans generalizing rendered rows with
  | nil =>
    cases same
    cases rows_rendered
    exact .nil
  | cons head _ ih =>
    cases same with
    | cons sameHead sameRest =>
      cases rows_rendered with
      | cons renderedHead renderedRest =>
        obtain ⟨account, direction, amount, currency, description⟩ := renderedHead
        obtain ⟨account', direction', amount', currency', description'⟩ := sameHead
        exact .cons {
          account := by rw [← account, account', head.account]
          direction := by rw [← direction, direction', head.direction]
          amount := by rw [← amount, amount', head.amount]
          currency := by rw [← currency, currency', head.currency]
          namedCurrency := head.namedCurrency
          description := by rw [← description, description', head.description] }
          (ih sameRest renderedRest)

theorem matchesStored_of_reuse {existing : FinancialTransactionEntity}
    {response : PostedFinancialTransaction}
    (normal : normalizedPayload input = .ok payload) (planned : ValidPlan accounts input plan)
    (referenced : requireNonEmptyText input.reference "reference" = .ok existing.reference)
    (described : requireNonEmptyText input.description "description" = .ok description)
    (hydrated : hydratePostedTransaction runtime input.idempotencyKey existing db = .ok response)
    (compatible : assertReferenceReuseCompatible description plan response = .ok ()) :
    MatchesStored db payload existing := by
  obtain ⟨plans, total⟩ := plan_entries planned normal
  obtain ⟨-, sameDescription, currency, amount, rows⟩ := hydratePostedTransaction_ok hydrated
  obtain ⟨describes, plannedCurrency, plannedTotal, same⟩ := assertReferenceReuseCompatible_ok compatible
  simp only [normalizedPayload, bind_ok, pure_ok] at normal
  obtain ⟨normalized, -, rfl⟩ := normal
  rw [plannedCurrency] at currency
  exact {
    reference := referenced
    description := by rw [← sameDescription, describes]; exact described
    total := by rw [total, ← plannedTotal, amount]
    entries := by rw [← currency]; exact asksFor_of_hydrated plans same rows }

theorem matchesStored_of_insert (db : FinanceDb) {reference : String} (keyId : String)
    (effectiveAt postedAt : Int) (normal : normalizedPayload input = .ok payload)
    (planned : ValidPlan accounts input plan)
    (referenced : requireNonEmptyText input.reference "reference" = .ok reference)
    (described : requireNonEmptyText input.description "description" = .ok description)
    (fresh : ∀ entry ∈ db.ledgerEntries, entry.transactionId ≠ context.newTransactionId)
    (transactions : List FinancialTransactionEntity)
    (idempotencyKeys : List (IdempotencyRecord PostedFinancialTransaction)) :
    MatchesStored { db with
      transactions
      ledgerEntries := db.ledgerEntries ++ plan.entries.map (entryRow context context.newTransactionId)
      idempotencyKeys } payload
      (transactionRow context input reference description plan keyId effectiveAt postedAt) := by
  obtain ⟨plans, total⟩ := plan_entries planned normal
  have lines := planned.lineNumbers
  simp only [normalizedPayload, bind_ok, pure_ok] at normal
  obtain ⟨normalized, -, rfl⟩ := normal
  refine ⟨referenced, described, total, ?_⟩
  change List.Forall₂ _ _ (findByTransactionId _ context.newTransactionId)
  rw [findByTransactionId_inserted lines fresh, List.forall₂_map_right_iff]
  exact plans.imp fun requested entry same =>
    ⟨same.account, same.direction, same.amount, same.currency, same.namedCurrency, same.description⟩

theorem MatchesStored.append {stored : FinancialTransactionEntity}
    (matching : MatchesStored db payload stored)
    (others : ∀ row ∈ rows, row.transactionId ≠ stored.id)
    (transactions : List FinancialTransactionEntity)
    (idempotencyKeys : List (IdempotencyRecord PostedFinancialTransaction)) :
    MatchesStored { db with transactions, ledgerEntries := db.ledgerEntries ++ rows, idempotencyKeys }
      payload stored :=
  { matching with entries := by rw [findByTransactionId_other others]; exact matching.entries }

end Matches

end ShuleHub.Finance
