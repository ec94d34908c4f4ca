import ShuleHub.Lib.Table
import ShuleHub.Lib.Transaction
import ShuleHub.Runtime

/-! The double-entry rules of `LedgerService` that need no database. -/

namespace ShuleHub.Finance

open JsText Outcome

variable {message : String} {amount : Nat}

inductive EntryDirection where
  | debit
  | credit
deriving DecidableEq

def EntryDirection.text : EntryDirection → String
  | .debit => "debit"
  | .credit => "credit"

structure LedgerPostingEntryInput where
  accountId : String
  direction : EntryDirection
  amountMinor : String
  currencyCode : Option String
  description : Option String
  metadata : Option Json

variable {requested : List (LedgerPostingEntryInput × Nat)}

structure PostFinancialTransactionInput where
  idempotencyKey : String
  reference : String
  description : String
  effectiveAt : Option String
  postedAt : Option String
  metadata : Option Json
  entries : List LedgerPostingEntryInput

def isCurrencyCode (code : String) : Bool :=
  code.toList.length = 3 && code.toList.all fun c => 'A' ≤ c && c ≤ 'Z'

structure AccountEntity where
  id : String
  code : String
  name : String
  normalBalance : EntryDirection
  currencyCode : String
  allowManualEntries : Bool
  isActive : Bool
  currencyFormat : isCurrencyCode currencyCode = true
deriving DecidableEq

variable {accounts : List AccountEntity}

structure ValidatedLedgerEntry where
  accountId : String
  direction : EntryDirection
  amountMinor : Nat
  currencyCode : String
  description : Option String
  metadata : Option Json
  lineNumber : Nat

variable {entry : ValidatedLedgerEntry} {entries : List ValidatedLedgerEntry}

structure LedgerPostingPlan where
  currencyCode : String
  entryCount : Nat
  totalAmountMinor : Nat
  entries : List ValidatedLedgerEntry

def requireNonEmptyText (value fieldName : String) : Except Exception String := do
  let normalizedValue := JsText.trim value
  failIf (normalizedValue = "") (.badRequest ("Financial transaction " ++ fieldName ++ " is required"))
  return normalizedValue

def normalizeMinorAmount (message amountMinor : String) : Except Exception Nat := do
  let normalizedValue := JsText.trim amountMinor
  failIf (¬ JsText.isPositiveNumeral normalizedValue) (.badRequest message)
  return JsText.decimalValue normalizedValue

def normalizeLedgerAmount : String → Except Exception Nat :=
  normalizeMinorAmount "Ledger entry amounts must be positive integer minor units"

def normalizeCurrency (code : String) : String := JsText.toUpperCase (JsText.trim code)

def validateEntry (accountById : JsMap String AccountEntity) (lineNumber : Nat)
    (entry : LedgerPostingEntryInput) : Except Exception ValidatedLedgerEntry := do
  match accountById.get? entry.accountId with
  | none => fail (.notFound ("Account \"" ++ entry.accountId ++ "\" does not exist in this tenant"))
  | some account =>
    failIf (¬ account.isActive) (.badRequest ("Account \"" ++ account.code ++ "\" is inactive"))
    failIf (¬ account.allowManualEntries)
      (.badRequest ("Account \"" ++ account.code ++ "\" does not allow manual ledger postings"))
    let currencyCode := normalizeCurrency (entry.currencyCode.getD account.currencyCode)
    failIf (currencyCode ≠ JsText.toUpperCase account.currencyCode)
      (.badRequest ("Entry currency \"" ++ currencyCode ++ "\" does not match account \"" ++ account.code
        ++ "\" currency \"" ++ account.currencyCode ++ "\""))
    let amountMinor ← normalizeLedgerAmount entry.amountMinor
    return {
      accountId := entry.accountId
      direction := entry.direction
      amountMinor
      currencyCode
      description := entry.description
      metadata := entry.metadata
      lineNumber }

@[grind =] def validateEntries (accountById : JsMap String AccountEntity) :
    Nat → List LedgerPostingEntryInput → Except Exception (List ValidatedLedgerEntry)
  | _, [] => return []
  | index, entry :: entries => do
    let validated ← validateEntry accountById (index + 1) entry
    let rest ← validateEntries accountById (index + 1) entries
    return validated :: rest

def directionTotal (direction : EntryDirection) (entries : List ValidatedLedgerEntry) : Nat :=
  Table.total (fun entry => entry.direction = direction) (·.amountMinor) entries

def buildPostingPlan (input : PostFinancialTransactionInput) (accounts : List AccountEntity) :
    Except Exception LedgerPostingPlan := do
  failIf (input.entries.length < 2)
    (.badRequest "A financial transaction requires at least two ledger entries")
  let accountById := JsMap.ofEntries (accounts.map fun account => (account.id, account))
  let validatedEntries ← validateEntries accountById 0 input.entries
  match (validatedEntries.map (·.currencyCode)).eraseDups with
  | [currencyCode] =>
    let debitTotal := directionTotal .debit validatedEntries
    let creditTotal := directionTotal .credit validatedEntries
    failIf (debitTotal ≠ creditTotal)
      (.badRequest "Double-entry validation failed: total debits must equal total credits")
    return {
      currencyCode
      entryCount := validatedEntries.length
      totalAmountMinor := debitTotal
      entries := validatedEntries }
  | _ => fail (.badRequest "All ledger entries in a transaction must use the same currency")

def hashedEntry (entry : LedgerPostingEntryInput) : Except Exception Json := do
  let amountMinor ← normalizeLedgerAmount entry.amountMinor
  return .obj [
    ("account_id", .str entry.accountId),
    ("direction", .str entry.direction.text),
    ("amount_minor", jsonNat amountMinor),
    ("currency_code", jsonText (entry.currencyCode.map normalizeCurrency)),
    ("description", jsonText entry.description),
    ("metadata", entry.metadata.getD (.obj []))]

def hashedPayload (input : PostFinancialTransactionInput) : Except Exception Json := do
  let entries ← input.entries.mapM hashedEntry
  return .obj [
    ("idempotency_key", .str input.idempotencyKey),
    ("reference", .str input.reference),
    ("description", .str input.description),
    ("effective_at", jsonText input.effectiveAt),
    ("posted_at", jsonText input.postedAt),
    ("metadata", input.metadata.getD (.obj [])),
    ("entries", .arr entries)]

def buildIdempotencyHash (runtime : Runtime) (input : PostFinancialTransactionInput) :
    Except Exception String := do
  let payload ← hashedPayload input
  return runtime.sha256 (stableSerialize payload)

def resolveTimestamp (runtime : Runtime) (now : Int) (value : Option String) : Except Exception Int :=
  match value with
  | none => return now
  | some "" => return now
  | some value =>
    match runtime.parseDate value with
    | some time => return time
    | none => fail (.badRequest ("Invalid timestamp \"" ++ value ++ "\""))

inductive MinorAmount where
  | text (value : String)
  /-- A JavaScript number, none for one that is not finite. -/
  | number (value : Option JsNumber)
  | bigint (value : Int)
deriving DecidableEq

structure CreateLedgerEntryInput where
  accountId : String
  debit : Option MinorAmount
  credit : Option MinorAmount
  currencyCode : Option String
  description : Option String
  metadata : Option Json

structure CreateLedgerTransactionInput where
  reference : String
  description : String
  effectiveAt : Option String
  postedAt : Option String
  metadata : Option Json
  entries : List CreateLedgerEntryInput

def normalizeOptionalMinorAmount (value : Option MinorAmount) (fieldName : String) :
    Except Exception String :=
  match value with
  | none => return "0"
  | some (.bigint value) => do
    failIf (value < 0) (.badRequest ("Ledger entry " ++ fieldName ++ " amounts cannot be negative"))
    return toString value.toNat
  | some (.number none) =>
    fail (.badRequest ("Ledger entry " ++ fieldName ++ " amounts must be non-negative integers"))
  | some (.number (some value)) => do
    failIf (¬ value.isNonNegativeInteger) (.badRequest ("Ledger entry " ++ fieldName ++ " amounts must be non-negative integers"))
    return value.text
  | some (.text value) =>
    let normalizedValue := JsText.trim value
    if normalizedValue = "" then return "0"
    else do
      failIf (¬ JsText.isDecimal normalizedValue)
        (.badRequest ("Ledger entry " ++ fieldName ++ " amounts must be non-negative integers"))
      return normalizedValue

def mapCreateEntry (entry : CreateLedgerEntryInput) : Except Exception LedgerPostingEntryInput := do
  let debit ← normalizeOptionalMinorAmount entry.debit "debit"
  let credit ← normalizeOptionalMinorAmount entry.credit "credit"
  failIf (debit ≠ "0" ∧ credit ≠ "0") (.badRequest ("Ledger entry for account \"" ++ entry.accountId
    ++ "\" cannot contain both debit and credit amounts"))
  failIf (debit = "0" ∧ credit = "0") (.badRequest ("Ledger entry for account \"" ++ entry.accountId
    ++ "\" must contain a positive debit or credit amount"))
  return {
    accountId := entry.accountId
    direction := if debit ≠ "0" then .debit else .credit
    amountMinor := if debit ≠ "0" then debit else credit
    currencyCode := entry.currencyCode.map normalizeCurrency
    description := entry.description
    metadata := some (entry.metadata.getD (.obj [])) }

def mapCreateTransaction (input : CreateLedgerTransactionInput) :
    Except Exception PostFinancialTransactionInput := do
  let reference ← requireNonEmptyText input.reference "reference"
  let description ← requireNonEmptyText input.description "description"
  let entries ← input.entries.mapM mapCreateEntry
  return {
    idempotencyKey := reference
    reference
    description
    effectiveAt := input.effectiveAt
    postedAt := input.postedAt
    metadata := some (input.metadata.getD (.obj []))
    entries }

theorem toUpperCase_currencyCode {code : String} (format : isCurrencyCode code = true) :
    toUpperCase code = code := by
  have capital : ∀ n < 91, 65 ≤ n → upperChar (Char.ofNat n) = [Char.ofNat n] := by decide
  have unchanged (chars : List Char) (capitals : ∀ c ∈ chars, 'A' ≤ c ∧ c ≤ 'Z') :
      chars.flatMap upperChar = chars := by
    induction chars with
    | nil => rfl
    | cons c chars ih =>
      obtain ⟨first, rest⟩ := List.forall_mem_cons.mp capitals
      have same := capital c.toNat (Nat.lt_succ_of_le first.2) first.1
      rw [Char.ofNat_toNat] at same
      rw [List.flatMap_cons, same, ih rest]
      rfl
  have capitals : ∀ c ∈ code.toList, 'A' ≤ c ∧ c ≤ 'Z' := by
    simp only [isCurrencyCode, Bool.and_eq_true, List.all_eq_true, decide_eq_true_eq] at format
    exact format.2
  rw [toUpperCase, unchanged _ capitals, String.ofList_toList]

theorem normalizeMinorAmount_pos {amountMinor : String}
    (normalized : normalizeMinorAmount message amountMinor = .ok amount) : 0 < amount := by
  simp only [normalizeMinorAmount, bind_ok, failIf_ok, pure_ok] at normalized
  obtain ⟨-, numeral, rfl⟩ := normalized
  exact decimalValue_pos (by simpa using numeral)

theorem normalizeMinorAmount_toString {amountMinor : Nat}
    (normalized : normalizeMinorAmount message (toString amountMinor) = .ok amount) : amount = amountMinor := by
  simp only [normalizeMinorAmount, trim_toString, decimalValue_toString, bind_ok,
    failIf_ok, pure_ok] at normalized
  obtain ⟨-, -, same⟩ := normalized
  exact same.symm

theorem accountById_mem {id : String} {account : AccountEntity}
    (found : (JsMap.ofEntries (accounts.map fun account => (account.id, account))).get? id = some account) :
    account ∈ accounts ∧ account.id = id := by
  unfold JsMap.ofEntries at found
  rw [JsMap.get?_foldl_set] at found
  split at found
  · next entry last =>
    have member := List.mem_of_getLast? last
    simp only [List.mem_filter, List.mem_map, decide_eq_true_eq] at member
    obtain ⟨⟨source, present, rfl⟩, same⟩ := member
    obtain rfl := Option.some.inj found
    exact ⟨present, same⟩
  · simp at found

/-- An entry of a plan: positive, and in the currency of an account that was found. -/
structure ValidEntry (accounts : List AccountEntity) (requested : LedgerPostingEntryInput)
    (lineNumber : Nat) (entry : ValidatedLedgerEntry) : Prop where
  accountKnown : ∃ account ∈ accounts, account.id = entry.accountId ∧ account.currencyCode = entry.currencyCode
  positive : 0 < entry.amountMinor
  line : entry.lineNumber = lineNumber
  amount : normalizeLedgerAmount requested.amountMinor = .ok entry.amountMinor
  account : entry.accountId = requested.accountId
  direction : entry.direction = requested.direction
  currency : ∀ code, requested.currencyCode = some code → normalizeCurrency code = entry.currencyCode
  description : entry.description = requested.description

theorem validateEntry_ok {lineNumber : Nat}
    {requested : LedgerPostingEntryInput}
    (validated : validateEntry (JsMap.ofEntries (accounts.map fun account => (account.id, account)))
      lineNumber requested = .ok entry) : ValidEntry accounts requested lineNumber entry := by
  unfold validateEntry at validated
  split at validated
  · simp at validated
  · next account found =>
    simp only [bind_ok, failIf_ok, pure_ok] at validated
    obtain ⟨-, -, -, -, -, currency, amount, normalized, rfl⟩ := validated
    obtain ⟨present, same⟩ := accountById_mem found
    have code := toUpperCase_currencyCode account.currencyFormat
    exact {
      accountKnown := ⟨account, present, same, by simpa [code, eq_comm] using currency⟩
      positive := normalizeMinorAmount_pos normalized
      line := rfl
      amount := normalized
      account := rfl
      direction := rfl
      currency := fun code given => by rw [given]; rfl
      description := rfl }

theorem validateEntries_ok {index : Nat}
    {requested : List LedgerPostingEntryInput}
    (validated : validateEntries (JsMap.ofEntries (accounts.map fun account => (account.id, account)))
      index requested = .ok entries) :
    List.Forall₂ (fun pair entry => ValidEntry accounts pair.1 pair.2 entry)
      (requested.zip (List.range' (index + 1) requested.length)) entries := by
  induction requested generalizing index entries with
  | nil =>
    simp only [validateEntries, pure_ok] at validated
    subst validated
    exact List.Forall₂.nil
  | cons first requested ih =>
    simp only [validateEntries, bind_ok, pure_ok] at validated
    obtain ⟨entry, head, rest, tail, rfl⟩ := validated
    exact List.Forall₂.cons (validateEntry_ok head) (ih tail)

theorem validEntries_mem
    (valid : List.Forall₂ (fun pair entry => ValidEntry accounts pair.1 pair.2 entry) requested entries) (member : entry ∈ entries) :
    ∃ pair ∈ requested, ValidEntry accounts pair.1 pair.2 entry := by
  induction valid with
  | nil => simp at member
  | @cons pair head requested rest first _ ih =>
    rcases List.mem_cons.mp member with rfl | later
    · exact ⟨pair, List.mem_cons_self, first⟩
    · obtain ⟨found, present, holds⟩ := ih later
      exact ⟨found, List.mem_cons_of_mem _ present, holds⟩

theorem validEntries_lines
    (valid : List.Forall₂ (fun pair entry => ValidEntry accounts pair.1 pair.2 entry) requested entries) :
    entries.map (·.lineNumber) = requested.map Prod.snd := by
  induction valid with
  | nil => rfl
  | cons first _ ih => rw [List.map_cons, List.map_cons, ih, first.line]

theorem eraseDups_singleton {texts : List String} {text : String} (single : texts.eraseDups = [text]) :
    ∀ other ∈ texts, other = text := by
  intro other member
  have kept : other ∈ texts.eraseDups := List.mem_eraseDups.mpr member
  simpa [single] using kept

structure ValidPlan (accounts : List AccountEntity) (input : PostFinancialTransactionInput)
    (plan : LedgerPostingPlan) : Prop where
  entries : List.Forall₂ (fun pair entry => ValidEntry accounts pair.1 pair.2 entry)
    (input.entries.zip (List.range' 1 input.entries.length)) plan.entries
  atLeastTwo : 2 ≤ plan.entries.length
  entryCount : plan.entryCount = plan.entries.length
  lineNumbers : plan.entries.map (·.lineNumber) = List.range' 1 plan.entries.length
  currency : ∀ entry ∈ plan.entries, entry.currencyCode = plan.currencyCode
  debits : directionTotal .debit plan.entries = plan.totalAmountMinor
  credits : directionTotal .credit plan.entries = plan.totalAmountMinor

theorem buildPostingPlan_ok {input : PostFinancialTransactionInput}
    {plan : LedgerPostingPlan} (built : buildPostingPlan input accounts = .ok plan) :
    ValidPlan accounts input plan := by
  simp only [buildPostingPlan, bind_ok, failIf_ok] at built
  obtain ⟨-, enough, entries, validated, rest⟩ := built
  have valid := validateEntries_ok validated
  have lengths : input.entries.length = entries.length := by
    simpa using valid.length_eq
  split at rest
  · next currencyCode single =>
    simp only [bind_ok, failIf_ok, pure_ok] at rest
    obtain ⟨-, balanced, rfl⟩ := rest
    refine {
      entries := valid
      atLeastTwo := by simp only; omega
      entryCount := rfl
      lineNumbers := ?_
      currency := ?_
      debits := rfl
      credits := (not_not.mp balanced).symm }
    · rw [validEntries_lines valid, List.map_snd_zip (by simp), lengths]
    · intro entry member
      exact eraseDups_singleton single _ (List.mem_map_of_mem member)
  · simp at rest

namespace ValidPlan

variable {accounts : List AccountEntity} {input : PostFinancialTransactionInput} {plan : LedgerPostingPlan}

theorem entry_valid (valid : ValidPlan accounts input plan) {entry : ValidatedLedgerEntry}
    (member : entry ∈ plan.entries) :
    0 < entry.amountMinor ∧ entry.currencyCode = plan.currencyCode ∧
      ∃ account ∈ accounts, account.id = entry.accountId ∧ account.currencyCode = plan.currencyCode := by
  obtain ⟨pair, -, holds⟩ := validEntries_mem valid.entries member
  obtain ⟨account, present, same, currency⟩ := holds.accountKnown
  have planned := valid.currency entry member
  exact ⟨holds.positive, planned, account, present, same, currency.trans planned⟩

theorem total_pos (valid : ValidPlan accounts input plan) : 0 < plan.totalAmountMinor := by
  cases entries : plan.entries with
  | nil =>
    have enough := valid.atLeastTwo
    simp [entries] at enough
  | cons first rest =>
    have positive := (valid.entry_valid (show first ∈ plan.entries by simp [entries])).1
    cases direction : first.direction with
    | debit =>
      have debits := valid.debits
      rw [entries, directionTotal, Table.total_cons, if_pos direction] at debits
      omega
    | credit =>
      have credits := valid.credits
      rw [entries, directionTotal, Table.total_cons, if_pos direction] at credits
      omega

end ValidPlan

end ShuleHub.Finance
