import ShuleHub.Integrations.SmsWallet
import ShuleHub.Lib.Totals
import ShuleHub.Lib.Runs

/-! Every wallet agrees with its journal over any run of adjustments, reservations and refunds, exactly
when no credit is moved in a wallet that is not there yet and no adjustment poses as a deduction. -/

namespace ShuleHub.Integrations

open Transaction SmsWallet KeyedTable Outcome

inductive SmsWalletEvent where
  | adjust (input : AdjustWalletInput)
  | reserve (input : ReserveSmsCreditsInput) (logId : String)
  | refund (input : RefundSmsCreditsInput)

namespace SmsWalletBooks

variable {wallet stored : SmsWalletRecord} {input : AdjustWalletInput} {after : SmsDb}
  {log : SmsLog} {result : Unit} {logId : String} {amount : Int} {entries : List SmsWalletTransaction}
  {entry : SmsWalletTransaction} {type : SmsTransactionType} (db : SmsDb) (second : SecondWrite)

@[grind =] def step (db : SmsDb) : SmsWalletEvent → SmsDb
  | .adjust input => commit (adjustWallet second input) db
  | .reserve input logId => commit (reserveSmsCreditsInTransaction input logId) db
  | .refund input => commit (refundSmsCredits input) db

def journal (tenantId : String) : List SmsWalletTransaction :=
  db.transactions.filter fun entry => entry.tenantId = tenantId

def balance (wallet : Option SmsWalletRecord) : Int := (wallet.map (·.smsBalance)).getD 0

def withinLimit (wallet : SmsWalletRecord) : Prop :=
  wallet.allowNegativeBalance = false →
    0 ≤ wallet.smsBalance ∧ ∀ limit ∈ wallet.monthlyLimit, wallet.monthlyUsed ≤ limit

/-- The wallet of a tenant, which has nothing in it before it is there, against the tenant's journal. -/
structure TenantBooks (wallet : Option SmsWalletRecord) (entries : List SmsWalletTransaction) : Prop where
  sum : balance wallet = Journal.total (·.quantity) entries
  running : Journal.Running (·.quantity) (·.balanceAfter) entries
  limits : ∀ row ∈ wallet, withinLimit row

def concerns (type : SmsTransactionType) (log : SmsLog) (entry : SmsWalletTransaction) : Prop :=
  entry.tenantId = log.tenantId ∧ entry.transactionType = type ∧ entry.reference = some log.id
deriving Decidable

def AtMostOne (type : SmsTransactionType) (log : SmsLog) (entries : List SmsWalletTransaction) : Prop :=
  (entries.filter fun entry => concerns type log entry).length ≤ 1

structure Consistent : Prop where
  books : ∀ tenantId, TenantBooks (db.wallets.find tenantId) (journal db tenantId)
  deductedOnce : ∀ log ∈ db.logs.rows, AtMostOne .deduction log db.transactions
  refundedOnce : ∀ log ∈ db.logs.rows, AtMostOne .refund log db.transactions

def openedWallet (tenantId : String) : SmsWalletRecord :=
  (db.wallets.find tenantId).getD (newWallet tenantId)

def admissible (input : AdjustWalletInput) : Prop :=
  let wallet := openedWallet db input.tenantId
  IsInteger input.quantity ∧ IsInteger (wallet.smsBalance + input.quantity) ∧ IsInteger wallet.monthlyUsed ∧
    (wallet.allowNegativeBalance = true ∨ 0 ≤ wallet.smsBalance + input.quantity)
deriving Decidable

def AddsOneTransaction (db : SmsDb) (input : AdjustWalletInput) : Prop :=
  ∃ wallet after entry, (adjustWallet second input).run db = .ok (wallet, after) ∧
    after.transactions = db.transactions ++ [entry] ∧
    entry.tenantId = input.tenantId ∧ entry.quantity = input.quantity

/-- What is asked of one call: the books stay consistent and an admissible adjustment succeeds. -/
def Kept (db : SmsDb) (event : SmsWalletEvent) : Prop :=
  Consistent (step second db event) ∧
    match event with
    | .adjust input => admissible db input → AddsOneTransaction second db input
    | .reserve _ _ => True
    | .refund _ => True

def deductsAgain (input : AdjustWalletInput) : Prop :=
  input.quantity < 0 ∧ ∃ log ∈ db.logs.rows, log.tenantId = input.tenantId ∧ input.reference = some log.id ∧
    ∃ entry ∈ db.transactions, concerns .deduction log entry
deriving Decidable

def refunded (input : RefundSmsCreditsInput) : Prop :=
  ∃ entry ∈ db.transactions, isRefund input.tenantId input.logId entry
deriving Decidable

@[grind =] def WalletReady (db : SmsDb) : SmsWalletEvent → Prop
  | .adjust input =>
    admissible db input →
      second = .updateWins ∧ db.wallets.find input.tenantId ≠ none ∧ ¬ deductsAgain db input
  | .reserve _ _ => True
  | .refund input =>
    db.wallets.find input.tenantId ≠ none ∨ refunded db input ∨ input.creditCost = 0 ∨
      ¬ IsInteger input.creditCost

/-- `gen_random_uuid()` takes a value that nothing in the database mentions. -/
def DrawsFresh : SmsWalletEvent → Prop
  | .reserve _ logId => ∀ entry ∈ db.transactions, entry.reference ≠ some logId
  | .adjust _ => True
  | .refund _ => True

instance (second : SecondWrite) (db : SmsDb) : (event : SmsWalletEvent) → Decidable (WalletReady second db event)
  | .adjust input => inferInstanceAs (Decidable (admissible db input → _ ∧ _))
  | .reserve _ _ => instDecidableTrue
  | .refund _ => inferInstanceAs (Decidable (_ ∨ _))

instance (db : SmsDb) : (event : SmsWalletEvent) → Decidable (DrawsFresh db event)
  | .reserve _ logId => inferInstanceAs (Decidable (∀ entry ∈ db.transactions, entry.reference ≠ some logId))
  | .adjust _ => instDecidableTrue
  | .refund _ => instDecidableTrue

variable {db second}

theorem store_ok {smsBalance monthlyUsed : Int} :
    store wallet smsBalance monthlyUsed = .ok stored ↔
      IsInteger smsBalance ∧ IsInteger monthlyUsed ∧
        ∃ (used : 0 ≤ monthlyUsed) (policy : wallet.allowNegativeBalance = true ∨ 0 ≤ smsBalance),
          stored = { wallet with
            smsBalance
            monthlyUsed
            monthlyUsedNonNegative := used
            balancePolicy := policy } := by
  unfold store integer
  simp only [bind_ok, failIf_ok, not_not, exists_const]
  refine and_congr_right fun _ => and_congr_right fun _ => ?_
  split
  · next used =>
    split
    · next policy =>
      rw [pure_ok]
      exact ⟨fun same => ⟨used, policy, same.symm⟩, by rintro ⟨_, _, same⟩; exact same.symm⟩
    · next refused => exact ⟨by rintro ⟨⟩, by rintro ⟨_, policy, _⟩; exact absurd policy refused⟩
  · next negative => exact ⟨by rintro ⟨⟩, by rintro ⟨used, _⟩; exact absurd used negative⟩

theorem adjustWallet_ok :
    (adjustWallet second input).run db = .ok (wallet, after) ↔
      IsInteger input.quantity ∧ second = .updateWins ∧
        ∃ old, db.wallets.find input.tenantId = some old ∧
          store old (old.smsBalance + input.quantity) old.monthlyUsed = .ok wallet ∧
          after = { db with
            wallets := db.wallets.put wallet
            transactions := db.transactions ++ [adjustmentEntry input wallet] } := by
  unfold adjustWallet updatedWallet integer
  simp only [run_bind_ok, run_lift_ok, run_current_ok, failIf_ok, not_not]
  constructor
  · rintro ⟨_, _, ⟨small, rfl⟩, rows, middle, ⟨_, _, ⟨rfl, rfl⟩, updated⟩, rest⟩
    refine ⟨small, ?_⟩
    cases found : db.wallets.find input.tenantId with
    | none =>
      simp only [found, run_bind_ok, run_pure_ok] at updated
      obtain ⟨_, _, _, rfl, rfl⟩ := updated
      simp [recordAdjustment, mapWallet] at rest
    | some old =>
      cases second with
      | refused => simp [found] at updated
      | insertWins =>
        simp only [found, run_pure_ok] at updated
        obtain ⟨rfl, rfl⟩ := updated
        simp [recordAdjustment, mapWallet] at rest
      | updateWins =>
        simp only [found, putWallet, run_bind_ok, run_lift_ok, run_write_ok, run_pure_ok] at updated
        obtain ⟨stored, _, ⟨kept, rfl⟩, _, _, rfl, rfl, rfl⟩ := updated
        simp only [recordAdjustment, appendTransaction, mapWallet, run_write_ok, run_pure_ok] at rest
        obtain ⟨_, _, rfl, rfl, rfl⟩ := rest
        exact ⟨rfl, old, rfl, kept, rfl⟩
  · rintro ⟨small, rfl, old, found, kept, rfl⟩
    refine ⟨(), db, ⟨small, rfl⟩, some wallet, { db with wallets := db.wallets.put wallet }, ?_, ?_⟩
    · simp [found, putWallet, kept]
    · simp [recordAdjustment, appendTransaction, mapWallet]

def opened (db : SmsDb) (tenantId : String) : SmsDb :=
  match db.wallets.find tenantId with
  | some _ => db
  | none => { db with wallets := db.wallets.put (newWallet tenantId) }

@[simp] theorem opened_logs (db : SmsDb) (tenantId : String) : (opened db tenantId).logs = db.logs := by
  unfold opened
  split <;> rfl

@[simp] theorem opened_transactions (db : SmsDb) (tenantId : String) :
    (opened db tenantId).transactions = db.transactions := by
  unfold opened
  split <;> rfl

theorem find_opened (db : SmsDb) (tenantId other : String) :
    (opened db tenantId).wallets.find other =
      if other = tenantId then some (openedWallet db tenantId) else db.wallets.find other := by
  unfold opened openedWallet
  split
  · next wallet found =>
    split
    · next same => rw [same, found, Option.getD_some]
    · rfl
  · next absent =>
    rw [absent, find_put]
    rfl

theorem openedWallet_tenantId (db : SmsDb) (tenantId : String) :
    (openedWallet db tenantId).tenantId = tenantId := by
  unfold openedWallet
  cases found : db.wallets.find tenantId with
  | none => rfl
  | some wallet => exact ((find_eq_some _).mp found).2

theorem getOrCreateWallet_run (db : SmsDb) (tenantId : String) :
    (getOrCreateWallet tenantId).run db = .ok (openedWallet db tenantId, opened db tenantId) := by
  unfold getOrCreateWallet opened openedWallet
  simp only [run_bind, run_current]
  cases db.wallets.find tenantId <;> rfl

theorem getOrCreateWalletForUpdate_run (db : SmsDb) (tenantId : String) :
    (getOrCreateWalletForUpdate tenantId).run db = .ok (openedWallet db tenantId, opened db tenantId) := by
  unfold getOrCreateWalletForUpdate
  simp only [run_bind, getOrCreateWallet_run, run_current, find_opened, if_true]
  rfl

theorem insertSmsLog_ok :
    (insertSmsLog log).run db = .ok (result, after) ↔
      IsInteger log.creditCost ∧ ∃ fresh : ∀ other ∈ db.logs.rows, other.id ≠ log.id,
        after = { db with logs := db.logs.insert log fresh } := by
  unfold insertSmsLog integer
  simp only [run_bind_ok, run_lift_ok, run_current_ok, failIf_ok, not_not]
  constructor
  · rintro ⟨_, _, ⟨small, rfl⟩, _, _, ⟨rfl, rfl⟩, inserted⟩
    refine ⟨small, ?_⟩
    cases attempt : db.logs.tryInsert log with
    | none => simp [attempt] at inserted
    | some logs =>
      obtain ⟨fresh, rfl⟩ := (tryInsert_eq_some _).mp attempt
      simp only [attempt, run_write_ok] at inserted
      exact ⟨fresh, inserted.symm⟩
  · rintro ⟨small, fresh, rfl⟩
    refine ⟨(), db, ⟨small, rfl⟩, db, db, ⟨rfl, rfl⟩, ?_⟩
    rw [(tryInsert_eq_some _).mpr ⟨fresh, rfl⟩]
    rfl

inductive Reserved (db : SmsDb) (input : ReserveSmsCreditsInput) (logId : String) : SmsDb → Prop where
  | rejected (log : SmsLog) (own : log.id = logId ∧ log.tenantId = input.tenantId)
      (fresh : ∀ other ∈ db.logs.rows, other.id ≠ log.id) :
      Reserved db input logId ⟨(opened db input.tenantId).wallets, db.logs.insert log fresh, db.transactions⟩
  | accepted (log : SmsLog) (own : log.id = logId ∧ log.tenantId = input.tenantId)
      (fresh : ∀ other ∈ db.logs.rows, other.id ≠ log.id) (stored : SmsWalletRecord)
      (allowed : ¬ monthlyLimitExceeded (openedWallet db input.tenantId) input.creditCost)
      (deducted : store (openedWallet db input.tenantId)
        ((openedWallet db input.tenantId).smsBalance - input.creditCost)
        ((openedWallet db input.tenantId).monthlyUsed + input.creditCost) = .ok stored) :
      Reserved db input logId
        ⟨(opened db input.tenantId).wallets.put stored, db.logs.insert log fresh,
          db.transactions ++ [deductionEntry input logId stored.smsBalance]⟩

theorem rejectSms_ok {input : ReserveSmsCreditsInput} {reason : String}
    {result : ReservedSmsCredits}
    (succeeded : (rejectSms input logId reason amount).run (opened db input.tenantId) = .ok (result, after)) :
    Reserved db input logId after := by
  unfold rejectSms at succeeded
  simp only [run_bind_ok, run_pure_ok, insertSmsLog_ok] at succeeded
  obtain ⟨_, _, ⟨_, fresh, rfl⟩, _, rfl⟩ := succeeded
  simp only [opened_logs, opened_transactions] at fresh ⊢
  exact .rejected (smsLog input logId .rejected (some reason)) ⟨rfl, rfl⟩ fresh

def deducted (wallet : SmsWalletRecord) (creditCost : Nat) : Except Exception SmsWalletRecord := do
  integer creditCost
  store wallet (wallet.smsBalance - creditCost) (wallet.monthlyUsed + creditCost)

theorem reserve_run (input : ReserveSmsCreditsInput) (logId : String) (db : SmsDb) :
    (reserveSmsCreditsInTransaction input logId).run db =
      if monthlyLimitExceeded (openedWallet db input.tenantId) input.creditCost then
        (rejectSms input logId "SMS monthly limit exceeded" (openedWallet db input.tenantId).smsBalance).run
          (opened db input.tenantId)
      else if balanceExhausted (openedWallet db input.tenantId) input.creditCost then
        (rejectSms input logId "SMS balance exhausted" (openedWallet db input.tenantId).smsBalance).run
          (opened db input.tenantId)
      else
        match deducted (openedWallet db input.tenantId) input.creditCost with
        | .error error => .error error
        | .ok stored =>
          (acceptSms input logId stored.smsBalance).run
            { opened db input.tenantId with wallets := (opened db input.tenantId).wallets.put stored } := by
  unfold reserveSmsCreditsInTransaction
  rw [run_bind, getOrCreateWalletForUpdate_run]
  simp only
  split
  · rfl
  next within =>
  split
  · rfl
  next covered =>
  have taken : ¬ (balanceExhausted (openedWallet db input.tenantId) input.creditCost ∨
      monthlyLimitExceeded (openedWallet db input.tenantId) input.creditCost) :=
    not_or.mpr ⟨covered, within⟩
  have found : (opened db input.tenantId).wallets.find input.tenantId = some (openedWallet db input.tenantId) := by
    rw [find_opened, if_pos rfl]
  unfold deductCredits deducted
  simp only [run_bind, run_lift, run_current]
  cases integer input.creditCost with
  | error error => rfl
  | ok _ =>
    simp only [Except.map, found, if_neg taken, run_bind, run_lift]
    cases stored : store (openedWallet db input.tenantId)
      ((openedWallet db input.tenantId).smsBalance - input.creditCost)
      ((openedWallet db input.tenantId).monthlyUsed + input.creditCost) with
    | error error => rfl
    | ok row => rfl

theorem reserve_ok {input : ReserveSmsCreditsInput} {result : ReservedSmsCredits}
    (succeeded : (reserveSmsCreditsInTransaction input logId).run db = .ok (result, after)) :
    Reserved db input logId after := by
  rw [reserve_run] at succeeded
  split at succeeded
  · exact rejectSms_ok succeeded
  next within =>
  split at succeeded
  · exact rejectSms_ok succeeded
  split at succeeded
  · cases succeeded
  next stored kept =>
  simp only [deducted, bind_ok] at kept
  obtain ⟨_, -, kept⟩ := kept
  simp only [acceptSms, appendTransaction, run_bind_ok, run_write_ok, run_pure_ok, insertSmsLog_ok] at succeeded
  obtain ⟨_, _, ⟨_, fresh, rfl⟩, _, _, rfl, _, rfl⟩ := succeeded
  simp only [opened_logs, opened_transactions] at fresh ⊢
  exact .accepted (smsLog input logId .queued none) ⟨rfl, rfl⟩ fresh stored within kept

/-- What a refund leaves behind: nothing where the log has one, its transaction alone where the tenant has no
wallet, or the transaction and the credits. -/
inductive Refunded (db : SmsDb) (input : RefundSmsCreditsInput) : SmsDb → Prop where
  | already (found : refunded db input) : Refunded db input db
  | walletless (first : ¬ refunded db input) (small : IsInteger input.creditCost)
      (absent : db.wallets.find input.tenantId = none) :
      Refunded db input { db with transactions := db.transactions ++ [refundEntry input 0] }
  | returned (first : ¬ refunded db input) (old stored : SmsWalletRecord)
      (found : db.wallets.find input.tenantId = some old)
      (kept : store old (old.smsBalance + input.creditCost) (max (old.monthlyUsed - input.creditCost) 0) =
        .ok stored) :
      Refunded db input { db with
        wallets := db.wallets.put stored
        transactions := db.transactions ++ [refundEntry input stored.smsBalance] }

theorem refund_ok {input : RefundSmsCreditsInput}
    (succeeded : (refundSmsCredits input).run db = .ok (result, after)) : Refunded db input after := by
  unfold refundSmsCredits at succeeded
  simp only [run_bind_ok, run_current_ok] at succeeded
  obtain ⟨_, _, ⟨rfl, rfl⟩, succeeded⟩ := succeeded
  simp only [run_ite_ok, run_pure_ok, run_bind_ok] at succeeded
  rcases succeeded with ⟨found, _, rfl⟩ | ⟨first, rows, middle, returning, appended⟩
  · exact .already found
  · simp only [returnCredits, integer, run_bind_ok, run_lift_ok, run_current_ok, failIf_ok,
      not_not] at returning
    obtain ⟨_, _, ⟨small, rfl⟩, _, _, ⟨rfl, rfl⟩, updating⟩ := returning
    cases found : db.wallets.find input.tenantId with
    | none =>
      simp only [found, run_pure_ok] at updating
      obtain ⟨rfl, rfl⟩ := updating
      simp only [appendTransaction, run_write_ok] at appended
      subst appended
      exact .walletless first small found
    | some old =>
      simp only [found, putWallet, run_bind_ok, run_lift_ok, run_write_ok, run_pure_ok] at updating
      obtain ⟨stored, _, ⟨kept, rfl⟩, _, _, rfl, rfl, rfl⟩ := updating
      simp only [appendTransaction, run_write_ok] at appended
      subst appended
      exact .returned first old stored found kept

section Stored

variable {wallet stored : SmsWalletRecord} {smsBalance monthlyUsed : Int}
  (kept : store wallet smsBalance monthlyUsed = .ok stored)
include kept

theorem store_tenantId : stored.tenantId = wallet.tenantId := by
  obtain ⟨_, _, _, _, rfl⟩ := store_ok.mp kept
  rfl

theorem store_smsBalance : stored.smsBalance = smsBalance := by
  obtain ⟨_, _, _, _, rfl⟩ := store_ok.mp kept
  rfl

theorem store_monthlyUsed : stored.monthlyUsed = monthlyUsed := by
  obtain ⟨_, _, _, _, rfl⟩ := store_ok.mp kept
  rfl

theorem store_bounded : IsInteger stored.smsBalance := by
  obtain ⟨bounded, _, _, _, rfl⟩ := store_ok.mp kept
  exact bounded

theorem store_withinLimit
    (limited : wallet.allowNegativeBalance = false → ∀ limit ∈ wallet.monthlyLimit, monthlyUsed ≤ limit) :
    withinLimit stored := by
  obtain ⟨_, _, _, policy, rfl⟩ := store_ok.mp kept
  intro (strict : wallet.allowNegativeBalance = false)
  exact ⟨policy.resolve_left (by simp [strict]), limited strict⟩

end Stored

theorem tenantBooks_opened {tenantId : String}
    (books : TenantBooks (db.wallets.find tenantId) entries) :
    TenantBooks (some (openedWallet db tenantId)) entries := by
  unfold openedWallet
  cases found : db.wallets.find tenantId with
  | none =>
    rw [found] at books
    refine ⟨books.sum, books.running, ?_⟩
    rintro row ⟨⟩ _
    exact ⟨le_rfl, by simp [newWallet]⟩
  | some wallet => exact found ▸ books

theorem tenantBooks_append {wallet : Option SmsWalletRecord} (books : TenantBooks wallet entries)
    (moved : stored.smsBalance = balance wallet + entry.quantity) (noted : entry.balanceAfter = stored.smsBalance)
    (within : withinLimit stored) : TenantBooks (some stored) (entries ++ [entry]) where
  sum := by
    rw [Journal.total_append, Journal.total_singleton, ← books.sum]
    exact moved
  running := by
    apply (Journal.running_append _ _).mpr
    exact ⟨books.running, by rw [noted, moved, books.sum]⟩
  limits := by
    rintro row ⟨⟩
    exact within

theorem journal_append (tenantId : String)
    (appended : after.transactions = db.transactions ++ [entry]) :
    journal after tenantId = journal db tenantId ++ if entry.tenantId = tenantId then [entry] else [] := by
  unfold journal
  rw [appended, List.filter_append, List.filter_singleton]
  simp

theorem books_append (stored : SmsWalletRecord)
    (consistent : Consistent db)
    (wallets : ∀ other, after.wallets.find other =
      if other = entry.tenantId then some stored else db.wallets.find other)
    (appended : after.transactions = db.transactions ++ [entry])
    (own : TenantBooks (some stored) (journal db entry.tenantId ++ [entry])) (tenantId : String) :
    TenantBooks (after.wallets.find tenantId) (journal after tenantId) := by
  rw [wallets, journal_append tenantId appended]
  by_cases same : tenantId = entry.tenantId
  · subst same
    simpa using own
  · rw [if_neg same, if_neg (Ne.symm same), List.append_nil]
    exact consistent.books tenantId

theorem atMostOne_append (before : AtMostOne type log entries)
    (first : concerns type log entry → ∀ other ∈ entries, ¬ concerns type log other) :
    AtMostOne type log (entries ++ [entry]) := by
  unfold AtMostOne at before ⊢
  rw [List.filter_append, List.length_append]
  by_cases matched : concerns type log entry
  · have none : entries.filter (fun other => concerns type log other) = [] :=
      List.filter_eq_nil_iff.mpr (by simpa using first matched)
    rw [none]
    simp [matched]
  · simpa [matched] using before

theorem not_atMostOne_append
    {other : SmsWalletTransaction} (present : other ∈ entries) (old : concerns type log other)
    (again : concerns type log entry) : ¬ AtMostOne type log (entries ++ [entry]) := by
  unfold AtMostOne
  rw [List.filter_append, List.length_append]
  have kept : other ∈ entries.filter fun other => concerns type log other := by simp [present, old]
  have some := List.length_pos_of_mem kept
  simp only [List.filter_singleton, again, decide_true, cond_true, List.length_singleton]
  omega

theorem atMostOne_of_unmentioned
    (unmentioned : ∀ entry ∈ entries, entry.reference ≠ some log.id) : AtMostOne type log entries := by
  have none : entries.filter (fun other => concerns type log other) = [] := by
    apply List.filter_eq_nil_iff.mpr
    intro entry member
    simpa using fun matched : concerns type log entry => unmentioned entry member matched.2.2
  unfold AtMostOne
  rw [none]
  exact Nat.zero_le 1

theorem adjust_consistent (consistent : Consistent db) (new : ¬ deductsAgain db input)
    (succeeded : (adjustWallet second input).run db = .ok (wallet, after)) : Consistent after := by
  obtain ⟨_, _, old, found, kept, rfl⟩ := adjustWallet_ok.mp succeeded
  have own : old.tenantId = input.tenantId := ((find_eq_some _).mp found).2
  have before := consistent.books input.tenantId
  rw [found] at before
  have fields : wallet.tenantId = input.tenantId := (store_tenantId kept).trans own
  refine ⟨books_append wallet consistent ?_ rfl ?_, fun log member => ?_, fun log member => ?_⟩
  · intro other
    rw [find_put, fields]
    rfl
  · apply tenantBooks_append before (store_smsBalance kept) rfl
    exact store_withinLimit kept fun strict => (before.limits old rfl strict).2
  · apply atMostOne_append (consistent.deductedOnce log member)
    rintro ⟨tenant, type, reference⟩ other present deducted
    refine new ⟨?_, log, member, tenant.symm, reference, other, present, deducted⟩
    by_contra added
    have up : (0 : Int) ≤ input.quantity := not_lt.mp added
    simp [adjustmentEntry, up] at type
  · apply atMostOne_append (consistent.refundedOnce log member)
    rintro ⟨_, type, _⟩
    unfold adjustmentEntry at type
    split at type <;> cases type

theorem reserve_consistent {input : ReserveSmsCreditsInput}
    (consistent : Consistent db) (fresh : ∀ entry ∈ db.transactions, entry.reference ≠ some logId)
    (reserved : Reserved db input logId after) : Consistent after := by
  have before := tenantBooks_opened (consistent.books input.tenantId)
  cases reserved with
  | rejected log own unused =>
    have unmentioned : ∀ entry ∈ db.transactions, entry.reference ≠ some log.id := own.1 ▸ fresh
    refine ⟨fun tenantId => ?_, fun other member => ?_, fun other member => ?_⟩
    · simp only [find_opened]
      split
      · next same => exact same ▸ before
      · exact consistent.books tenantId
    · rw [mem_insert] at member
      rcases member with old | rfl
      · exact consistent.deductedOnce other old
      · exact atMostOne_of_unmentioned unmentioned
    · rw [mem_insert] at member
      rcases member with old | rfl
      · exact consistent.refundedOnce other old
      · exact atMostOne_of_unmentioned unmentioned
  | accepted log own unused stored allowed deducted =>
    have unmentioned : ∀ entry ∈ db.transactions, entry.reference ≠ some log.id := own.1 ▸ fresh
    have fields : stored.tenantId = input.tenantId :=
      (store_tenantId deducted).trans (openedWallet_tenantId db input.tenantId)
    refine ⟨books_append stored consistent ?_ rfl ?_, fun other member => ?_, fun other member => ?_⟩
    · intro other
      simp only [find_put, fields, find_opened]
      by_cases same : other = input.tenantId <;> simp [same, deductionEntry]
    · apply tenantBooks_append before _ rfl
      · apply store_withinLimit deducted
        intro strict limit set
        by_contra exceeded
        exact allowed ⟨⟨limit, set, not_le.mp exceeded⟩, strict⟩
      · rw [store_smsBalance deducted]
        exact Int.sub_eq_add_neg
    · rw [mem_insert] at member
      rcases member with old | rfl
      · apply atMostOne_append (consistent.deductedOnce other old)
        rintro ⟨_, _, reference⟩
        have clash : logId = other.id := by simpa [deductionEntry] using reference
        exact absurd (clash.symm.trans own.1.symm) (unused other old)
      · exact atMostOne_append (atMostOne_of_unmentioned unmentioned)
          fun _ entry present matched => unmentioned entry present matched.2.2
    · rw [mem_insert] at member
      rcases member with old | rfl
      · apply atMostOne_append (consistent.refundedOnce other old)
        rintro ⟨_, type, _⟩
        cases type
      · exact atMostOne_append (atMostOne_of_unmentioned unmentioned)
          fun _ entry present matched => unmentioned entry present matched.2.2

theorem refund_first {input : RefundSmsCreditsInput} (first : ¬ refunded db input)
    (log : SmsLog) (matched : concerns .refund log (refundEntry input amount)) :
    ∀ other ∈ db.transactions, ¬ concerns .refund log other := by
  rintro other present ⟨tenant, type, reference⟩
  have sameTenant : input.tenantId = log.tenantId := matched.1
  have sameLog : input.logId = log.id := by simpa [refundEntry] using matched.2.2
  exact first ⟨other, present, tenant.trans sameTenant.symm, type, by rw [reference, sameLog]⟩

theorem refund_logs {input : RefundSmsCreditsInput} (consistent : Consistent db)
    (first : ¬ refunded db input) (log : SmsLog) (member : log ∈ db.logs.rows) :
    AtMostOne .deduction log (db.transactions ++ [refundEntry input amount]) ∧
      AtMostOne .refund log (db.transactions ++ [refundEntry input amount]) := by
  constructor
  · apply atMostOne_append (consistent.deductedOnce log member)
    rintro ⟨_, type, _⟩
    cases type
  · exact atMostOne_append (consistent.refundedOnce log member) (refund_first first log)

theorem refund_consistent {input : RefundSmsCreditsInput} (consistent : Consistent db)
    (ready : db.wallets.find input.tenantId ≠ none ∨ refunded db input ∨ input.creditCost = 0 ∨
      ¬ IsInteger input.creditCost)
    (result : Refunded db input after) : Consistent after := by
  have before := consistent.books input.tenantId
  cases result with
  | already found => exact consistent
  | walletless first small absent =>
    have nothing : input.creditCost = 0 := by
      rcases ready with present | found | nothing | large
      · exact absurd absent present
      · exact absurd found first
      · exact nothing
      · exact absurd small large
    rw [absent] at before
    refine ⟨fun tenantId => ?_, fun log member => (refund_logs consistent first log member).1,
      fun log member => (refund_logs consistent first log member).2⟩
    rw [journal_append tenantId rfl]
    by_cases same : (refundEntry input 0).tenantId = tenantId
    · have own : input.tenantId = tenantId := same
      subst own
      rw [if_pos same, absent]
      refine ⟨?_, (Journal.running_append _ _).mpr ⟨before.running, ?_⟩, before.limits⟩
      · rw [Journal.total_append, ← before.sum]
        simp [refundEntry, nothing, balance]
      · rw [← before.sum]
        simp [refundEntry, nothing, balance]
    · rw [if_neg same, List.append_nil]
      exact consistent.books tenantId
  | returned first old stored found kept =>
    rw [found] at before
    have own : stored.tenantId = input.tenantId :=
      (store_tenantId kept).trans ((find_eq_some _).mp found).2
    refine ⟨books_append stored consistent ?_ rfl ?_, fun log member => (refund_logs consistent first log member).1,
      fun log member => (refund_logs consistent first log member).2⟩
    · intro other
      rw [find_put, own]
      rfl
    · apply tenantBooks_append before (store_smsBalance kept) rfl
      apply store_withinLimit kept
      intro strict limit set
      have bounded := (before.limits old rfl strict).2 limit set
      have used := old.monthlyUsedNonNegative
      omega

theorem admissible_iff {old : SmsWalletRecord}
    (found : db.wallets.find input.tenantId = some old) :
    admissible db input ↔ IsInteger input.quantity ∧
      ∃ stored, store old (old.smsBalance + input.quantity) old.monthlyUsed = .ok stored := by
  unfold admissible openedWallet
  rw [found]
  constructor
  · rintro ⟨small, balance, used, policy⟩
    exact ⟨small, _, store_ok.mpr ⟨balance, used, old.monthlyUsedNonNegative, policy, rfl⟩⟩
  · rintro ⟨small, stored, kept⟩
    obtain ⟨balance, used, _, policy, _⟩ := store_ok.mp kept
    exact ⟨small, balance, used, policy⟩

theorem adjust_kept (consistent : Consistent db)
    (ready : WalletReady second db (.adjust input)) : Kept second db (.adjust input) := by
  constructor
  · apply commit_preserves consistent
    intro wallet after succeeded
    obtain ⟨small, _, old, found, kept, _⟩ := adjustWallet_ok.mp succeeded
    have fits := (admissible_iff found).mpr ⟨small, wallet, kept⟩
    exact adjust_consistent consistent (ready fits).2.2 succeeded
  · intro fits
    obtain ⟨rfl, present, _⟩ := ready fits
    obtain ⟨old, found⟩ := Option.ne_none_iff_exists'.mp present
    obtain ⟨small, stored, kept⟩ := (admissible_iff found).mp fits
    have succeeded := adjustWallet_ok.mpr ⟨small, rfl, old, found, kept, rfl⟩
    exact ⟨stored, _, adjustmentEntry input stored, succeeded, rfl, rfl, rfl⟩

theorem deductsAgain_inconsistent (again : deductsAgain db input)
    (succeeded : (adjustWallet second input).run db = .ok (wallet, after)) : ¬ Consistent after := by
  obtain ⟨negative, log, member, tenant, reference, entry, present, deducted⟩ := again
  obtain ⟨_, _, old, found, kept, rfl⟩ := adjustWallet_ok.mp succeeded
  intro consistent
  apply not_atMostOne_append present deducted _ (consistent.deductedOnce log member)
  exact ⟨tenant.symm, if_neg (not_le.mpr negative), reference⟩

theorem adjust_not_kept
    (unready : ¬ WalletReady second db (.adjust input)) : ¬ Kept second db (.adjust input) := by
  rintro ⟨consistent, succeeds⟩
  apply unready
  intro fits
  obtain ⟨wallet, after, entry, succeeded, _⟩ := succeeds fits
  obtain ⟨_, last, old, found, _⟩ := adjustWallet_ok.mp succeeded
  refine ⟨last, by simp [found], fun again => ?_⟩
  apply deductsAgain_inconsistent again succeeded
  simpa [step, commit, succeeded] using consistent

theorem refund_walletless {input : RefundSmsCreditsInput}
    (absent : db.wallets.find input.tenantId = none) (first : ¬ refunded db input)
    (small : IsInteger input.creditCost) :
    (refundSmsCredits input).run db =
      .ok ((), { db with transactions := db.transactions ++ [refundEntry input 0] }) := by
  have returning : (returnCredits input.tenantId input.creditCost).run db = .ok (none, db) := by
    simp [returnCredits, integer, small, absent]
  unfold refundSmsCredits
  simp only [run_bind_ok, run_current_ok]
  refine ⟨db, db, ⟨rfl, rfl⟩, ?_⟩
  have missing : ¬ ∃ entry ∈ db.transactions, isRefund input.tenantId input.logId entry := first
  rw [if_neg missing]
  simp only [run_bind_ok, returning]
  exact ⟨none, db, rfl, rfl⟩

theorem refund_not_kept {input : RefundSmsCreditsInput}
    (consistent : Consistent db) (unready : ¬ WalletReady second db (.refund input)) :
    ¬ Kept second db (.refund input) := by
  simp only [WalletReady, not_or, not_not] at unready
  obtain ⟨absent, first, some, small⟩ := unready
  have before := (consistent.books input.tenantId).sum
  rintro ⟨after, _⟩
  simp only [step, commit_of_ok (refund_walletless absent first small)] at after
  have books := (after.books input.tenantId).sum
  rw [journal_append input.tenantId rfl, Journal.total_append, ← before] at books
  simp [refundEntry] at books
  exact some books

theorem kept_iff {event : SmsWalletEvent} (consistent : Consistent db)
    (drawn : DrawsFresh db event) : Kept second db event ↔ WalletReady second db event := by
  cases event with
  | adjust input =>
    refine ⟨fun kept => ?_, adjust_kept consistent⟩
    by_contra unready
    exact adjust_not_kept unready kept
  | reserve input logId =>
    refine ⟨fun _ => trivial, fun _ => ⟨?_, trivial⟩⟩
    apply commit_preserves consistent
    intro result after succeeded
    exact reserve_consistent consistent drawn (reserve_ok succeeded)
  | refund input =>
    refine ⟨fun kept => ?_, fun ready => ⟨?_, trivial⟩⟩
    · by_contra unready
      exact refund_not_kept consistent unready kept
    · apply commit_preserves consistent
      intro result after succeeded
      exact refund_consistent consistent ready (refund_ok succeeded)

theorem consistent_empty : Consistent .empty where
  books _ := ⟨rfl, Journal.running_nil _ _, by rintro row ⟨⟩⟩
  deductedOnce _ member := absurd member List.not_mem_nil
  refundedOnce _ member := absurd member List.not_mem_nil

def topUp : AdjustWalletInput where
  tenantId := "lakeside"
  quantity := 100
  reason := "term bundle"
  reference := none
  actorUserId := some "owner"

def feeReminder : ReserveSmsCreditsInput where
  tenantId := "lakeside"
  recipientCiphertext := "+254700000001"
  recipientLast4 := some "0001"
  recipientHash := "254700000001"
  messageCiphertext := none
  messagePreview := some "Fees are due"
  messageType := some "fees"
  creditCost := 2
  sentByUserId := none

def failedReminder : RefundSmsCreditsInput where
  tenantId := "lakeside"
  logId := "log-2"
  creditCost := 2
  reason := "sms_dispatch_failed"
  actorUserId := none

end SmsWalletBooks

/-- Over any run of calls, each call keeps every wallet equal to its journal and every admissible adjustment
succeeds, exactly when each adjustment and each refund finds the wallet it writes, and no negative adjustment
names a log that has its deduction. -/
theorem sms_wallets_keep_their_books_iff_they_are_there (second : SecondWrite) {db : SmsDb}
    {events : List SmsWalletEvent} (consistent : SmsWalletBooks.Consistent db)
    (drawn : Runs.Meets (SmsWalletBooks.step second) SmsWalletBooks.DrawsFresh db events) :
    Runs.Meets (SmsWalletBooks.step second) (SmsWalletBooks.Kept second) db events ↔
      Runs.Meets (SmsWalletBooks.step second) (SmsWalletBooks.WalletReady second) db events := by
  apply Runs.meets_iff_meets_of_allowed _ _ consistent drawn
  · intro db event consistent fresh
    exact SmsWalletBooks.kept_iff consistent fresh
  · intro db event consistent fresh ready
    exact ((SmsWalletBooks.kept_iff consistent fresh).mpr ready).1

open SmsWalletBooks in
theorem sms_wallet_opened_by_a_reservation_keeps_its_books :
    Runs.Meets (step .updateWins) (Kept .updateWins) .empty
      [.reserve feeReminder "log-1", .adjust topUp, .reserve feeReminder "log-2", .refund failedReminder] :=
  (sms_wallets_keep_their_books_iff_they_are_there .updateWins consistent_empty (by decide +kernel)).mpr
    (by decide +kernel)

open SmsWalletBooks in
/-- The first adjustment of a tenant fails whatever the database does with a row that is written twice. -/
theorem first_top_up_of_a_tenant_fails :
    Consistent .empty ∧
      ∀ second, ¬ Runs.Meets (step second) (Kept second) .empty [.adjust topUp] := by
  refine ⟨consistent_empty, ?_⟩
  rintro second ⟨⟨_, succeeds⟩, _⟩
  obtain ⟨wallet, after, entry, succeeded, _⟩ := succeeds (by decide)
  obtain ⟨_, _, old, found, _⟩ := adjustWallet_ok.mp succeeded
  cases found

end ShuleHub.Integrations
