import ShuleHub.Integrations.SmsWalletBooks

/-! The monthly limit of a wallet over any number of months: what `monthly_used` counts, and when a reservation is
refused for it. -/

namespace ShuleHub.Integrations

open Runs Transaction SmsWallet SmsWalletBooks KeyedTable

structure MonthlyReservation where
  logId : String
  tenantId : String
  creditCost : Nat
  month : Nat

structure SmsMonths where
  db : SmsDb
  month : Nat
  reservations : List MonthlyReservation

inductive SmsMonthEvent where
  | reserve (input : ReserveSmsCreditsInput) (logId : String)
  | refund (input : RefundSmsCreditsInput)
  | nextMonth

namespace SmsMonths

variable {db : SmsDb} (months : SmsMonths) (tenantId : String)

def remember (input : ReserveSmsCreditsInput) (logId : String) : List MonthlyReservation :=
  months.reservations ++ [⟨logId, input.tenantId, input.creditCost, months.month⟩]

def step : SmsMonthEvent → SmsMonths
  | .reserve input logId =>
    match (reserveSmsCreditsInTransaction input logId).run months.db with
    | .ok (result, db) =>
      { months with db, reservations := if result.accepted then months.remember input logId else months.reservations }
    | .error _ => months
  | .refund input => { months with db := commit (refundSmsCredits input) months.db }
  | .nextMonth => { months with month := months.month + 1 }

def isRefunded (db : SmsDb) (reservation : MonthlyReservation) : Prop :=
  ∃ entry ∈ db.transactions, isRefund reservation.tenantId reservation.logId entry
deriving Decidable

def isHeld (db : SmsDb) (tenantId : String) (reservation : MonthlyReservation) : Bool :=
  reservation.tenantId = tenantId ∧ ¬ isRefunded db reservation

def held : Nat :=
  Totals.total (·.creditCost) (isHeld months.db tenantId) months.reservations

def heldThisMonth : Nat :=
  Totals.total (·.creditCost) (fun reservation =>
    isHeld months.db tenantId reservation && reservation.month = months.month) months.reservations

def heldEarlier : Nat :=
  Totals.total (·.creditCost) (fun reservation =>
    isHeld months.db tenantId reservation && !decide (reservation.month = months.month)) months.reservations

def RefusedForLimit (db : SmsDb) (input : ReserveSmsCreditsInput) (logId : String) : Prop :=
  ∃ result after, (reserveSmsCreditsInTransaction input logId).run db = .ok (result, after) ∧
    result.accepted = false ∧ result.reason = some "SMS monthly limit exceeded"

def CanPay (wallet : SmsWalletRecord) (creditCost : Nat) : Prop :=
  wallet.allowNegativeBalance = false ∧ (creditCost : Int) ≤ wallet.smsBalance
deriving Decidable

/-- What is promised of one call: a reservation that can be paid is refused for the limit if and only if the credits of
this month and its own exceed it. -/
def KeepsLimit : SmsMonthEvent → Prop
  | .reserve input logId =>
    ∀ wallet ∈ months.db.wallets.find input.tenantId, ∀ limit ∈ wallet.monthlyLimit, CanPay wallet input.creditCost →
      (RefusedForLimit months.db input logId ↔ limit < months.heldThisMonth input.tenantId + input.creditCost)
  | .refund _ => True
  | .nextMonth => True

/-- The credits of earlier months take none of the room that this month leaves for the reservation. -/
def EarlierMonthsFit : SmsMonthEvent → Prop
  | .reserve input _ =>
    ∀ wallet ∈ months.db.wallets.find input.tenantId, ∀ limit ∈ wallet.monthlyLimit, CanPay wallet input.creditCost →
      limit < months.heldThisMonth input.tenantId + input.creditCost ∨
        months.heldEarlier input.tenantId + months.heldThisMonth input.tenantId + input.creditCost ≤ limit
  | .refund _ => True
  | .nextMonth => True

/-- `gen_random_uuid()` takes a value that nothing in the database mentions, and a refund is that of a reservation, of
its credits. -/
def IsGenuine : SmsMonthEvent → Prop
  | .reserve _ logId =>
    (∀ log ∈ months.db.logs.rows, log.id ≠ logId) ∧ (∀ entry ∈ months.db.transactions, entry.reference ≠ some logId) ∧
      ∀ reservation ∈ months.reservations, reservation.logId ≠ logId
  | .refund input => ∃ reservation ∈ months.reservations,
    reservation.tenantId = input.tenantId ∧ reservation.logId = input.logId ∧
      reservation.creditCost = input.creditCost
  | .nextMonth => True

instance (months : SmsMonths) : (event : SmsMonthEvent) → Decidable (EarlierMonthsFit months event)
  | .reserve input _ => inferInstanceAs (Decidable (∀ wallet ∈ months.db.wallets.find input.tenantId, _))
  | .refund _ => instDecidableTrue
  | .nextMonth => instDecidableTrue

instance (months : SmsMonths) : (event : SmsMonthEvent) → Decidable (IsGenuine months event)
  | .reserve _ _ => inferInstanceAs (Decidable (_ ∧ _ ∧ _))
  | .refund _ => inferInstanceAs (Decidable (∃ reservation ∈ months.reservations, _))
  | .nextMonth => instDecidableTrue

structure Counted : Prop where
  used : ∀ tenantId, (openedWallet months.db tenantId).monthlyUsed = months.held tenantId
  balances : ∀ tenantId, IsInteger (openedWallet months.db tenantId).smsBalance
  distinct : (months.reservations.map (·.logId)).Nodup

theorem held_split (months : SmsMonths) (tenantId : String) :
    months.held tenantId = months.heldThisMonth tenantId + months.heldEarlier tenantId :=
  Totals.total_split _ _ _ _

theorem counted_start (unused : ∀ wallet ∈ db.wallets.rows, wallet.monthlyUsed = 0)
    (balances : ∀ wallet ∈ db.wallets.rows, IsInteger wallet.smsBalance) (month : Nat) :
    Counted ⟨db, month, []⟩ where
  used tenantId := by
    unfold openedWallet
    cases found : db.wallets.find tenantId with
    | none => rfl
    | some wallet => exact unused wallet ((find_eq_some _).mp found).1
  balances tenantId := by
    unfold openedWallet
    cases found : db.wallets.find tenantId with
    | none => exact (by decide : IsInteger 0)
    | some wallet => exact balances wallet ((find_eq_some _).mp found).1
  distinct := List.nodup_nil

section Wallets

variable {db after : SmsDb} {tenantId : String} {stored : SmsWalletRecord}

theorem openedWallet_opened (same : after.wallets = (opened db tenantId).wallets) (other : String) :
    openedWallet after other = openedWallet db other := by
  unfold openedWallet
  rw [same, find_opened]
  split
  · next own => rw [own]; rfl
  · rfl

theorem openedWallet_stored
    (found : ∀ other, after.wallets.find other = if other = tenantId then some stored else db.wallets.find other)
    (other : String) : openedWallet after other = if other = tenantId then stored else openedWallet db other := by
  unfold openedWallet
  rw [found]
  split <;> rfl

theorem openedWallet_put (own : stored.tenantId = tenantId)
    (wallets : after.wallets = (opened db tenantId).wallets.put stored) (other : String) :
    openedWallet after other = if other = tenantId then stored else openedWallet db other := by
  apply openedWallet_stored
  intro wanted
  rw [wallets, find_put, own, find_opened]
  split <;> rfl

end Wallets

theorem reserve_result {input : ReserveSmsCreditsInput} {logId : String} {after : SmsDb}
    {result : ReservedSmsCredits}
    (succeeded : (reserveSmsCreditsInTransaction input logId).run db = .ok (result, after)) :
    (result.accepted = false ∧ after.wallets = (opened db input.tenantId).wallets ∧
      after.transactions = db.transactions) ∨
    (result.accepted = true ∧ ∃ stored, deducted (openedWallet db input.tenantId) input.creditCost = .ok stored ∧
      after.wallets = (opened db input.tenantId).wallets.put stored ∧
      after.transactions = db.transactions ++ [deductionEntry input logId stored.smsBalance]) := by
  have rejects {reason : String} {balance : Int} (rejected : (rejectSms input logId reason balance).run
      (opened db input.tenantId) = .ok (result, after)) :
      result.accepted = false ∧ after.wallets = (opened db input.tenantId).wallets ∧
        after.transactions = db.transactions := by
    simp only [rejectSms, run_bind_ok, insertSmsLog_ok, run_pure_ok] at rejected
    obtain ⟨_, _, ⟨-, _, rfl⟩, rfl, rfl⟩ := rejected
    exact ⟨rfl, rfl, opened_transactions db input.tenantId⟩
  rw [reserve_run] at succeeded
  split at succeeded
  · exact .inl (rejects succeeded)
  split at succeeded
  · exact .inl (rejects succeeded)
  split at succeeded
  · cases succeeded
  next stored kept =>
  simp only [acceptSms, appendTransaction, run_bind_ok, run_write_ok, run_pure_ok, insertSmsLog_ok] at succeeded
  obtain ⟨_, _, ⟨-, _, rfl⟩, _, _, rfl, rfl, rfl⟩ := succeeded
  exact .inr ⟨rfl, stored, kept, rfl, by rw [opened_transactions]⟩

section Refusal

variable {input : ReserveSmsCreditsInput} {logId : String} {db : SmsDb}

theorem monthlyLimitExceeded_of_refused (refused : RefusedForLimit db input logId) :
    monthlyLimitExceeded (openedWallet db input.tenantId) input.creditCost := by
  obtain ⟨result, after, ran, accepted, reason⟩ := refused
  by_contra within
  rw [reserve_run, if_neg within] at ran
  split at ran
  · simp only [rejectSms, run_bind_ok, run_pure_ok] at ran
    obtain ⟨_, _, -, rfl, -⟩ := ran
    exact absurd (Option.some.inj reason) (by decide)
  split at ran
  · cases ran
  · simp only [acceptSms, run_bind_ok, run_pure_ok] at ran
    obtain ⟨_, _, -, _, _, -, rfl, -⟩ := ran
    cases accepted

theorem refused_of_monthlyLimitExceeded (small : IsInteger input.creditCost)
    (fresh : ∀ log ∈ db.logs.rows, log.id ≠ logId)
    (exceeded : monthlyLimitExceeded (openedWallet db input.tenantId) input.creditCost) :
    RefusedForLimit db input logId := by
  have unused : ∀ log ∈ (opened db input.tenantId).logs.rows,
      log.id ≠ (smsLog input logId .rejected (some "SMS monthly limit exceeded")).id := by
    rw [opened_logs]
    exact fresh
  obtain ⟨after, logged⟩ : ∃ after, (insertSmsLog (smsLog input logId .rejected
      (some "SMS monthly limit exceeded"))).run (opened db input.tenantId) = .ok ((), after) :=
    ⟨_, insertSmsLog_ok.mpr ⟨small, unused, rfl⟩⟩
  refine ⟨⟨false, some "SMS monthly limit exceeded", logId, (openedWallet db input.tenantId).smsBalance, none⟩, after,
    ?_, rfl, rfl⟩
  rw [reserve_run, if_pos exceeded, rejectSms, run_bind, logged]
  rfl

theorem refusedForLimit_iff {wallet : SmsWalletRecord} {limit : Int}
    (found : db.wallets.find input.tenantId = some wallet) (limited : wallet.monthlyLimit = some limit)
    (pays : CanPay wallet input.creditCost) (bounded : IsInteger (openedWallet db input.tenantId).smsBalance)
    (fresh : ∀ log ∈ db.logs.rows, log.id ≠ logId) :
    RefusedForLimit db input logId ↔ limit < (openedWallet db input.tenantId).monthlyUsed + input.creditCost := by
  have own : openedWallet db input.tenantId = wallet := by rw [openedWallet, found, Option.getD_some]
  have exceeded : monthlyLimitExceeded (openedWallet db input.tenantId) input.creditCost ↔
      limit < wallet.monthlyUsed + input.creditCost := by
    simp [monthlyLimitExceeded, own, limited, pays.1]
  rw [own] at bounded
  have small : IsInteger input.creditCost := by
    have enough := pays.2
    unfold IsInteger at bounded ⊢
    omega
  rw [own, ← exceeded]
  exact ⟨monthlyLimitExceeded_of_refused, refused_of_monthlyLimitExceeded small fresh⟩

theorem keepsLimit_iff {months : SmsMonths} (counted : Counted months) {event : SmsMonthEvent}
    (genuine : IsGenuine months event) : KeepsLimit months event ↔ EarlierMonthsFit months event := by
  cases event with
  | reserve input logId =>
    refine forall₂_congr fun wallet found => forall₂_congr fun limit limited => forall_congr' fun pays => ?_
    rw [refusedForLimit_iff found limited pays (counted.balances _) genuine.1, counted.used, held_split]
    constructor
    · intro agrees
      by_cases room : limit < months.heldThisMonth input.tenantId + input.creditCost
      · exact .inl room
      · have fits := mt agrees.mp room
        omega
    · rintro (full | fits)
      · omega
      · omega
  | refund input => exact Iff.rfl
  | nextMonth => exact Iff.rfl

end Refusal

section Steps

variable {months : SmsMonths} {db after : SmsDb} {entry : SmsWalletTransaction} {input : RefundSmsCreditsInput}

theorem isRefunded_append
    (appended : after.transactions = db.transactions ++ [entry]) (reservation : MonthlyReservation) :
    isRefunded after reservation ↔
      isRefunded db reservation ∨ isRefund reservation.tenantId reservation.logId entry := by
  simp [isRefunded, appended, or_and_right, exists_or]

theorem isHeld_congr {reservation : MonthlyReservation}
    (same : isRefunded after reservation ↔ isRefunded db reservation) (tenantId : String) :
    isHeld after tenantId reservation = isHeld db tenantId reservation := by
  apply decide_eq_decide.mpr
  rw [same]

theorem isHeld_of_deduction
    (appended : after.transactions = db.transactions ++ [entry]) (deduction : entry.transactionType = .deduction)
    (tenantId : String) : isHeld after tenantId = isHeld db tenantId := by
  funext reservation
  apply isHeld_congr
  rw [isRefunded_append appended]
  simp [isRefund, deduction]

theorem counted_reserve {input : ReserveSmsCreditsInput} {logId : String} (counted : Counted months)
    (genuine : IsGenuine months (.reserve input logId)) : Counted (months.step (.reserve input logId)) := by
  obtain ⟨-, unmentioned, unreserved⟩ := genuine
  unfold step
  simp only
  split
  next result after ran =>
    rcases reserve_result ran with ⟨refused, wallets, transactions⟩ | ⟨accepted, stored, kept, wallets, transactions⟩
    · have heldSame : isHeld after = isHeld months.db := by
        funext tenantId reservation
        apply isHeld_congr
        rw [isRefunded, transactions, isRefunded]
      rw [refused]
      refine ⟨fun tenantId => ?_, fun tenantId => ?_, counted.distinct⟩
      · rw [openedWallet_opened wallets, counted.used, held, held, heldSame]
        rfl
      · rw [openedWallet_opened wallets]
        exact counted.balances tenantId
    · simp only [deducted, Outcome.bind_ok] at kept
      obtain ⟨_, -, kept⟩ := kept
      have own : stored.tenantId = input.tenantId := (store_tenantId kept).trans (openedWallet_tenantId _ _)
      have opens (other : String) :
          openedWallet after other = if other = input.tenantId then stored else openedWallet months.db other :=
        openedWallet_put own wallets other
      have notRefunded : ¬ isRefunded months.db ⟨logId, input.tenantId, input.creditCost, months.month⟩ := by
        rintro ⟨entry, present, -, -, reference⟩
        exact unmentioned entry present reference
      rw [accepted]
      refine ⟨fun tenantId => ?_, fun tenantId => ?_, ?_⟩
      · rw [opens, held]
        simp only [if_true, remember, Totals.total_append, isHeld_of_deduction transactions rfl]
        have before := counted.used tenantId
        unfold held at before
        by_cases same : tenantId = input.tenantId
        · subst same
          simp [store_monthlyUsed kept, before, Totals.total, isHeld, notRefunded]
        · rw [if_neg same, before]
          simp [Totals.total, isHeld, Ne.symm same]
      · rw [opens]
        split
        · exact store_bounded kept
        · exact counted.balances tenantId
      · simp only [if_true, remember, List.map_append, List.map_cons, List.map_nil]
        apply List.Nodup.append counted.distinct (List.nodup_singleton _)
        simpa using unreserved
  · exact counted

theorem held_refund {balance : Int} (counted : Counted months)
    (genuine : IsGenuine months (.refund input)) (first : ¬ refunded months.db input)
    (appended : after.transactions = months.db.transactions ++ [refundEntry input balance]) (tenantId : String) :
    months.held tenantId = held { months with db := after } tenantId +
      if tenantId = input.tenantId then input.creditCost else 0 := by
  obtain ⟨reservation, member, ownTenant, ownLog, ownCost⟩ := genuine
  have only (other : MonthlyReservation) (present : other ∈ months.reservations) :
      isRefunded after other ↔ isRefunded months.db other ∨ other = reservation := by
    rw [isRefunded_append appended]
    apply or_congr_right
    constructor
    · rintro ⟨-, -, same⟩
      apply List.inj_on_of_nodup_map counted.distinct present member
      exact (Option.some.inj same).symm.trans ownLog.symm
    · rintro rfl
      exact ⟨ownTenant.symm, rfl, congrArg some ownLog.symm⟩
  unfold held
  by_cases same : tenantId = input.tenantId
  · rw [if_pos same]
    subst same
    have counts : isHeld months.db input.tenantId reservation = true := by
      apply decide_eq_true
      refine ⟨ownTenant, fun earlier => first ?_⟩
      obtain ⟨entry, present, refund⟩ := earlier
      exact ⟨entry, present, by rw [← ownTenant, ← ownLog]; exact refund⟩
    rw [Totals.total_remove _ (·.logId) counted.distinct member counts, ownCost, Nat.add_comm]
    congr 1
    apply Totals.total_congr
    intro other present
    have distinct : other.logId ≠ reservation.logId ↔ other ≠ reservation :=
      not_congr ⟨fun same => List.inj_on_of_nodup_map counted.distinct present member same, fun same => by rw [same]⟩
    have kept := only other present
    simp only [isHeld, ← Bool.decide_and]
    apply decide_eq_decide.mpr
    rw [distinct, kept, not_or, and_assoc]
  · rw [if_neg same, Nat.add_zero]
    apply Totals.total_congr
    intro other present
    by_cases owned : other.tenantId = tenantId
    · symm
      apply isHeld_congr
      rw [only other present]
      apply or_iff_left
      rintro rfl
      exact same (owned.symm.trans ownTenant)
    · simp [isHeld, owned]

theorem counted_refund (counted : Counted months)
    (genuine : IsGenuine months (.refund input)) : Counted (months.step (.refund input)) := by
  unfold step
  simp only
  cases ran : (refundSmsCredits input).run months.db with
  | error error =>
    rw [commit_of_error ran]
    exact counted
  | ok outcome =>
    obtain ⟨_, after⟩ := outcome
    rw [commit_of_ok ran]
    have done := refund_ok ran
    cases done with
    | already found => exact counted
    | walletless first small absent =>
      let after : SmsDb := { months.db with transactions := months.db.transactions ++ [refundEntry input 0] }
      have less := @held_refund months after input 0 counted genuine first rfl
      refine ⟨fun tenantId => ?_, counted.balances, counted.distinct⟩
      have kept : (openedWallet months.db tenantId).monthlyUsed = held { months with db := after } tenantId := by
        have before := counted.used tenantId
        rw [less tenantId] at before
        split at before
        · next same =>
          have opening : (openedWallet months.db tenantId).monthlyUsed = 0 := by
            rw [openedWallet, same, absent]
            rfl
          omega
        · exact before
      exact kept
    | returned first old stored found kept =>
      let after : SmsDb := { months.db with
        wallets := months.db.wallets.put stored
        transactions := months.db.transactions ++ [refundEntry input stored.smsBalance] }
      have less := @held_refund months after input stored.smsBalance counted genuine first rfl
      have own : stored.tenantId = input.tenantId :=
        (store_tenantId kept).trans ((find_eq_some _).mp found).2
      have opening : openedWallet months.db input.tenantId = old := by
        rw [openedWallet, found, Option.getD_some]
      have finds (other : String) :
          after.wallets.find other = if other = input.tenantId then some stored else months.db.wallets.find other := by
        rw [← own]
        exact find_put _
      have opens := openedWallet_stored finds
      refine ⟨fun tenantId => ?_, fun tenantId => ?_, counted.distinct⟩
      · have moved : (openedWallet after tenantId).monthlyUsed = held { months with db := after } tenantId := by
          have before := counted.used tenantId
          rw [less tenantId] at before
          rw [opens]
          split
          · next same =>
            rw [if_pos same, same, opening] at before
            rw [store_monthlyUsed kept, same]
            omega
          · next other =>
            rw [if_neg other] at before
            exact before
        exact moved
      · have bounded : IsInteger (openedWallet after tenantId).smsBalance := by
          rw [opens]
          split
          · exact store_bounded kept
          · exact counted.balances tenantId
        exact bounded

theorem counted_step (months : SmsMonths) (event : SmsMonthEvent) (counted : Counted months)
    (genuine : IsGenuine months event) : Counted (months.step event) := by
  cases event with
  | reserve input logId => exact counted_reserve counted genuine
  | refund input => exact counted_refund counted genuine
  | nextMonth => exact ⟨counted.used, counted.balances, counted.distinct⟩

end Steps

end SmsMonths

/-- Over any run of reservations, refunds and months, every reservation is refused for the monthly limit just when the
credits of its own month exceed it, exactly when the credits of earlier months, which are never taken off the counter,
never decide. -/
theorem monthly_limit_is_of_the_month_iff {months : SmsMonths} {events : List SmsMonthEvent}
    (counted : months.Counted) (genuine : Meets SmsMonths.step SmsMonths.IsGenuine months events) :
    Meets SmsMonths.step SmsMonths.KeepsLimit months events ↔
      Meets SmsMonths.step SmsMonths.EarlierMonthsFit months events := by
  apply Runs.meets_iff_meets_of_allowed _ _ counted genuine
  · intro months event counted genuine
    exact SmsMonths.keepsLimit_iff counted genuine
  · intro months event counted genuine _
    exact SmsMonths.counted_step months event counted genuine

namespace SmsMonths

def termWallet : SmsWalletRecord := { newWallet "lakeside" with
  smsBalance := 100
  monthlyLimit := some 10
  balancePolicy := .inr (by decide) }

def firstMonth : SmsMonths := ⟨{ SmsDb.empty with wallets := SmsDb.empty.wallets.put termWallet }, 0, []⟩

def reminder (creditCost : Nat) : ReserveSmsCreditsInput := { feeReminder with creditCost }

theorem counted_firstMonth : Counted firstMonth := by
  apply counted_start
  · decide
  · decide

end SmsMonths

open SmsMonths in
theorem small_bundles_keep_the_monthly_limit :
    Meets step KeepsLimit firstMonth
      [.reserve (reminder 4) "log-1", .reserve (reminder 2) "log-2", .refund failedReminder, .nextMonth,
        .reserve (reminder 6) "log-3"] :=
  (monthly_limit_is_of_the_month_iff counted_firstMonth (by decide +kernel)).mpr (by decide +kernel)

open SmsMonths in
/-- What was used in one month counts against the limit of the next. -/
theorem used_month_fills_the_next :
    Counted firstMonth ∧
      Meets step IsGenuine firstMonth [.reserve (reminder 8) "log-1", .nextMonth, .reserve (reminder 8) "log-2"] ∧
      ¬ Meets step KeepsLimit firstMonth
        [.reserve (reminder 8) "log-1", .nextMonth, .reserve (reminder 8) "log-2"] := by
  refine ⟨counted_firstMonth, by decide +kernel, ?_⟩
  rintro ⟨-, -, keeps, -⟩
  have refused : RefusedForLimit (run step firstMonth [.reserve (reminder 8) "log-1", .nextMonth]).db (reminder 8)
      "log-2" := by
    apply refused_of_monthlyLimitExceeded
    · decide
    · decide +kernel
    · decide +kernel
  obtain ⟨wallet, found, limited, pays⟩ : ∃ wallet,
      (run step firstMonth [.reserve (reminder 8) "log-1", .nextMonth]).db.wallets.find "lakeside" = some wallet ∧
        wallet.monthlyLimit = some 10 ∧ CanPay wallet 8 := by
    decide +kernel
  have full := (keeps wallet found 10 limited pays).mp refused
  exact absurd full (by decide +kernel)

end ShuleHub.Integrations
