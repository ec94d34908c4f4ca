import ShuleHub.Integrations.PlatformSmsRuns
import ShuleHub.Integrations.SmsDispatch
import ShuleHub.Integrations.SmsMonthlyLimit

/-! What is left of a message once the request that sent it has finished. The rows of a message that is refused, the
mark of one that fails and its refund are written in the transaction that the refusal rolls back. -/

namespace ShuleHub.Integrations

open Transaction SmsWallet SmsWalletBooks SmsSending
open SmsMonths (openedWallet_put)

namespace SmsDeliveries

variable (services : SmsServices) (call : SmsCall) (wallet : SmsWalletRecord)

def balanceOf (db : SmsDb) (tenantId : String) : Int := (openedWallet db tenantId).smsBalance

/-- The status that the log of a message is to have: it depends on the credits and on the provider. -/
def matchingStatus : SmsLogStatus :=
  if monthlyLimitExceeded wallet (creditCost call) ∨ balanceExhausted wallet (creditCost call) then .rejected
  else if call.answer.accepts then .sent
  else .failed

def Logged (tenantId : String) (status : SmsLogStatus) (db : SmsDb) : Prop :=
  ∃ log ∈ db.logs.rows, log.id = call.logId ∧ log.tenantId = tenantId ∧ log.status = status

/-- What is asked of a request that has finished: its message is logged, and paid for if the provider has taken it. -/
def Accounted (tables : SmsTables) : Prop :=
  ∃ tenantId, requireTenantId call = .ok tenantId ∧
    Logged call tenantId (matchingStatus call (openedWallet tables.sms tenantId)) (finish services call tables).1.sms ∧
    (balanceOf (finish services call tables).1.sms tenantId = balanceOf tables.sms tenantId - creditCost call ↔
      (finish services call tables).2 ≠ [])

structure Funded (creditCost : Nat) : Prop where
  withinLimit : ¬ monthlyLimitExceeded wallet creditCost
  covered : ¬ balanceExhausted wallet creditCost
  cost : IsInteger creditCost
  balance : IsInteger (wallet.smsBalance - creditCost)
  used : IsInteger (wallet.monthlyUsed + creditCost)

def Acknowledges (answer : ProviderAnswer) : Prop :=
  ∃ status text, answer = .answered status (.ok text) ∧ isOk status = true

def IsReady : Prop :=
  ∃ provider, getDefaultProviderForDispatch services.platform call.providersFirst = .ok provider ∧
    readinessStatus provider = .configured

def IsComplete : Prop :=
  ∃ provider, getDefaultProviderForDispatch services.platform call.providers = .ok (some provider) ∧
    getMissingDispatchFields provider = []

structure Dispatches : Prop where
  complete : IsComplete services call
  acknowledged : Acknowledges call.answer
  read : call.fails .readProvider = false
  marked : call.fails .markSmsLogSent = false

/-- Nothing goes wrong with the request, from the readiness of the provider to the end of the response. -/
structure Delivers : Prop where
  dispatch : services.hasDispatch = true
  ready : IsReady services call
  readFirst : call.fails .readProviderFirst = false
  funded : Funded wallet (creditCost call)
  reserved : call.fails .reserveSmsCredits = false
  dispatched : Dispatches services call
  finished : call.closed = false

section Parts

variable {services : SmsServices} {call : SmsCall} {state after : OpenTransaction SmsTables (List ProviderRequest)}
  {kind : SmsStatement} {provider : DispatchProvider} {tenantId logId : String} {result : Unit}

theorem query_ok {Result : Type} {statement : Transaction SmsTables Exception Result}
    {result : Result} :
    (query call kind statement).run state = (after, .ok result) ↔
      state.aborted = false ∧ call.fails kind = false ∧
        ∃ db, statement.run state.db = .ok (result, db) ∧ { state with db } = after := by
  unfold query
  rw [OpenTransaction.run_query_ok]
  cases call.fails kind <;> simp

theorem getDispatchProvider_ok {providers : PlatformSmsDb} {found : Option DispatchProvider} :
    (getDispatchProvider services call kind providers).run state = (after, .ok found) ↔
      state.aborted = false ∧ call.fails kind = false ∧
        getDefaultProviderForDispatch services.platform providers = .ok found ∧ state = after := by
  unfold getDispatchProvider
  simp only [Effect.run_bind_ok, Effect.run_lift_ok, query_ok]
  constructor
  · rintro ⟨_, _, ⟨sound, runs, _, kept, rfl⟩, found, rfl⟩
    obtain ⟨-, rfl⟩ := run_pure_ok.mp kept
    exact ⟨sound, runs, found, rfl⟩
  · rintro ⟨sound, runs, found, rfl⟩
    exact ⟨(), state, ⟨sound, runs, state.db, rfl, rfl⟩, found, rfl⟩

theorem url_of_complete (complete : getMissingDispatchFields provider = []) :
    JsText.trim (provider.provider.baseUrl.getD "") ≠ "" := by
  unfold getMissingDispatchFields at complete
  simp only [List.append_eq_nil_iff] at complete
  obtain ⟨⟨-, url⟩, -⟩ := complete
  intro blank
  cases known : provider.provider.baseUrl with
  | none => simp [known] at url
  | some text => simp_all [isMissing]

theorem callProvider_ok {input : SmsDispatchInput} {payload : Json}
    (ran : (callProvider services call provider input).run state = (after, .ok payload)) :
    Acknowledges call.answer := by
  unfold callProvider at ran
  simp only [Effect.run_bind_ok] at ran
  obtain ⟨_, _, -, _, _, -, ran⟩ := ran
  cases answer : call.answer with
  | unanswered message taken =>
    rw [answer] at ran
    cases ran
  | answered status text =>
    rw [answer] at ran
    simp only [Effect.run_bind_ok, Effect.run_failIf_ok, Effect.run_lift_ok, Bool.not_eq_false] at ran
    obtain ⟨_, _, ⟨accepted, rfl⟩, value, _, ⟨read, rfl⟩, -⟩ := ran
    cases text with
    | error message => cases read
    | ok text => exact ⟨status, text, rfl, accepted⟩

theorem callProvider_run (input : SmsDispatchInput)
    (complete : getMissingDispatchFields provider = []) (acknowledged : Acknowledges call.answer) :
    ∃ payload request, (callProvider services call provider input).run state =
      ({ state with outside := state.outside ++ [request] }, .ok payload) := by
  obtain ⟨status, text, answer, accepted⟩ := acknowledged
  refine ⟨readResponsePayload services text,
    buildProviderRequest provider (JsText.trim (provider.provider.baseUrl.getD "")) input, ?_⟩
  unfold callProvider OpenTransaction.onOutside
  simp only [Effect.run_bind_failIf_of_not (url_of_complete complete), Effect.run_bind_write, answer,
    ProviderAnswer.accepts, accepted]
  rfl

theorem dispatches_of_ok
    (ran : (dispatch services call tenantId logId).run state = (after, .ok result)) : Dispatches services call := by
  unfold dispatch at ran
  rw [Effect.run_bind_ok] at ran
  obtain ⟨sent, middle, sending, marking⟩ := ran
  have marked := (query_ok.mp marking).2.1
  unfold send at sending
  rw [Effect.run_bind_ok] at sending
  obtain ⟨found, _, reading, sending⟩ := sending
  obtain ⟨-, read, found, rfl⟩ := getDispatchProvider_ok.mp reading
  split at sending
  · cases sending
  next provider =>
  simp only [Effect.run_bind_ok, Effect.run_failIf_ok, not_not] at sending
  obtain ⟨_, _, ⟨complete, rfl⟩, _, _, answered, -⟩ := sending
  exact ⟨⟨provider, found, complete⟩, callProvider_ok answered, read, marked⟩

theorem dispatch_run (sound : state.aborted = false) (dispatches : Dispatches services call) :
    ∃ request columns db, (markSmsLogSent tenantId logId columns).run state.db = .ok ((), db) ∧
      (dispatch services call tenantId logId).run state = (⟨db, false, state.outside ++ [request]⟩, .ok ()) := by
  obtain ⟨⟨provider, found, complete⟩, acknowledged, read, marked⟩ := dispatches
  let input : SmsDispatchInput :=
    ⟨some tenantId, recipient call, message call, textOr call.dto.messageType "school_sms"⟩
  obtain ⟨payload, request, answered⟩ : ∃ payload request, (callProvider services call provider input).run state =
      ({ state with outside := state.outside ++ [request] }, .ok payload) :=
    callProvider_run input complete acknowledged
  let messageId := extractProviderMessageId payload
  have sent : (send services call input).run state = ({ state with outside := state.outside ++ [request] },
      .ok ⟨provider.provider.id, provider.provider.providerCode, messageId⟩) := by
    unfold send
    rw [Effect.run_bind_of_ok (getDispatchProvider_ok.mpr ⟨sound, read, found, rfl⟩)]
    simp only [Effect.run_bind_failIf_of_not (not_not.mpr complete)]
    rw [Effect.run_bind_of_ok answered]
    rfl
  let columns : SentColumns := ⟨logId, some provider.provider.id,
    messageId.getD (provider.provider.providerCode.text ++ ":" ++ logId)⟩
  refine ⟨request, columns, _, rfl, ?_⟩
  unfold dispatch
  rw [Effect.run_bind_of_ok sent]
  exact query_ok.mpr ⟨sound, marked, _, rfl, by rw [sound]⟩

theorem giveBack_fails {error : Exception} :
    (giveBack call tenantId logId error).run state ≠ (after, .ok result) := by
  intro ran
  unfold giveBack at ran
  simp only [Effect.run_bind_ok] at ran
  obtain ⟨_, _, -, _, _, -, failed⟩ := ran
  cases failed

theorem dispatchOrGiveBack_ok {status : SendStatus} :
    (dispatchOrGiveBack services call tenantId logId).run state = (after, .ok status) ↔
      (dispatch services call tenantId logId).run state = (after, .ok ()) ∧ status = .sent := by
  unfold dispatchOrGiveBack
  simp only [Effect.run_bind_ok, Effect.run_attempt_ok]
  constructor
  · rintro ⟨outcome, middle, attempted, ran⟩
    cases outcome with
    | ok result =>
      obtain ⟨rfl, rfl⟩ := Effect.run_pure_ok.mp ran
      exact ⟨attempted, rfl⟩
    | error error =>
      obtain ⟨_, _, given, -⟩ := Effect.run_bind_ok.mp ran
      exact absurd given giveBack_fails
  · rintro ⟨ran, rfl⟩
    exact ⟨.ok (), after, ran, rfl⟩

end Parts

section Rows

variable {call : SmsCall} {tenantId : String}
  {db after : SmsDb} {result : ReservedSmsCredits} {input : ReserveSmsCreditsInput} {logId : String}

theorem balanceOf_of_wallets (same : after.wallets = db.wallets) :
    balanceOf after tenantId = balanceOf db tenantId := by
  unfold balanceOf openedWallet
  rw [same]

theorem markSmsLogSent_ok {columns : SentColumns} {db after : SmsTables} {result : Unit}
    (ran : (markSmsLogSent tenantId call.logId columns).run db = .ok (result, after)) :
    after.sms.wallets = db.sms.wallets ∧
      ∀ status, Logged call tenantId status db.sms → Logged call tenantId .sent after.sms := by
  obtain rfl := run_write_ok.mp ran
  refine ⟨rfl, fun status logged => ?_⟩
  obtain ⟨log, member, own, tenant, -⟩ := logged
  have changed : withStatus tenantId call.logId .sent (·.failureReason) log = { log with status := .sent } :=
    if_pos ⟨tenant, own⟩
  have present : { log with status := .sent } ∈ (db.sms.logs.modify
      (withStatus tenantId call.logId .sent (·.failureReason)) (withStatus_id _ _ _ _)).rows :=
    KeyedTable.mem_modify.mpr ⟨log, member, changed⟩
  exact ⟨_, present, own, tenant, rfl⟩

theorem deducted_ok {wallet : SmsWalletRecord} {creditCost : Nat} (covered : ¬ balanceExhausted wallet creditCost) :
    (∃ stored, deducted wallet creditCost = .ok stored) ↔
      IsInteger creditCost ∧ IsInteger (wallet.smsBalance - creditCost) ∧
        IsInteger (wallet.monthlyUsed + creditCost) := by
  unfold deducted integer
  simp only [Outcome.bind_ok, Outcome.failIf_ok, not_not, store_ok]
  constructor
  · rintro ⟨stored, -, cost, balance, used, -⟩
    exact ⟨cost, balance, used⟩
  · rintro ⟨cost, balance, used⟩
    have counted : 0 ≤ wallet.monthlyUsed + creditCost := by
      have counter := wallet.monthlyUsedNonNegative
      omega
    have policy : wallet.allowNegativeBalance = true ∨ 0 ≤ wallet.smsBalance - creditCost := by
      cases negative : wallet.allowNegativeBalance with
      | true => exact .inl rfl
      | false =>
        have enough : ¬ wallet.smsBalance < creditCost := fun short => covered ⟨short, negative⟩
        exact .inr (by omega)
    exact ⟨_, (), cost, balance, used, counted, policy, rfl⟩

theorem not_accepted_of_rejected {reason : String} {balance : Int}
    (ran : (rejectSms input logId reason balance).run db = .ok (result, after)) : result.accepted ≠ true := by
  simp only [rejectSms, run_bind_ok, run_pure_ok] at ran
  obtain ⟨_, _, -, rfl, -⟩ := ran
  exact Bool.false_ne_true

theorem reserve_accepted (ran : (reserveSmsCreditsInTransaction input logId).run db = .ok (result, after))
    (accepted : result.accepted = true) :
    Funded (openedWallet db input.tenantId) input.creditCost ∧ result.logId = logId ∧
      balanceOf after input.tenantId = balanceOf db input.tenantId - input.creditCost ∧
      smsLog input logId .queued none ∈ after.logs.rows := by
  have taken : ¬ monthlyLimitExceeded (openedWallet db input.tenantId) input.creditCost ∧
      ¬ balanceExhausted (openedWallet db input.tenantId) input.creditCost := by
    constructor
    · intro exceeded
      rw [reserve_run, if_pos exceeded] at ran
      exact not_accepted_of_rejected ran accepted
    · intro exhausted
      rw [reserve_run, if_pos exhausted] at ran
      split at ran
      · exact not_accepted_of_rejected ran accepted
      · exact not_accepted_of_rejected ran accepted
  rw [reserve_run, if_neg taken.1, if_neg taken.2] at ran
  split at ran
  · cases ran
  next stored kept =>
  simp only [acceptSms, appendTransaction, run_bind_ok, run_write_ok, run_pure_ok, insertSmsLog_ok] at ran
  obtain ⟨_, _, ⟨-, fresh, rfl⟩, _, _, rfl, rfl, rfl⟩ := ran
  obtain ⟨cost, balance, used⟩ := (deducted_ok taken.2).mp ⟨stored, kept⟩
  refine ⟨⟨taken.1, taken.2, cost, balance, used⟩, rfl, ?_, List.mem_append_right _ (List.mem_singleton_self _)⟩
  simp only [deducted, Outcome.bind_ok] at kept
  obtain ⟨_, -, kept⟩ := kept
  have own : stored.tenantId = input.tenantId := (store_tenantId kept).trans (openedWallet_tenantId _ _)
  rw [balanceOf, openedWallet_put own rfl, if_pos rfl, store_smsBalance kept]
  rfl

theorem refinish_of_funded
    (fresh : ∀ log ∈ db.logs.rows, log.id ≠ logId)
    (funded : Funded (openedWallet db input.tenantId) input.creditCost) :
    ∃ result after, (reserveSmsCreditsInTransaction input logId).run db = .ok (result, after) ∧
      result.accepted = true := by
  obtain ⟨stored, kept⟩ := (deducted_ok funded.covered).mpr ⟨funded.cost, funded.balance, funded.used⟩
  have unused : ∀ log ∈ (opened db input.tenantId).logs.rows, log.id ≠ (smsLog input logId .queued none).id := by
    rw [opened_logs]
    exact fresh
  obtain ⟨logged, inserted⟩ : ∃ logged, (insertSmsLog (smsLog input logId .queued none)).run
      { opened db input.tenantId with wallets := (opened db input.tenantId).wallets.put stored } = .ok ((), logged) :=
    ⟨_, insertSmsLog_ok.mpr ⟨funded.cost, unused, rfl⟩⟩
  let appended : SmsDb := { logged with
    transactions := logged.transactions ++ [deductionEntry input logId stored.smsBalance] }
  refine ⟨⟨true, none, logId, stored.smsBalance, some input.creditCost⟩, appended, ?_, rfl⟩
  rw [reserve_run, if_neg funded.withinLimit, if_neg funded.covered, kept]
  simp only [acceptSms]
  rw [run_bind, inserted]
  rfl

end Rows

section Requests

variable {services : SmsServices} {call : SmsCall} {tables : SmsTables} {tenantId : String} {response : SendSmsResponse}

abbrev Request := OpenTransaction SmsTables (List ProviderRequest)

variable {after : Request}

theorem onSms_ok {Result : Type} {action : Transaction SmsDb Exception Result} {result : Result} {after : SmsTables} :
    (onSms action).run tables = .ok (result, after) ↔
      ∃ db, action.run tables.sms = .ok (result, db) ∧ after = { tables with sms := db } := run_zoom_ok

theorem assertReady_ok {state : Request} {result : Unit} (dispatch : services.hasDispatch = true) :
    (assertReady services call).run state = (after, .ok result) ↔
      state.aborted = false ∧ call.fails .readProviderFirst = false ∧ IsReady services call ∧ state = after := by
  unfold assertReady IsReady
  rw [if_pos dispatch]
  simp only [Effect.run_bind_ok, Effect.run_failIf_ok, getDispatchProvider_ok, not_not]
  constructor
  · rintro ⟨provider, _, ⟨sound, runs, found, rfl⟩, ready, rfl⟩
    exact ⟨sound, runs, ⟨provider, found, ready⟩, rfl⟩
  · rintro ⟨sound, runs, ⟨provider, found, ready⟩, rfl⟩
    exact ⟨provider, state, ⟨sound, runs, found, rfl⟩, ready, rfl⟩

theorem reservation_tenantId : (reservation services call tenantId).tenantId = tenantId := rfl

theorem reservation_creditCost : (reservation services call tenantId).creditCost = creditCost call := by
  unfold reservation
  dsimp only

structure Reserves (services : SmsServices) (call : SmsCall) (tables : SmsTables) (tenantId : String)
    (reserved : ReservedSmsCredits) (db : SmsTables) : Prop where
  runs : call.fails .reserveSmsCredits = false
  funded : Funded (openedWallet tables.sms tenantId) (creditCost call)
  logId : reserved.logId = call.logId
  balance : balanceOf db.sms tenantId = balanceOf tables.sms tenantId - creditCost call
  logged : Logged call tenantId .queued db.sms

theorem reserves_of_ok {reserved : ReservedSmsCredits}
    (ran : (reserveCredits services call tenantId).run (OpenTransaction.opened tables []) = (after, .ok reserved))
    (accepted : reserved.accepted = true) :
    ∃ db, after = OpenTransaction.opened db [] ∧ Reserves services call tables tenantId reserved db := by
  obtain ⟨-, runs, db, reserving, rfl⟩ := query_ok.mp ran
  obtain ⟨sms, taking, rfl⟩ := onSms_ok.mp reserving
  obtain ⟨funded, logId, balance, logged⟩ :
      Funded (openedWallet tables.sms tenantId) (creditCost call) ∧ reserved.logId = call.logId ∧
        balanceOf sms tenantId = balanceOf tables.sms tenantId - creditCost call ∧
        Logged call tenantId .queued sms := by
    have taken := reserve_accepted taking accepted
    rw [reservation_tenantId, reservation_creditCost] at taken
    obtain ⟨funded, logId, balance, logged⟩ := taken
    exact ⟨funded, logId, balance, _, logged, rfl, rfl, rfl⟩
  exact ⟨{ tables with sms }, rfl, runs, funded, logId, balance, logged⟩

theorem reserveCredits_run (fresh : ∀ log ∈ tables.sms.logs.rows, log.id ≠ call.logId)
    (runs : call.fails .reserveSmsCredits = false)
    (funded : Funded (openedWallet tables.sms tenantId) (creditCost call)) :
    ∃ reserved db, (reserveCredits services call tenantId).run (OpenTransaction.opened tables []) =
        (OpenTransaction.opened db [], .ok reserved) ∧
      reserved.accepted = true ∧ Reserves services call tables tenantId reserved db := by
  obtain ⟨reserved, sms, reserving, accepted⟩ : ∃ reserved sms,
      (reserveSmsCreditsInTransaction (reservation services call tenantId) call.logId).run tables.sms =
        .ok (reserved, sms) ∧ reserved.accepted = true := by
    apply refinish_of_funded fresh
    rw [reservation_tenantId, reservation_creditCost]
    exact funded
  have ran : (reserveCredits services call tenantId).run (OpenTransaction.opened tables []) =
      (OpenTransaction.opened { tables with sms } [], .ok reserved) :=
    query_ok.mpr ⟨rfl, runs, _, onSms_ok.mpr ⟨sms, reserving, rfl⟩, rfl⟩
  obtain ⟨db, same, reserves⟩ := reserves_of_ok ran accepted
  refine ⟨reserved, db, ?_, accepted, reserves⟩
  rw [ran, same]

theorem delivers_of_ok (dispatch : services.hasDispatch = true)
    (finished : call.closed = false) (tenant : requireTenantId call = .ok tenantId)
    (ran : (sendSms services call).run (OpenTransaction.opened tables []) = (after, .ok response)) :
    Delivers services call (openedWallet tables.sms tenantId) := by
  unfold sendSms at ran
  rw [tenant, Effect.run_bind_lift_ok] at ran
  simp only [Effect.run_bind_ok, Effect.run_failIf_ok, Bool.not_eq_false] at ran
  obtain ⟨_, _, checked, reserved, _, reserving, _, _, ⟨accepted, rfl⟩, status, _, sending, -⟩ := ran
  obtain ⟨-, readFirst, ready, rfl⟩ := (assertReady_ok dispatch).mp checked
  obtain ⟨db, rfl, reserves⟩ := reserves_of_ok reserving accepted
  rw [if_pos dispatch] at sending
  obtain ⟨dispatching, -⟩ := dispatchOrGiveBack_ok.mp sending
  exact ⟨dispatch, ready, readFirst, reserves.funded, reserves.runs, dispatches_of_ok dispatching, finished⟩

theorem markUndispatched_ok {db : SmsTables} {status : SendStatus}
    (ran : (markUndispatched services call tenantId call.logId).run (OpenTransaction.opened db []) =
      (after, .ok status)) :
    ∃ columns marked, (markSmsLogSent tenantId call.logId columns).run db = .ok ((), marked) ∧
      after = OpenTransaction.opened marked [] := by
  unfold markUndispatched at ran
  rw [Effect.run_bind_ok] at ran
  obtain ⟨provider, middle, reading, ran⟩ := ran
  have kept : middle = OpenTransaction.opened db [] := by
    split at reading
    · exact (getDispatchProvider_ok.mp reading).2.2.2.symm
    · exact (Effect.run_pure_ok.mp reading).2.symm
  rw [kept] at ran
  simp only [Effect.run_bind_ok, Effect.run_pure_ok, query_ok] at ran
  obtain ⟨_, _, ⟨-, -, marked, marking, rfl⟩, -, rfl⟩ := ran
  exact ⟨_, marked, marking, rfl⟩

theorem undispatched_of_ok (dispatch : services.hasDispatch = false)
    (tenant : requireTenantId call = .ok tenantId)
    (ran : (sendSms services call).run (OpenTransaction.opened tables []) = (after, .ok response)) :
    after.aborted = false ∧ after.outside = [] ∧
      balanceOf after.db.sms tenantId = balanceOf tables.sms tenantId - creditCost call := by
  have unchecked : assertReady services call = pure () := if_neg (Bool.eq_false_iff.mp dispatch)
  unfold sendSms at ran
  rw [tenant, Effect.run_bind_lift_ok, unchecked] at ran
  simp only [Effect.run_bind_ok, Effect.run_pure_ok, Effect.run_failIf_ok, Bool.not_eq_false] at ran
  obtain ⟨_, _, ⟨-, rfl⟩, reserved, _, reserving, _, _, ⟨accepted, rfl⟩, status, _, sending, -, rfl⟩ := ran
  obtain ⟨db, rfl, reserves⟩ := reserves_of_ok reserving accepted
  rw [if_neg (Bool.eq_false_iff.mp dispatch), reserves.logId] at sending
  obtain ⟨columns, marked, marking, rfl⟩ := markUndispatched_ok sending
  refine ⟨rfl, rfl, ?_⟩
  rw [← reserves.balance]
  exact balanceOf_of_wallets (markSmsLogSent_ok marking).1

theorem sendSms_run (fresh : ∀ log ∈ tables.sms.logs.rows, log.id ≠ call.logId)
    (tenant : requireTenantId call = .ok tenantId)
    (delivers : Delivers services call (openedWallet tables.sms tenantId)) :
    ∃ after response, (sendSms services call).run (OpenTransaction.opened tables []) = (after, .ok response) ∧
      after.aborted = false ∧ after.outside ≠ [] ∧ Logged call tenantId .sent after.db.sms ∧
      balanceOf after.db.sms tenantId = balanceOf tables.sms tenantId - creditCost call := by
  obtain ⟨reserved, db, reserving, accepted, reserves⟩ :
      ∃ reserved db, (reserveCredits services call tenantId).run (OpenTransaction.opened tables []) =
          (OpenTransaction.opened db [], .ok reserved) ∧
        reserved.accepted = true ∧ Reserves services call tables tenantId reserved db :=
    reserveCredits_run fresh delivers.reserved delivers.funded
  obtain ⟨request, columns, marked, marking, dispatching⟩ : ∃ request columns marked,
      (markSmsLogSent tenantId call.logId columns).run db = .ok ((), marked) ∧
        (dispatch services call tenantId call.logId).run (OpenTransaction.opened db []) =
          (⟨marked, false, [] ++ [request]⟩, .ok ()) :=
    @dispatch_run services call (OpenTransaction.opened db []) tenantId call.logId rfl delivers.dispatched
  obtain ⟨wallets, logged⟩ := markSmsLogSent_ok marking
  let response : SendSmsResponse := ⟨.sent, call.logId, reserved.balanceAfter,
    reserved.creditCost.getD (creditCost call), reserved.balanceAfter ≤ 100⟩
  refine ⟨⟨marked, false, [request]⟩, response, ?_, rfl, List.cons_ne_nil _ _, logged _ reserves.logged, ?_⟩
  · have ready : (assertReady services call).run (OpenTransaction.opened tables []) =
        (OpenTransaction.opened tables [], .ok ()) :=
      (assertReady_ok delivers.dispatch).mpr ⟨rfl, delivers.readFirst, delivers.ready, rfl⟩
    unfold sendSms
    rw [tenant, Effect.run_bind_lift_ok, Effect.run_bind_of_ok ready, Effect.run_bind_of_ok reserving,
      Effect.run_bind_failIf_of_not (by rw [accepted]; exact Bool.noConfusion), if_pos delivers.dispatch,
      reserves.logId,
      Effect.run_bind_of_ok (dispatchOrGiveBack_ok.mpr ⟨dispatching, rfl⟩)]
    exact Effect.run_pure _ _
  · rw [← reserves.balance]
    exact balanceOf_of_wallets wallets

theorem finish_of_error {error : Exception}
    (failed : (sendSms services call).run (OpenTransaction.opened tables []) = (after, .error error)) :
    (finish services call tables).1 = tables := by
  have rolled : Database.rollsBack (responseStatus call (.error error)) = true := by
    unfold responseStatus
    split
    · rfl
    · cases error <;> rfl
  unfold finish
  rw [failed]
  simp only [rolled, OpenTransaction.settle_rollback]

theorem finish_of_closed (closed : call.closed = true) : (finish services call tables).1 = tables := by
  have rolled (outcome : Except Exception SendSmsResponse) :
      Database.rollsBack (responseStatus call outcome) = true := by
    unfold responseStatus
    rw [if_pos closed]
    rfl
  unfold finish
  simp only [rolled, OpenTransaction.settle_rollback]

theorem finish_of_ok (finished : call.closed = false)
    (sound : after.aborted = false)
    (ran : (sendSms services call).run (OpenTransaction.opened tables []) = (after, .ok response)) :
    finish services call tables = (after.db, after.outside) := by
  have kept : Database.rollsBack (responseStatus call (.ok response)) = false := by
    unfold responseStatus
    rw [finished]
    rfl
  unfold finish
  rw [ran]
  simp only [kept, OpenTransaction.settle_commit sound]

theorem not_accounted_of_unchanged (fresh : ∀ log ∈ tables.sms.logs.rows, log.id ≠ call.logId)
    (unchanged : (finish services call tables).1 = tables) : ¬ Accounted services call tables := by
  rintro ⟨tenantId, -, ⟨log, member, own, -⟩, -⟩
  rw [unchanged] at member
  exact fresh log member own

theorem delivers_of_accounted (fresh : ∀ log ∈ tables.sms.logs.rows, log.id ≠ call.logId)
    (accounted : Accounted services call tables) :
    ∃ tenantId, requireTenantId call = .ok tenantId ∧ Delivers services call (openedWallet tables.sms tenantId) := by
  have finished : call.closed = false := by
    by_contra closed
    rw [Bool.not_eq_false] at closed
    exact not_accounted_of_unchanged fresh (finish_of_closed closed) accounted
  rcases ran : (sendSms services call).run (OpenTransaction.opened tables []) with ⟨after, error | response⟩
  · exact absurd accounted (not_accounted_of_unchanged fresh (finish_of_error ran))
  · obtain ⟨tenantId, tenant, -, paid⟩ := accounted
    refine ⟨tenantId, tenant, ?_⟩
    cases dispatch : services.hasDispatch with
    | true => exact delivers_of_ok dispatch finished tenant ran
    | false =>
      obtain ⟨sound, unsent, balance⟩ := undispatched_of_ok dispatch tenant ran
      rw [finish_of_ok finished sound ran] at paid
      exact absurd unsent (paid.mp balance)

theorem accounted_of_delivers {tenantId : String} (fresh : ∀ log ∈ tables.sms.logs.rows, log.id ≠ call.logId)
    (tenant : requireTenantId call = .ok tenantId)
    (delivers : Delivers services call (openedWallet tables.sms tenantId)) : Accounted services call tables := by
  obtain ⟨after, response, ran, sound, sent, logged, balance⟩ := sendSms_run fresh tenant delivers
  have funded := delivers.funded
  have accepts : call.answer.accepts = true := by
    obtain ⟨status, text, answer, accepted⟩ := delivers.dispatched.acknowledged
    rw [answer]
    exact accepted
  have status : matchingStatus call (openedWallet tables.sms tenantId) = .sent := by
    unfold matchingStatus
    rw [if_neg (not_or.mpr ⟨funded.withinLimit, funded.covered⟩), if_pos accepts]
  refine ⟨tenantId, tenant, ?_⟩
  rw [finish_of_ok delivers.finished sound ran, status]
  exact ⟨logged, fun _ => sent, fun _ => balance⟩

end Requests

end SmsDeliveries

open SmsDeliveries in
/-- A request leaves the log and the balance that its outcome asks for exactly when nothing goes wrong: a message that
is refused or that the provider does not take, or one taken whose request fails later, leaves no log, and without the
dispatch service the credits go and nothing is sent. -/
theorem sms_is_accounted_for_iff_delivered (services : SmsServices) {call : SmsCall} {tables : SmsTables}
    (fresh : ∀ log ∈ tables.sms.logs.rows, log.id ≠ call.logId) :
    Accounted services call tables ↔
      ∃ tenantId, requireTenantId call = .ok tenantId ∧ Delivers services call (openedWallet tables.sms tenantId) := by
  constructor
  · exact delivers_of_accounted fresh
  · rintro ⟨tenantId, tenant, delivers⟩
    exact accounted_of_delivers fresh tenant delivers

namespace SmsDeliveries

def gateway : PlatformSmsProvider where
  id := "provider-1"
  providerName := "TextSMS Kenya"
  providerCode := .textsmsKenya
  apiKeyCiphertext := "live-api-key"
  usernameCiphertext := none
  senderId := "SHULEHUB"
  baseUrl := some "https://gateway/send"
  isActive := true
  isDefault := true
  lastTestStatus := none

def gateways : PlatformSmsDb := ⟨KeyedTable.empty.put gateway⟩

def sampleServices : SmsServices where
  platform := samplePlatformRuntime
  encryption := none
  sha256 _ := "7132104d6aae9c3fac82095a42c2817952bca48e09d98d5bf4ac08218982fb90"
  parseJson _ := some (.obj [("message_id", .str "msg-1")])
  hasPlatformSms := true
  hasDispatch := true

def lakesideTables : SmsTables where
  sms := { SmsDb.empty with
    wallets := SmsDb.empty.wallets.put { newWallet "lakeside" with
      smsBalance := 10
      balancePolicy := .inr (by decide) } }
  sentColumns := .empty

def feeNotice (answer : ProviderAnswer) : SmsCall where
  tenantId := some "lakeside"
  userId := some "bursar"
  dto := ⟨"+254712345678", "Fees are due on Friday.", some "fees"⟩
  logId := "log-1"
  recipientIv := Security.sampleIv
  messageIv := Security.sampleIv
  providersFirst := gateways
  providers := gateways
  fails _ := false
  answer
  closed := false

theorem lakeside_fresh (answer : ProviderAnswer) :
    ∀ log ∈ lakesideTables.sms.logs.rows, log.id ≠ (feeNotice answer).logId :=
  fun _ member => absurd member List.not_mem_nil

end SmsDeliveries

open SmsDeliveries in
theorem fee_notice_is_accounted_for :
    Accounted sampleServices (feeNotice (.answered 200 (.ok "\x7b\"message_id\":\"msg-1\"\x7d"))) lakesideTables := by
  have read : getDefaultProviderForDispatch samplePlatformRuntime gateways =
      .ok (some ⟨gateway, "live-api-key", none⟩) := by
    decide +kernel
  refine (sms_is_accounted_for_iff_delivered sampleServices (lakeside_fresh _)).mpr ⟨"lakeside", rfl, ?_⟩
  exact {
    dispatch := rfl
    ready := ⟨_, read, by decide +kernel⟩
    readFirst := rfl
    funded := ⟨by decide +kernel, by decide +kernel, by decide +kernel, by decide +kernel, by decide +kernel⟩
    reserved := rfl
    dispatched := ⟨⟨_, read, by decide +kernel⟩, ⟨200, _, rfl, rfl⟩, rfl, rfl⟩
    finished := rfl }

open SmsDeliveries in
/-- Where the provider answers with an error, the failed log is rolled back with the refund. -/
theorem failed_fee_notice_leaves_no_log :
    matchingStatus (feeNotice (.answered 500 (.ok ""))) (openedWallet lakesideTables.sms "lakeside") = .failed ∧
      ¬ Accounted sampleServices (feeNotice (.answered 500 (.ok ""))) lakesideTables := by
  refine ⟨by decide +kernel, fun accounted => ?_⟩
  obtain ⟨_, _, delivers⟩ := delivers_of_accounted (lakeside_fresh _) accounted
  obtain ⟨status, text, answer, accepted⟩ := delivers.dispatched.acknowledged
  cases answer
  cases accepted

end ShuleHub.Integrations
