import ShuleHub.Lib.Effects
import ShuleHub.Payments.IntentMerging

/-! Payment requests against a gateway that keeps what it was sent when the database rolls back. -/

namespace ShuleHub.Payments

open Transaction Idempotency Mpesa

structure StkPush where
  idempotencyKey : String
  phoneNumber : String
  amountMinor : Nat

structure GatewayWorld where
  db : PaymentsDb
  pushes : List StkPush

/-- The database work that follows a push. -/
inductive DatabaseStage where
  | markStkRequested
  | markCompleted
  | commit
  deriving DecidableEq

/-- A request with what may go wrong around the push: the fraud inspection and the access token before it, and the
database after it. -/
structure PaymentAttempt extends PaymentRequest where
  beforePush : Except Exception Unit
  databaseFailure : Option DatabaseStage

namespace PaymentAttempt

variable (runtime : PaymentsRuntime) (attempt : PaymentAttempt) (world : GatewayWorld)

def onDb {A : Type} (action : Transaction PaymentsDb Exception A) : Effect GatewayWorld Exception A :=
  Effect.zoom (·.db) (fun world db => { world with db }) (Effect.transact action)

def databaseWorks (stage : DatabaseStage) : Effect GatewayWorld Exception Unit :=
  failIf (attempt.databaseFailure = some stage) (.database "Connection terminated unexpectedly")

def withRequestTransaction {A : Type} (attempt : PaymentAttempt) (callback : Effect GatewayWorld Exception A) :
    Effect GatewayWorld Exception A :=
  Effect.rollingBack (·.db) (fun world db => { world with db }) do
    let result ← callback
    attempt.databaseWorks .commit
    return result

def settlePush (idempotencyKeyId : String)
    (paymentIntent : PaymentIntentEntity) : Effect GatewayWorld Exception PaymentIntentResponse := do
  let stkResponse ← monadLift (sendStkPush attempt.call paymentIntent)
  let expiresAt := expiry runtime attempt.call
  attempt.databaseWorks .markStkRequested
  onDb (markStkRequested paymentIntent.id stkResponse attempt.call.now expiresAt)
  let response := toPaymentIntentResponse (requestStk stkResponse attempt.call.now expiresAt paymentIntent)
  attempt.databaseWorks .markCompleted
  onDb (Mpesa.onKeys (Idempotency.markCompleted attempt.call.now idempotencyKeyId 201 response))
  return response

def pushOf (phoneNumber : String) (amountMinor : Nat) : StkPush where
  idempotencyKey := keyOf attempt.dto
  phoneNumber
  amountMinor

def pushPayment (config : ResolvedMpesaConfig)
    (idempotencyKeyId phoneNumber : String) (amountMinor : Nat) : Effect GatewayWorld Exception PaymentIntentResponse := do
  if amountPositive : 0 < amountMinor then
    let paymentIntent ← onDb (PaymentIntents.createPending (pendingIntent attempt.call attempt.dto attempt.owner config
      idempotencyKeyId phoneNumber amountMinor amountPositive))
    monadLift attempt.beforePush
    failIf (paymentIntent.amountMinor % 100 ≠ 0) (.badRequest "M-PESA STK push only supports whole KES amounts")
    Effect.write fun world => { world with pushes := world.pushes ++ [attempt.pushOf phoneNumber amountMinor] }
    settlePush runtime attempt idempotencyKeyId paymentIntent
  else
    fail (.database "ck_payment_intents_amount_minor")

def answerLocked (config : ResolvedMpesaConfig)
    (phoneNumber : String) (amountMinor : Nat) (record : IdempotencyRecord PaymentIntentResponse) :
    Effect GatewayWorld Exception PaymentIntentResponse :=
  match record.status, record.responseBody with
  | .completed, some response => return response
  | _, _ => pushPayment runtime attempt config record.id phoneNumber amountMinor

def handle : Effect GatewayWorld Exception PaymentIntentResponse := do
  let phoneNumber ← monadLift (normalizePhoneNumber attempt.dto.phoneNumber)
  let amountMinor ← monadLift (Mpesa.normalizeMinorAmount attempt.dto.amountMinor)
  let config ← monadLift (runtime.resolveMpesaConfig attempt.owner)
  let record ← onDb (Mpesa.lockRequest attempt.call.now attempt.call.newKeyId
    (Mpesa.requestLock runtime.toRuntime attempt.call attempt.dto phoneNumber amountMinor))
  attempt.answerLocked runtime config phoneNumber amountMinor record

def createPaymentIntent :
    Effect GatewayWorld Exception PaymentIntentResponse :=
  attempt.withRequestTransaction (attempt.handle runtime)

def perform (attempt : PaymentAttempt) : GatewayWorld :=
  ((attempt.createPaymentIntent runtime).run world).1

def Accepted (reply : StkReply) (stk : StkPushResponse) : Prop :=
  ∃ status responseText, reply = .answered true status responseText (some stk) ∧ stk.merchantRequestId ≠ "" ∧
    stk.checkoutRequestId ≠ "" ∧ stk.responseCode = some "0"

/-- The gateway takes the push under ids that no intent has, and the database work after it succeeds. -/
structure Settles (db : PaymentsDb) : Prop where
  works : attempt.databaseFailure = none
  accepted : ∃ stk, Accepted attempt.call.stkReply stk ∧ ∀ other ∈ db.intents.rows,
    other.checkoutRequestId ≠ some stk.checkoutRequestId ∧ other.merchantRequestId ≠ some stk.merchantRequestId

/-- An intent can be created under the key row, and nothing stands in the way of the push. -/
structure Pushable (keyId : String) (amountMinor : Nat) (db : PaymentsDb) : Prop where
  positive : 0 < amountMinor
  small : amountMinor < Finance.bigintLimit
  newIntent : ∀ other ∈ db.intents.rows, other.id ≠ attempt.call.newIntentId
  unrequested : ¬ KeyRequested keyId db
  ready : attempt.beforePush = .ok ()
  whole : amountMinor % 100 = 0

section Pushes

variable {runtime : PaymentsRuntime} {attempt : PaymentAttempt} {config : ResolvedMpesaConfig} {keyId phoneNumber : String}
  {amountMinor : Nat} {world : GatewayWorld} {intent : PaymentIntentEntity}
  {A : Type} {after : GatewayWorld} {response : PaymentIntentResponse}
  {callback : Effect GatewayWorld Exception PaymentIntentResponse} {error : Exception}

theorem sendStkPush_accepted {stk : StkPushResponse} (accepted : Accepted attempt.call.stkReply stk)
    (whole : intent.amountMinor % 100 = 0) : sendStkPush attempt.call intent = .ok stk := by
  obtain ⟨status, responseText, reply, merchant, checkout, code⟩ := accepted
  simp [sendStkPush, reply, whole, merchant, checkout, code, failIf, bind, Except.bind, pure, Except.pure]

theorem onDb_ok {action : Transaction PaymentsDb Exception A} {result : A} :
    (onDb action).run world = (after, .ok result) ↔
      ∃ db, action.run world.db = .ok (result, db) ∧ after = { world with db } := by
  rw [onDb, Effect.run_zoom, Effect.run_transact, Transaction.attempt]
  cases action.run world.db with
  | ok outcome => grind
  | error error => simp

theorem keepsPushes_onDb (action : Transaction PaymentsDb Exception A) :
    Effect.Keeps (·.pushes) (onDb action) :=
  Effect.keeps_zoom _ fun _ _ => rfl

theorem keepsPushes_settlePush (runtime : PaymentsRuntime) (attempt : PaymentAttempt) (keyId : String)
    (intent : PaymentIntentEntity) : Effect.Keeps (·.pushes) (attempt.settlePush runtime keyId intent) := by
  apply Effect.Keeps.bind (Effect.keeps_lift _)
  intro stk
  apply Effect.Keeps.bind (Effect.keeps_failIf _ _)
  intro _
  apply Effect.Keeps.bind (keepsPushes_onDb _)
  intro _
  apply Effect.Keeps.bind (Effect.keeps_failIf _ _)
  intro _
  apply Effect.Keeps.bind (keepsPushes_onDb _)
  intro _
  exact Effect.keeps_pure _

theorem settlePush_ok :
    (attempt.settlePush runtime keyId intent).run world = (after, .ok response) ↔
      attempt.databaseFailure ≠ some .markStkRequested ∧ attempt.databaseFailure ≠ some .markCompleted ∧
        ∃ stk middle last, sendStkPush attempt.call intent = .ok stk ∧
          (markStkRequested intent.id stk attempt.call.now (expiry runtime attempt.call)).run world.db =
            .ok ((), middle) ∧
          response = toPaymentIntentResponse (requestStk stk attempt.call.now (expiry runtime attempt.call) intent) ∧
          (Mpesa.onKeys (Idempotency.markCompleted attempt.call.now keyId 201 response)).run middle = .ok ((), last) ∧
          after = { world with db := last } := by
  simp only [settlePush, databaseWorks, Effect.run_bind_ok, Effect.run_lift_ok, Effect.run_failIf_ok, onDb_ok,
    Effect.run_pure_ok]
  constructor
  · rintro ⟨stk, _, ⟨pushed, rfl⟩, _, _, ⟨first, rfl⟩, _, _, ⟨middle, marked, rfl⟩, _, _, ⟨second, rfl⟩, _, _,
      ⟨last, completed, rfl⟩, rfl, rfl⟩
    exact ⟨first, second, stk, middle, last, pushed, marked, rfl, completed, rfl⟩
  · rintro ⟨first, second, stk, middle, last, pushed, marked, rfl, completed, rfl⟩
    exact ⟨stk, world, ⟨pushed, rfl⟩, (), world, ⟨first, rfl⟩, (), _, ⟨middle, marked, rfl⟩, (), _, ⟨second, rfl⟩, (), _,
      ⟨last, completed, rfl⟩, rfl, rfl⟩

/-- A payment request that is refused before the push, or one that is pushed and then settles or fails. -/
inductive Pushed (runtime : PaymentsRuntime) (attempt : PaymentAttempt) (config : ResolvedMpesaConfig)
    (keyId phoneNumber : String) (amountMinor : Nat) (world : GatewayWorld) :
    GatewayWorld × Except Exception PaymentIntentResponse → Prop where
  | refused (after : GatewayWorld) (error : Exception) (kept : after.pushes = world.pushes) :
    Pushed runtime attempt config keyId phoneNumber amountMinor world (after, .error error)
  | lost (after : GatewayWorld) (error : Exception) (pushable : Pushable attempt keyId amountMinor world.db)
      (unsettled : ¬ Settles attempt world.db)
      (pushes : after.pushes = world.pushes ++ [attempt.pushOf phoneNumber amountMinor]) :
    Pushed runtime attempt config keyId phoneNumber amountMinor world (after, .error error)
  | requested (db : PaymentsDb) (response : PaymentIntentResponse)
      (pushable : Pushable attempt keyId amountMinor world.db)
      (paid : (requestPayment runtime attempt.call attempt.dto attempt.owner config keyId phoneNumber amountMinor).run
        world.db = .ok (response, db)) :
    Pushed runtime attempt config keyId phoneNumber amountMinor world
      (⟨db, world.pushes ++ [attempt.pushOf phoneNumber amountMinor]⟩, .ok response)

theorem pushed_settlePush (config : ResolvedMpesaConfig) (phoneNumber : String)
    (pushable : Pushable attempt keyId amountMinor world.db) :
    let intent := pendingIntent attempt.call attempt.dto attempt.owner config keyId phoneNumber amountMinor
      pushable.positive
    Pushed runtime attempt config keyId phoneNumber amountMinor world
      ((attempt.settlePush runtime keyId intent).run
        ⟨{ world.db with intents := world.db.intents.insert intent pushable.newIntent },
          world.pushes ++ [attempt.pushOf phoneNumber amountMinor]⟩) := by
  intro intent
  let sent : GatewayWorld := ⟨{ world.db with intents := world.db.intents.insert intent pushable.newIntent },
    world.pushes ++ [attempt.pushOf phoneNumber amountMinor]⟩
  change Pushed runtime attempt config keyId phoneNumber amountMinor world
    ((attempt.settlePush runtime keyId intent).run sent)
  have created : (PaymentIntents.createPending intent).run world.db = .ok (intent, sent.db) :=
    createPending_ok.mpr ⟨pushable.unrequested, pushable.small, rfl, pushable.newIntent, rfl⟩
  rcases ran : (attempt.settlePush runtime keyId intent).run sent with ⟨after, error | response⟩
  · refine .lost after error pushable ?_ ?_
    · rintro ⟨works, stk, accepted, unused⟩
      have pushed : sendStkPush attempt.call intent = .ok stk := sendStkPush_accepted accepted pushable.whole
      have marked := (@markStkRequested_ok stk sent.db _ attempt.call.now (expiry runtime attempt.call) intent.id ()).mpr
        ⟨?_, rfl⟩
      · have settled := (@settlePush_ok runtime attempt keyId sent intent _ _).mpr
          ⟨by simp [works], by simp [works], stk, _, _, pushed, marked, rfl, run_zoom_ok.mpr ⟨_, rfl, rfl⟩, rfl⟩
        exact nomatch ran.symm.trans settled
      · intro other member differs
        have known : other ∈ world.db.intents.rows ∨ other = intent :=
          (@KeyedTable.mem_insert _ _ _ _ intent other pushable.newIntent).mp member
        rcases known with old | rfl
        · exact unused other old
        · exact absurd rfl differs
    · exact (congrArg (·.1.pushes) ran).symm.trans (keepsPushes_settlePush runtime attempt keyId intent sent)
  · obtain ⟨-, -, stk, middle, last, pushed, marked, rfl, completed, rfl⟩ := settlePush_ok.mp ran
    refine .requested last _ pushable ?_
    rw [requestPayment, dif_pos pushable.positive]
    simp only [run_bind_ok, run_lift_ok, run_pure_ok]
    exact ⟨intent, _, created, stk, _, ⟨pushed, rfl⟩, (), _, marked, (), _, completed, rfl, rfl⟩

theorem pushed_pushPayment :
    Pushed runtime attempt config keyId phoneNumber amountMinor world
      ((attempt.pushPayment runtime config keyId phoneNumber amountMinor).run world) := by
  unfold pushPayment
  split
  · next positive =>
    let intent := pendingIntent attempt.call attempt.dto attempt.owner config keyId phoneNumber amountMinor positive
    rcases created : (onDb (PaymentIntents.createPending intent)).run world with ⟨middle, error | stored⟩
    · rw [Effect.run_bind_of_error created]
      exact .refused middle error ((congrArg (·.1.pushes) created).symm.trans (keepsPushes_onDb _ world))
    · rw [Effect.run_bind_of_ok created]
      obtain ⟨db, inserted, rfl⟩ := onDb_ok.mp created
      obtain ⟨unrequested, small, rfl, fresh, rfl⟩ := createPending_ok.mp inserted
      cases ready : attempt.beforePush with
      | error error => exact .refused _ error rfl
      | ok _ =>
        rw [Effect.run_bind_lift_ok]
        by_cases fraction : intent.amountMinor % 100 ≠ 0
        · rw [Effect.run_bind_failIf_of fraction]
          exact .refused _ _ rfl
        · have pushable : Pushable attempt keyId amountMinor world.db :=
            ⟨positive, small, fresh, unrequested, ready, not_not.mp fraction⟩
          rw [Effect.run_bind_failIf_of_not fraction, Effect.run_bind_write]
          exact pushed_settlePush config phoneNumber pushable
  · exact .refused world _ rfl

structure Asks (runtime : PaymentsRuntime) (attempt : PaymentAttempt) (config : ResolvedMpesaConfig)
    (phoneNumber : String) (amountMinor : Nat) (record : IdempotencyRecord PaymentIntentResponse)
    (keys : List (IdempotencyRecord PaymentIntentResponse)) (db : PaymentsDb) : Prop where
  read : ReadRequest runtime attempt.owner attempt.dto phoneNumber amountMinor config
  locked : (Idempotency.lockRequest attempt.call.now attempt.call.newKeyId
    (Mpesa.requestLock runtime.toRuntime attempt.call attempt.dto phoneNumber amountMinor)).run db.idempotencyKeys =
      .ok (record, keys)
  unanswered : record.status ≠ .completed ∨ record.responseBody = none

theorem answerLocked_cases (runtime : PaymentsRuntime) (attempt : PaymentAttempt) (config : ResolvedMpesaConfig)
    (phoneNumber : String) (amountMinor : Nat) (record : IdempotencyRecord PaymentIntentResponse) :
    (∃ stored, record.status = .completed ∧ record.responseBody = some stored ∧
        attempt.answerLocked runtime config phoneNumber amountMinor record = pure stored) ∨
      (record.status ≠ .completed ∨ record.responseBody = none) ∧
        attempt.answerLocked runtime config phoneNumber amountMinor record =
          attempt.pushPayment runtime config record.id phoneNumber amountMinor := by
  unfold answerLocked
  split
  · next stored completed body => exact .inl ⟨stored, completed, body, rfl⟩
  · next unanswered =>
    refine .inr ⟨?_, rfl⟩
    by_cases completed : record.status = .completed
    · cases body : record.responseBody with
      | none => exact .inr rfl
      | some stored => exact (unanswered stored completed body).elim
    · exact .inl completed

inductive Attempted (runtime : PaymentsRuntime) (attempt : PaymentAttempt) (world : GatewayWorld) :
    GatewayWorld × Except Exception PaymentIntentResponse → Prop where
  | refused (error : Exception) : Attempted runtime attempt world (world, .error error)
  | answered (response : PaymentIntentResponse) (ran : attempt.run runtime world.db = .ok (response, world.db)) :
    Attempted runtime attempt world (world, .ok response)
  | lost (config : ResolvedMpesaConfig) (phoneNumber : String) (amountMinor : Nat)
      (record : IdempotencyRecord PaymentIntentResponse) (keys : List (IdempotencyRecord PaymentIntentResponse))
      (error : Exception) (asks : Asks runtime attempt config phoneNumber amountMinor record keys world.db)
      (pushable : Pushable attempt record.id amountMinor world.db) (unsettled : ¬ Settles attempt world.db) :
    Attempted runtime attempt world
      ({ world with pushes := world.pushes ++ [attempt.pushOf phoneNumber amountMinor] }, .error error)
  | requested (config : ResolvedMpesaConfig) (phoneNumber : String) (amountMinor : Nat)
      (record : IdempotencyRecord PaymentIntentResponse) (keys : List (IdempotencyRecord PaymentIntentResponse))
      (db : PaymentsDb) (response : PaymentIntentResponse)
      (asks : Asks runtime attempt config phoneNumber amountMinor record keys world.db)
      (pushable : Pushable attempt record.id amountMinor world.db)
      (paid : (requestPayment runtime attempt.call attempt.dto attempt.owner config record.id phoneNumber amountMinor).run
        { world.db with idempotencyKeys := keys } = .ok (response, db)) :
    Attempted runtime attempt world
      (⟨db, world.pushes ++ [attempt.pushOf phoneNumber amountMinor]⟩, .ok response)

theorem withRequestTransaction_of_error (failed : callback.run world = (after, .error error)) :
    (attempt.withRequestTransaction callback).run world = ({ after with db := world.db }, .error error) := by
  apply Effect.run_rollingBack_of_error
  exact Effect.run_bind_of_error failed

theorem withRequestTransaction_of_ok (ran : callback.run world = (after, .ok response)) :
    (attempt.databaseFailure ≠ some .commit ∧
        (attempt.withRequestTransaction callback).run world = (after, .ok response)) ∨
      (attempt.databaseFailure = some .commit ∧ ∃ error,
        (attempt.withRequestTransaction callback).run world = ({ after with db := world.db }, .error error)) := by
  by_cases broken : attempt.databaseFailure = some .commit
  · have failed : (callback >>= fun result => attempt.databaseWorks .commit >>= fun _ => pure result).run world =
        (after, .error (.database "Connection terminated unexpectedly")) := by
      rw [Effect.run_bind_of_ok ran, databaseWorks, Effect.run_bind_failIf_of broken]
    exact .inr ⟨broken, _, Effect.run_rollingBack_of_error failed⟩
  · refine .inl ⟨broken, Effect.run_rollingBack_of_ok ?_⟩
    rw [Effect.run_bind_of_ok ran, databaseWorks, Effect.run_bind_failIf_of_not broken, Effect.run_pure]

theorem attempted_of_refused (kept : after.pushes = world.pushes)
    (failed : (attempt.handle runtime).run world = (after, .error error)) :
    Attempted runtime attempt world ((attempt.createPaymentIntent runtime).run world) := by
  rw [createPaymentIntent, withRequestTransaction_of_error failed, kept]
  exact .refused error

theorem attempted_of_answered
    (answered : (attempt.handle runtime).run world = (world, .ok response))
    (ran : attempt.run runtime world.db = .ok (response, world.db)) :
    Attempted runtime attempt world ((attempt.createPaymentIntent runtime).run world) := by
  rw [createPaymentIntent]
  rcases withRequestTransaction_of_ok answered with ⟨-, committed⟩ | ⟨-, error, rolledBack⟩
  · rw [committed]
    exact .answered response ran
  · rw [rolledBack]
    exact .refused error

theorem attempted_of_pushed {record : IdempotencyRecord PaymentIntentResponse}
    {keys : List (IdempotencyRecord PaymentIntentResponse)}
    (asks : Asks runtime attempt config phoneNumber amountMinor record keys world.db)
    (pushed : Pushed runtime attempt config record.id phoneNumber amountMinor
      ⟨{ world.db with idempotencyKeys := keys }, world.pushes⟩ ((attempt.handle runtime).run world)) :
    Attempted runtime attempt world ((attempt.createPaymentIntent runtime).run world) := by
  have unlocked (pushable : Pushable attempt record.id amountMinor { world.db with idempotencyKeys := keys }) :
      Pushable attempt record.id amountMinor world.db :=
    ⟨pushable.positive, pushable.small, pushable.newIntent, pushable.unrequested, pushable.ready, pushable.whole⟩
  rcases ran : (attempt.handle runtime).run world with ⟨after, outcome⟩
  rw [ran] at pushed
  cases pushed with
  | refused _ error kept => exact attempted_of_refused kept ran
  | lost _ error pushable unsettled pushes =>
    rw [createPaymentIntent, withRequestTransaction_of_error ran, pushes]
    exact .lost config phoneNumber amountMinor record keys error asks (unlocked pushable)
      fun settles => unsettled ⟨settles.works, settles.accepted⟩
  | requested db response pushable paid =>
    rw [createPaymentIntent]
    rcases withRequestTransaction_of_ok ran with ⟨-, committed⟩ | ⟨broken, error, rolledBack⟩
    · rw [committed]
      exact .requested config phoneNumber amountMinor record keys db response asks (unlocked pushable) paid
    · rw [rolledBack]
      refine .lost config phoneNumber amountMinor record keys error asks (unlocked pushable) ?_
      intro settles
      exact nomatch settles.works.symm.trans broken

theorem handle_of_read (read : ReadRequest runtime attempt.owner attempt.dto phoneNumber amountMinor config) :
    (attempt.handle runtime).run world =
      (onDb (Mpesa.lockRequest attempt.call.now attempt.call.newKeyId
          (Mpesa.requestLock runtime.toRuntime attempt.call attempt.dto phoneNumber amountMinor)) >>= fun record =>
        attempt.answerLocked runtime config phoneNumber amountMinor record).run world := by
  rw [handle, read.phone, read.amount, read.configured]
  rfl

theorem handle_of_unread (unread : ¬ Readable runtime attempt.toPaymentRequest) :
    ∃ error, (attempt.handle runtime).run world = (world, .error error) := by
  unfold handle
  cases phone : normalizePhoneNumber attempt.dto.phoneNumber with
  | error error => exact ⟨error, rfl⟩
  | ok phoneNumber =>
    cases amount : Mpesa.normalizeMinorAmount attempt.dto.amountMinor with
    | error error => exact ⟨error, rfl⟩
    | ok amountMinor =>
      cases configured : runtime.resolveMpesaConfig attempt.owner with
      | error error => exact ⟨error, rfl⟩
      | ok config => exact (unread ⟨phoneNumber, amountMinor, config, phone, amount, configured⟩).elim

theorem attempted_createPaymentIntent (runtime : PaymentsRuntime) (attempt : PaymentAttempt) (world : GatewayWorld) :
    Attempted runtime attempt world ((attempt.createPaymentIntent runtime).run world) := by
  by_cases readable : Readable runtime attempt.toPaymentRequest
  · obtain ⟨phoneNumber, amountMinor, config, read⟩ := readable
    have started := @handle_of_read _ _ _ _ _ world read
    rcases locked : (onDb (Mpesa.lockRequest attempt.call.now attempt.call.newKeyId (Mpesa.requestLock runtime.toRuntime
        attempt.call attempt.dto phoneNumber amountMinor))).run world with ⟨middle, error | record⟩
    · have kept : middle.pushes = world.pushes :=
        (congrArg (·.1.pushes) locked).symm.trans (keepsPushes_onDb _ world)
      exact attempted_of_refused kept (started.trans (Effect.run_bind_of_error locked))
    · obtain ⟨db, ran, rfl⟩ := onDb_ok.mp locked
      obtain ⟨keys, taken, rfl⟩ := Mpesa.lockRequest_ok.mp ran
      rw [Effect.run_bind_of_ok locked] at started
      rcases answerLocked_cases runtime attempt config phoneNumber amountMinor record with
        ⟨stored, completed, body, answer⟩ | ⟨unanswered, answer⟩
      · rw [answer, Effect.run_pure] at started
        obtain rfl := lockRequest_answers taken completed
        apply attempted_of_answered started
        apply createPaymentIntent_ok_iff.mpr
        refine ⟨phoneNumber, amountMinor, config, record, _, read, taken, ?_⟩
        rw [Mpesa.answerLocked, completed, body]
        rfl
      · rw [answer] at started
        apply attempted_of_pushed ⟨read, taken, unanswered⟩
        rw [started]
        exact pushed_pushPayment
  · obtain ⟨error, failed⟩ := @handle_of_unread _ _ world readable
    exact attempted_of_refused rfl failed

theorem run_of_ok
    (ran : (attempt.createPaymentIntent runtime).run world = (after, .ok response)) :
    attempt.run runtime world.db = .ok (response, after.db) := by
  have outcome := attempted_createPaymentIntent runtime attempt world
  rw [ran] at outcome
  cases outcome with
  | answered _ ran => exact ran
  | requested config phoneNumber amountMinor record keys db _ asks pushable paid =>
    apply createPaymentIntent_ok_iff.mpr
    refine ⟨phoneNumber, amountMinor, config, record, keys, asks.read, asks.locked, ?_⟩
    rcases Mpesa.answerLocked_cases runtime attempt.call attempt.dto attempt.owner config phoneNumber amountMinor record with
      ⟨stored, completed, body, -⟩ | ⟨-, answer⟩
    · rcases asks.unanswered with open' | absent
      · exact absurd completed open'
      · exact nomatch absent.symm.trans body
    · rw [answer]
      exact paid

end Pushes

def pushesFor (idempotencyKey : String) (world : GatewayWorld) : List StkPush :=
  world.pushes.filter (·.idempotencyKey = idempotencyKey)

/-- The attempt settles if it gets as far as the push. -/
def Survives (attempt : PaymentAttempt) : Prop :=
  ∀ config phoneNumber amountMinor record keys,
    Asks runtime attempt config phoneNumber amountMinor record keys world.db →
      Pushable attempt record.id amountMinor world.db → Settles attempt world.db

structure KeysHeld : Prop where
  distinct : DistinctKeys world.db
  held : ∀ push ∈ world.pushes, ∃ record, keyRow push.idempotencyKey world.db = some record ∧
    KeyRequested record.id world.db
  once : ∀ idempotencyKey, (pushesFor idempotencyKey world).length ≤ 1

section Runs

variable {runtime : PaymentsRuntime} {attempt : PaymentAttempt} {world : GatewayWorld}

theorem unpushed_of_pushable {config : ResolvedMpesaConfig} {phoneNumber : String} {amountMinor : Nat}
    {record : IdempotencyRecord PaymentIntentResponse} {keys : List (IdempotencyRecord PaymentIntentResponse)}
    (before : KeysHeld world) (asks : Asks runtime attempt config phoneNumber amountMinor record keys world.db)
    (pushable : Pushable attempt record.id amountMinor world.db) :
    ∀ push ∈ world.pushes, push.idempotencyKey ≠ keyOf attempt.dto := by
  intro push member same
  obtain ⟨row, found, requested⟩ := before.held push member
  apply pushable.unrequested
  rw [lockRequest_id (same ▸ found) asks.locked]
  exact requested

theorem keysHeld_perform (before : KeysHeld world) (survives : Survives runtime world attempt) :
    KeysHeld (perform runtime world attempt) := by
  have outcome := attempted_createPaymentIntent runtime attempt world
  rcases ran : (attempt.createPaymentIntent runtime).run world with ⟨after, result⟩
  rw [perform, ran]
  have committed (response : PaymentIntentResponse) (succeeded : result = .ok response) :
      attempt.run runtime world.db = .ok (response, after.db) := by
    subst succeeded
    exact run_of_ok ran
  rw [ran] at outcome
  cases outcome with
  | refused => exact before
  | answered => exact before
  | lost config phoneNumber amountMinor record keys error asks pushable unsettled =>
    exact absurd (survives config phoneNumber amountMinor record keys asks pushable) unsettled
  | requested config phoneNumber amountMinor record keys db response asks pushable paid =>
    have kept := createPaymentIntent_kept before.distinct (committed response rfl)
    obtain ⟨stk, payable, -, done⟩ := requestPayment_ok paid
    have unpushed := unpushed_of_pushable before asks pushable
    refine ⟨kept.distinct, ?_, ?_⟩
    · intro push member
      rcases List.mem_append.mp member with old | new
      · obtain ⟨row, found, intent, present, points⟩ := before.held push old
        refine ⟨row, (kept.answers _ (unpushed push old)).trans found, intent, ?_, points⟩
        rw [done.intents]
        exact List.mem_append_left _ present
      · cases List.mem_singleton.mp new
        let intent := requestedIntent runtime attempt.call attempt.dto attempt.owner config record.id phoneNumber
          amountMinor payable.positive stk
        have present : intent ∈ db.intents.rows := by
          rw [done.intents]
          exact List.mem_append_right _ (List.mem_singleton_self _)
        refine ⟨Idempotency.complete attempt.call.now 201 response record, ?_, intent, present, rfl⟩
        rw [keyRow, done.keys]
        exact recordFor_updateById_own (fun _ => Iff.rfl) (lockRequest_found asks.locked)
    · intro idempotencyKey
      rw [pushesFor, List.filter_append, List.length_append]
      by_cases own : keyOf attempt.dto = idempotencyKey
      · have none : world.pushes.filter (·.idempotencyKey = idempotencyKey) = [] := by
          apply List.filter_eq_nil_iff.mpr
          intro push member
          simpa [← own] using unpushed push member
        rw [none, List.length_nil, Nat.zero_add]
        exact List.length_filter_le _ _
      · have other : [attempt.pushOf phoneNumber amountMinor].filter (·.idempotencyKey = idempotencyKey) = [] := by
          simpa [pushOf] using own
        rw [other]
        exact before.once idempotencyKey

end Runs

/-- Where no attempt fails after its push, at most one push is sent for a key, however often it is tried. -/
theorem at_most_one_push (runtime : PaymentsRuntime) (idempotencyKey : String) {world : GatewayWorld}
    {attempts : List PaymentAttempt} (distinct : DistinctKeys world.db) (unsent : world.pushes = [])
    (survive : Runs.Meets (perform runtime) (Survives runtime) world attempts) :
    Runs.Along (perform runtime) (fun world => (pushesFor idempotencyKey world).length ≤ 1) world attempts := by
  have initial : KeysHeld world := by
    refine ⟨distinct, ?_, ?_⟩
    · rw [unsent]
      exact nofun
    · intro idempotencyKey
      rw [pushesFor, unsent]
      exact Nat.zero_le 1
  apply Runs.along_of_meets _ _ initial survive
  · exact fun world attempt before survives => keysHeld_perform before survives
  · exact fun world held => held.once idempotencyKey

def feesAttempt (ids : String) (now : Int) (databaseFailure : Option DatabaseStage) : PaymentAttempt where
  toPaymentRequest := feesOf .tenant ids now
  beforePush := .ok ()
  databaseFailure

theorem retry_pushes_again :
    ¬ Runs.Along (perform samplePaymentsRuntime) (fun world => (pushesFor "pay-1" world).length ≤ 1) ⟨noPayments, []⟩
      [feesAttempt "a" 0 (some .commit), feesAttempt "b" 1 none] := by
  decide +kernel

theorem undisturbed_fees_are_pushed_once :
    Runs.Along (perform samplePaymentsRuntime) (fun world => (pushesFor "pay-1" world).length ≤ 1) ⟨noPayments, []⟩
      [feesAttempt "a" 0 none] := by
  have accepted : Accepted (samplePush "a" 0).stkReply
      ⟨"merchant-" ++ "a", "checkout-" ++ "a", some "0", "Accepted", "Check your phone"⟩ :=
    ⟨"200", "", rfl, by decide, by decide, rfl⟩
  have settles : Settles (feesAttempt "a" 0 none) noPayments := ⟨rfl, _, accepted, by decide⟩
  exact at_most_one_push samplePaymentsRuntime "pay-1" (by decide) rfl ⟨fun _ _ _ _ _ _ _ => settles, trivial⟩

end PaymentAttempt

end ShuleHub.Payments
