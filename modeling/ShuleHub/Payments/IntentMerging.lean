import ShuleHub.Payments.ExpiredKeys

/-! The key rows of payment requests: which row a request locks, and what later requests leave of it. -/

namespace ShuleHub

namespace Idempotency

open Transaction

variable {Body : Type} {now : Int} {newId scope idempotencyKey : String} {input : IdempotencyRequestLock}
  {records after : List (IdempotencyRecord Body)} {record : IdempotencyRecord Body}

theorem recordFor_updateById_own {update : IdempotencyRecord Body → IdempotencyRecord Body}
    (kept : ∀ row, IsFor scope idempotencyKey (update row) ↔ IsFor scope idempotencyKey row)
    (found : recordFor scope idempotencyKey records = some record) :
    recordFor scope idempotencyKey (updateById record.id update records) = some (update record) := by
  unfold recordFor updateById at *
  induction records with
  | nil => cases found
  | cons row rows ih =>
    rw [List.map_cons]
    by_cases own : IsFor scope idempotencyKey row
    · rw [List.find?_cons_of_pos (by simpa using own)] at found
      cases found
      rw [if_pos rfl, List.find?_cons_of_pos (by simpa [kept] using own)]
    · rw [List.find?_cons_of_neg (by simpa using own)] at found
      by_cases same : row.id = record.id
      · rw [if_pos same, List.find?_cons_of_neg (by simpa [kept] using own)]
        exact ih found
      · rw [if_neg same, List.find?_cons_of_neg (by simpa using own)]
        exact ih found

theorem lockRequest_found (locked : (lockRequest now newId input).run records = .ok (record, after)) :
    recordFor input.scope input.idempotencyKey after = some record := by
  cases found : recordFor input.scope input.idempotencyKey records with
  | none =>
    obtain ⟨rfl, rfl, -⟩ := lockRequest_absent found locked
    exact recordFor_append_own found ⟨rfl, rfl⟩
  | some stored =>
    rw [lockRequest_run] at locked
    simp only [found] at locked
    split_ifs at locked
    · cases locked
      exact recordFor_updateById_own (fun _ => Iff.rfl) found
    · cases locked
      exact found
    · cases locked
      exact recordFor_updateById_own (fun _ => Iff.rfl) found

theorem lockRequest_answers (locked : (lockRequest now newId input).run records = .ok (record, after))
    (completed : record.status = .completed) : after = records := by
  cases found : recordFor input.scope input.idempotencyKey records with
  | none =>
    obtain ⟨rfl, rfl, -⟩ := lockRequest_absent found locked
    cases completed
  | some stored =>
    rw [lockRequest_run] at locked
    simp only [found] at locked
    split_ifs at locked
    · cases locked
      cases completed
    · cases locked
      rfl
    · cases locked
      cases completed

theorem lockRequest_id {stored : IdempotencyRecord Body}
    (found : recordFor input.scope input.idempotencyKey records = some stored)
    (locked : (lockRequest now newId input).run records = .ok (record, after)) : record.id = stored.id := by
  rw [lockRequest_run] at locked
  simp only [found] at locked
  split_ifs at locked <;> cases locked <;> rfl

end Idempotency

namespace Payments.Mpesa

open Transaction Idempotency

variable {runtime : PaymentsRuntime} {call : MpesaCall} {dto : CreatePaymentIntentDto} {owner : PaymentOwner}
  {db after : PaymentsDb} {response : PaymentIntentResponse}

def DistinctKeys (db : PaymentsDb) : Prop := (db.idempotencyKeys.map (·.id)).Nodup
deriving Decidable

def keyOf (dto : CreatePaymentIntentDto) : String := JsText.trim dto.idempotencyKey

def keyRow (idempotencyKey : String) (db : PaymentsDb) : Option (IdempotencyRecord PaymentIntentResponse) :=
  recordFor mpesaPaymentIntentScope idempotencyKey db.idempotencyKeys

theorem createPaymentIntent_kept (distinct : DistinctKeys db)
    (ran : (createPaymentIntent runtime call owner dto).run db = .ok (response, after)) :
    OthersKept mpesaPaymentIntentScope (keyOf dto) call.newKeyId db.idempotencyKeys after.idempotencyKeys := by
  obtain ⟨phoneNumber, amountMinor, config, record, keys, -, locked, answered⟩ := createPaymentIntent_ok_iff.mp ran
  obtain ⟨kept, present, own⟩ := lockRequest_kept distinct locked
  rcases answerLocked_cases runtime call dto owner config phoneNumber amountMinor record with
    ⟨stored, -, -, answer⟩ | ⟨-, answer⟩
  · rw [answer] at answered
    cases answered
    exact kept
  · rw [answer] at answered
    obtain ⟨_, _, -, done⟩ := requestPayment_ok answered
    rw [done.keys]
    exact kept.trans (.update kept.distinct present own.2 fun _ => ⟨rfl, rfl, rfl⟩)

end Payments.Mpesa

end ShuleHub

/-! Two payment requests under one idempotency key: when the second is answered with the response of the first. -/

namespace ShuleHub.Payments

open Transaction Idempotency Finance Mpesa

variable (runtime : PaymentsRuntime)

structure PaymentRequest where
  call : MpesaCall
  owner : PaymentOwner
  dto : CreatePaymentIntentDto

/-- Two requests that the service reads alike, whoever the payment is for. -/
structure SamePayload (first second : CreatePaymentIntentDto) : Prop where
  amountMinor : Mpesa.normalizeMinorAmount first.amountMinor = Mpesa.normalizeMinorAmount second.amountMinor
  phoneNumber : normalizePhoneNumber first.phoneNumber = normalizePhoneNumber second.phoneNumber
  accountReference : JsText.trim first.accountReference = JsText.trim second.accountReference
  transactionDesc : JsText.trim first.transactionDesc = JsText.trim second.transactionDesc
  studentId : first.studentId = second.studentId
  externalReference : first.externalReference.map JsText.trim = second.externalReference.map JsText.trim
  metadata : Json.canonical (.obj first.metadata) = Json.canonical (.obj second.metadata)

instance (first second : CreatePaymentIntentDto) : Decidable (SamePayload first second) :=
  decidable_of_iff (_ ∧ _ ∧ _ ∧ _ ∧ _ ∧ _ ∧ _)
    ⟨fun ⟨a, b, c, d, e, f, g⟩ => ⟨a, b, c, d, e, f, g⟩, fun ⟨a, b, c, d, e, f, g⟩ => ⟨a, b, c, d, e, f, g⟩⟩

section Hashes

variable {runtime : Runtime} {first second : CreatePaymentIntentDto} {firstPhone secondPhone : String}
  {firstAmount secondAmount : Nat}

def hashedFields (dto : CreatePaymentIntentDto) (phoneNumber : String) (amountMinor : Nat) : List (String × Json) := [
  ("idempotency_key", .str (keyOf dto)),
  ("amount_minor", jsonNat amountMinor),
  ("phone_number", .str phoneNumber),
  ("account_reference", .str (JsText.trim dto.accountReference)),
  ("transaction_desc", .str (JsText.trim dto.transactionDesc)),
  ("student_id", jsonText dto.studentId),
  ("external_reference", jsonText (dto.externalReference.map JsText.trim)),
  ("metadata", Json.canonical (.obj dto.metadata))]

theorem canonical_payload (dto : CreatePaymentIntentDto) (phoneNumber : String) (amountMinor : Nat) :
    Json.canonical (.obj [
      ("idempotency_key", .str (JsText.trim dto.idempotencyKey)),
      ("amount_minor", jsonNat amountMinor),
      ("phone_number", .str phoneNumber),
      ("account_reference", .str (JsText.trim dto.accountReference)),
      ("transaction_desc", .str (JsText.trim dto.transactionDesc)),
      ("student_id", jsonText dto.studentId),
      ("external_reference", jsonText (dto.externalReference.map JsText.trim)),
      ("metadata", .obj dto.metadata)]) = .obj (Json.sortFields (hashedFields dto phoneNumber amountMinor)) := by
  rw [Json.canonical]
  simp only [Json.canonicalFields, jsonText_canonical]
  rfl

theorem buildIdempotencyHash_eq_iff (injective : Function.Injective runtime.sha256)
    (sameKey : keyOf second = keyOf first)
    (phoneOfFirst : normalizePhoneNumber first.phoneNumber = .ok firstPhone)
    (phoneOfSecond : normalizePhoneNumber second.phoneNumber = .ok secondPhone)
    (amountOfFirst : Mpesa.normalizeMinorAmount first.amountMinor = .ok firstAmount)
    (amountOfSecond : Mpesa.normalizeMinorAmount second.amountMinor = .ok secondAmount) :
    Mpesa.buildIdempotencyHash runtime first firstPhone firstAmount =
      Mpesa.buildIdempotencyHash runtime second secondPhone secondAmount ↔ SamePayload first second := by
  have hashes : Mpesa.buildIdempotencyHash runtime first firstPhone firstAmount =
      Mpesa.buildIdempotencyHash runtime second secondPhone secondAmount ↔
      hashedFields first firstPhone firstAmount = hashedFields second secondPhone secondAmount := by
    rw [Mpesa.buildIdempotencyHash, Mpesa.buildIdempotencyHash, injective.eq_iff, stableSerialize, stableSerialize,
      String.ofList_inj, Json.serialize_eq_iff, canonical_payload, canonical_payload, Json.obj.injEq]
    exact Json.sortFields_inj rfl (by simp [hashedFields])
  rw [hashes]
  constructor
  · intro same
    simp only [hashedFields, List.cons.injEq, Prod.mk.injEq, Json.str.injEq, true_and, and_true] at same
    obtain ⟨-, amount, phone, account, desc, student, reference, metadata⟩ := same
    refine ⟨?_, ?_, account, desc, jsonText_injective student, jsonText_injective reference, metadata⟩
    · rw [amountOfFirst, amountOfSecond, jsonNat_injective amount]
    · rw [phoneOfFirst, phoneOfSecond, phone]
  · rintro ⟨amount, phone, account, desc, student, reference, metadata⟩
    rw [amountOfFirst, amountOfSecond] at amount
    rw [phoneOfFirst, phoneOfSecond] at phone
    cases amount
    cases phone
    rw [hashedFields, hashedFields, sameKey, account, desc, student, reference, metadata]

end Hashes

def Readable (request : PaymentRequest) : Prop :=
  ∃ phoneNumber amountMinor config, ReadRequest runtime request.owner request.dto phoneNumber amountMinor config

structure StoredFor (dto : CreatePaymentIntentDto) (response : PaymentIntentResponse)
    (deadline : Int) (record : IdempotencyRecord PaymentIntentResponse) : Prop where
  completed : record.status = .completed
  body : record.responseBody = some response
  lasts : record.expiresAt = deadline
  hashed : ∃ phoneNumber amountMinor, normalizePhoneNumber dto.phoneNumber = .ok phoneNumber ∧
    Mpesa.normalizeMinorAmount dto.amountMinor = .ok amountMinor ∧
    record.requestHash = Mpesa.buildIdempotencyHash runtime.toRuntime dto phoneNumber amountMinor

section Stored

variable {runtime : PaymentsRuntime} {request : PaymentRequest} {dto : CreatePaymentIntentDto}
  {response : PaymentIntentResponse} {deadline : Int} {record : IdempotencyRecord PaymentIntentResponse}
  {db after : PaymentsDb} {idempotencyKey : String}

def PaymentRequest.run (runtime : PaymentsRuntime) (request : PaymentRequest) (db : PaymentsDb) :
    Except Exception (PaymentIntentResponse × PaymentsDb) :=
  (createPaymentIntent runtime request.call request.owner request.dto).run db

theorem stored_of_ok (ran : request.run runtime db = .ok (response, after)) :
    ∃ record, keyRow (keyOf request.dto) after = some record ∧
      StoredFor runtime request.dto response record.expiresAt record := by
  obtain ⟨phoneNumber, amountMinor, config, record, keys, read, locked, answered⟩ := createPaymentIntent_ok_iff.mp ran
  have hashed := (lockRequest_hashes locked).1
  have found := lockRequest_found locked
  rcases answerLocked_cases runtime request.call request.dto request.owner config phoneNumber amountMinor record with
    ⟨stored, completed, body, answer⟩ | ⟨-, answer⟩
  · rw [answer] at answered
    cases answered
    exact ⟨record, found, completed, body, rfl, phoneNumber, amountMinor, read.phone, read.amount, hashed⟩
  · rw [answer] at answered
    obtain ⟨_, _, -, done⟩ := requestPayment_ok answered
    refine ⟨Idempotency.complete request.call.now 201 response record, ?_, rfl, rfl, rfl, phoneNumber, amountMinor,
      read.phone, read.amount, hashed⟩
    rw [keyRow, done.keys]
    exact recordFor_updateById_own (fun _ => Iff.rfl) found

def LeavesKey (idempotencyKey : String) (deadline : Int) : KeyedRequest → Prop
  | .posting _ _ => True
  | .payment call _ dto => keyOf dto = idempotencyKey → call.now < deadline

theorem locked_of_stored {call : MpesaCall} {owner : PaymentOwner} {next : CreatePaymentIntentDto}
    {answer : PaymentIntentResponse} (found : keyRow (keyOf next) db = some record)
    (stored : StoredFor runtime dto response deadline record) (inTime : call.now < deadline)
    (ran : (createPaymentIntent runtime call owner next).run db = .ok (answer, after)) :
    answer = response ∧ after = db := by
  obtain ⟨phoneNumber, amountMinor, config, locked, keys, -, lock, answered⟩ := createPaymentIntent_ok_iff.mp ran
  let input := requestLock runtime.toRuntime call next phoneNumber amountMinor
  have own : recordFor input.scope input.idempotencyKey db.idempotencyKeys = some record := found
  have alive : call.now < record.expiresAt := stored.lasts ▸ inTime
  obtain ⟨rfl, rfl, -⟩ := lockRequest_completed own alive stored.completed lock
  rw [Mpesa.answerLocked, stored.completed, stored.body] at answered
  cases answered
  exact ⟨rfl, rfl⟩

theorem stored_step {db : TenantDb} {next : KeyedRequest} (distinct : DistinctKeys db.payments)
    (found : keyRow idempotencyKey db.payments = some record)
    (stored : StoredFor runtime dto response deadline record) (leaves : LeavesKey idempotencyKey deadline next) :
    DistinctKeys (KeyedRequest.perform runtime db next).payments ∧
      keyRow idempotencyKey (KeyedRequest.perform runtime db next).payments = some record := by
  cases next with
  | posting context input =>
    apply @commit_preserves _ _ _ (fun db : TenantDb => DistinctKeys db.payments ∧
      keyRow idempotencyKey db.payments = some record) _ _ ⟨distinct, found⟩
    intro posted after ran
    obtain ⟨finance, -, rfl⟩ := onFinance_ok.mp ran
    exact ⟨distinct, found⟩
  | payment call owner next =>
    apply @commit_preserves _ _ _ (fun db : TenantDb => DistinctKeys db.payments ∧
      keyRow idempotencyKey db.payments = some record) _ _ ⟨distinct, found⟩
    intro answer after ran
    obtain ⟨payments, created, rfl⟩ := onPayments_ok.mp ran
    by_cases same : keyOf next = idempotencyKey
    · obtain ⟨-, rfl⟩ := locked_of_stored (same ▸ found) stored (leaves same) created
      exact ⟨distinct, found⟩
    · have kept := createPaymentIntent_kept distinct created
      exact ⟨kept.distinct, (kept.answers idempotencyKey (Ne.symm same)).trans found⟩

theorem stored_run {db : TenantDb} (requests : List KeyedRequest)
    (distinct : DistinctKeys db.payments) (found : keyRow idempotencyKey db.payments = some record)
    (stored : StoredFor runtime dto response deadline record)
    (leaves : ∀ request ∈ requests, LeavesKey idempotencyKey deadline request) :
    keyRow idempotencyKey (Runs.run (KeyedRequest.perform runtime) db requests).payments = some record := by
  induction requests generalizing db with
  | nil => exact found
  | cons next requests ih =>
    obtain ⟨head, tail⟩ := List.forall_mem_cons.mp leaves
    obtain ⟨distinct, found⟩ := stored_step distinct found stored head
    exact ih distinct found tail

end Stored

structure Agree (first second : PaymentRequest) : Prop where
  owner : first.owner = second.owner
  payload : SamePayload first.dto second.dto

/-- The second request gets the response of the first only if they agree, and is refused as a conflict if not. -/
structure KeptApart (db : PaymentsDb) (first second : PaymentRequest)
    (response : PaymentIntentResponse) : Prop where
  answered : ∀ after, second.run runtime db = .ok (response, after) → Agree first second
  refused : ¬ Agree first second → second.run runtime db =
    .error (.conflict "Idempotency key has already been used with a different payment intent payload")

section Second

variable {runtime : PaymentsRuntime} {first second : PaymentRequest} {response : PaymentIntentResponse} {deadline : Int}
  {record : IdempotencyRecord PaymentIntentResponse} {db : PaymentsDb}

theorem run_of_samePayload (injective : Function.Injective runtime.sha256)
    (sameKey : keyOf second.dto = keyOf first.dto) (found : keyRow (keyOf first.dto) db = some record)
    (stored : StoredFor runtime first.dto response deadline record) (inTime : second.call.now < deadline)
    (readable : Readable runtime second) (same : SamePayload first.dto second.dto) :
    second.run runtime db = .ok (response, db) := by
  obtain ⟨phoneNumber, amountMinor, config, read⟩ := readable
  obtain ⟨firstPhone, firstAmount, phone, amount, hashed⟩ := stored.hashed
  let input := requestLock runtime.toRuntime second.call second.dto phoneNumber amountMinor
  have own : recordFor input.scope input.idempotencyKey db.idempotencyKeys = some record := by
    rw [← found, ← sameKey]
    rfl
  have alive : ¬ record.expiresAt ≤ second.call.now := Int.not_le.mpr (stored.lasts ▸ inTime)
  have sameHash : record.requestHash = input.requestHash :=
    hashed.trans ((buildIdempotencyHash_eq_iff injective sameKey phone read.phone amount read.amount).mpr same)
  have locked : (Idempotency.lockRequest second.call.now second.call.newKeyId input).run db.idempotencyKeys =
      .ok (record, db.idempotencyKeys) := by
    rw [lockRequest_run]
    simp only [own, if_neg alive, if_neg (not_not.mpr sameHash), if_pos stored.completed]
  apply createPaymentIntent_ok_iff.mpr
  refine ⟨phoneNumber, amountMinor, config, record, _, read, locked, ?_⟩
  rw [Mpesa.answerLocked, stored.completed, stored.body]
  rfl

theorem run_of_differs (injective : Function.Injective runtime.sha256)
    (sameKey : keyOf second.dto = keyOf first.dto) (found : keyRow (keyOf first.dto) db = some record)
    (stored : StoredFor runtime first.dto response deadline record) (inTime : second.call.now < deadline)
    (readable : Readable runtime second) (differs : ¬ SamePayload first.dto second.dto) :
    second.run runtime db =
      .error (.conflict "Idempotency key has already been used with a different payment intent payload") := by
  obtain ⟨phoneNumber, amountMinor, config, read⟩ := readable
  obtain ⟨firstPhone, firstAmount, phone, amount, hashed⟩ := stored.hashed
  let input := requestLock runtime.toRuntime second.call second.dto phoneNumber amountMinor
  have own : recordFor input.scope input.idempotencyKey db.idempotencyKeys = some record := by
    rw [← found, ← sameKey]
    rfl
  have alive : second.call.now < record.expiresAt := stored.lasts ▸ inTime
  have otherHash : record.requestHash ≠ input.requestHash := by
    intro sameHash
    apply differs
    apply (buildIdempotencyHash_eq_iff injective sameKey phone read.phone amount read.amount).mp
    exact hashed.symm.trans sameHash
  have refused := lockRequest_conflict second.call.newKeyId input own alive otherHash
  have locked : (Mpesa.lockRequest second.call.now second.call.newKeyId input).run db =
      .error (.conflict "Idempotency key has already been used with a different payment intent payload") := by
    have failed : (Mpesa.onKeys (Idempotency.lockRequest second.call.now second.call.newKeyId input)).run db =
        .error (.conflict "Idempotency key has already been used with a different request payload") :=
      run_zoom_error.mpr refused
    change ((Mpesa.onKeys (Idempotency.lockRequest second.call.now second.call.newKeyId input)).run db).mapError _ = _
    rw [failed]
    rfl
  simp only [PaymentRequest.run, createPaymentIntent, read.phone, read.amount, read.configured, run_bind, run_lift,
    Except.map]
  rw [locked]

end Second

/-- A request under the key of an earlier one gets its response only if they agree, exactly when they are for one owner
or are not read alike. -/
theorem merged_requests_agree_iff {runtime : PaymentsRuntime} {first second : PaymentRequest} {db : TenantDb}
    {after : PaymentsDb} {response : PaymentIntentResponse} {record : IdempotencyRecord PaymentIntentResponse}
    {between : List KeyedRequest} (injective : Function.Injective runtime.sha256) (distinct : DistinctKeys db.payments)
    (created : first.run runtime db.payments = .ok (response, after))
    (found : keyRow (keyOf first.dto) after = some record)
    (leaves : ∀ request ∈ between, LeavesKey (keyOf first.dto) record.expiresAt request)
    (sameKey : keyOf second.dto = keyOf first.dto) (inTime : second.call.now < record.expiresAt)
    (readable : Readable runtime second) :
    KeptApart runtime (Runs.run (KeyedRequest.perform runtime) { db with payments := after } between).payments
        first second response ↔
      first.owner = second.owner ∨ ¬ SamePayload first.dto second.dto := by
  obtain ⟨row, own, stored⟩ := stored_of_ok created
  obtain rfl : record = row := Option.some.inj (found.symm.trans own)
  have distinct : DistinctKeys after := (createPaymentIntent_kept distinct created).distinct
  have kept := @stored_run _ _ _ _ _ _ { db with payments := after } between distinct found stored leaves
  constructor
  · intro apart
    by_contra neither
    obtain ⟨others, same⟩ := not_or.mp neither
    have ran := run_of_samePayload injective sameKey kept stored inTime readable (not_not.mp same)
    exact others (apart.answered _ ran).owner
  · intro condition
    have conflict (differs : ¬ SamePayload first.dto second.dto) :=
      run_of_differs injective sameKey kept stored inTime readable differs
    constructor
    · intro last ran
      by_cases same : SamePayload first.dto second.dto
      · exact ⟨condition.resolve_right (not_not.mpr same), same⟩
      · exact absurd ((conflict same).symm.trans ran) Outcome.error_ne_ok
    · intro disagree
      apply conflict
      intro same
      apply disagree
      exact ⟨condition.resolve_right (not_not.mpr same), same⟩

def hashingRuntime : PaymentsRuntime := { samplePaymentsRuntime with sha256 := id }

def feesOf (owner : PaymentOwner) (ids : String) (now : Int) : PaymentRequest where
  call := samplePush ids now
  owner
  dto := samplePaymentDto

def noPayments : PaymentsDb := (sampleTenant [] List.nodup_nil).payments

theorem platform_gets_the_payment_of_a_school :
    ∃ response after, (feesOf .tenant "a" 0).run hashingRuntime noPayments = .ok (response, after) ∧
      ¬ KeptApart hashingRuntime after (feesOf .tenant "a" 0) (feesOf .platform "b" 1) response := by
  have merged : (createPaymentIntent hashingRuntime (samplePush "a" 0) .tenant samplePaymentDto).Goes noPayments
      fun response after => (createPaymentIntent hashingRuntime (samplePush "b" 1) .platform samplePaymentDto).Goes after
        fun answer _ => answer = response := by
    decide +kernel
  obtain ⟨response, after, created, _, last, answered, rfl⟩ := merged
  exact ⟨_, after, created, fun apart => nomatch (apart.answered last answered).owner⟩

theorem school_gets_its_payment_again :
    ∃ response after, (feesOf .tenant "a" 0).run hashingRuntime noPayments = .ok (response, after) ∧
      (KeptApart hashingRuntime after (feesOf .tenant "a" 0) (feesOf .tenant "b" 1) response ↔
        PaymentOwner.tenant = .tenant ∨ ¬ SamePayload samplePaymentDto samplePaymentDto) := by
  have requested : (createPaymentIntent hashingRuntime (samplePush "a" 0) .tenant samplePaymentDto).Goes noPayments
      fun _ after => ∃ record ∈ keyRow (keyOf samplePaymentDto) after, 1 < record.expiresAt := by
    decide +kernel
  obtain ⟨response, after, created, record, found, alive⟩ := requested
  have untouched : ∀ request ∈ ([] : List KeyedRequest), LeavesKey (keyOf samplePaymentDto) record.expiresAt request :=
    fun _ member => absurd member List.not_mem_nil
  obtain ⟨phoneNumber, amountMinor, config, _, _, read, -, -⟩ := createPaymentIntent_ok_iff.mp created
  have agreed := @merged_requests_agree_iff hashingRuntime (feesOf .tenant "a" 0) (feesOf .tenant "b" 1)
    (sampleTenant [] (by decide)) after response record [] Function.injective_id (by decide) created found untouched rfl
    alive ⟨phoneNumber, amountMinor, config, read⟩
  exact ⟨response, after, created, agreed⟩

end ShuleHub.Payments
