import ShuleHub.Payments.CallbackOutcomes

/-! The tenant that an accepted delivery is filed under, against the tenant whose intent it is for. -/

namespace ShuleHub.Payments

open Transaction TenantFinance Outcome

def DistinctRequestIds (db : CallbackDb) : Prop :=
  ∀ first ∈ db.intents, ∀ second ∈ db.intents, ∀ id,
    first.intent.checkoutRequestId = some id ∧ second.intent.checkoutRequestId = some id ∨
        first.intent.merchantRequestId = some id ∧ second.intent.merchantRequestId = some id → first = second

/-- A callback carries the pair of identifiers that the gateway gave to an intent. -/
def Carries (payload : Json) (intent : PaymentIntentEntity) : Prop :=
  ∃ checkoutRequestId ∈ intent.checkoutRequestId, ∃ merchantRequestId ∈ intent.merchantRequestId,
    (stkCallback payload).property "CheckoutRequestID" = some (.str checkoutRequestId) ∧
      (stkCallback payload).property "MerchantRequestID" = some (.str merchantRequestId)

/-- If a delivery for an intent is accepted, its log and its job are those of the tenant of the intent. -/
def FiledUnderOwner (runtime : CallbackRuntime) (request : CallbackRequest) (world : CallbackWorld)
    (row : TenantPaymentIntent) : Prop :=
  (deliver runtime request world).2.isOk = true →
    (∃ log ∈ (deliver runtime request world).1.db.callbackLogs.rows,
      log.id = request.newLogId ∧ log.tenantId = row.tenantId) ∧
    ∃ checkoutRequestId ∈ row.intent.checkoutRequestId,
      ((deliver runtime request world).1.jobs.find (buildJobId row.tenantId (.str checkoutRequestId))).isSome = true
deriving Decidable

/-- The tenants that the two routes can give a delivery for an intent of `owner`: that of the active integration
it names, or else `owner`, if the shortcode does not make it that of the host. -/
inductive Routed (runtime : CallbackRuntime) (request : CallbackRequest) (db : CallbackDb) (owner : String) :
    ResolvedCallbackTenant → Prop
  | integration {text id : String} {integration : DarajaIntegration} (named : request.integrationId = some text)
      (cast : runtime.uuid text = some id) (found : db.integrations.find id = some integration)
      (active : integration.isActive = true) :
      Routed runtime request db owner
        ⟨integration.tenantId, integration.shortcode <|> integration.paybillNumber <|> integration.tillNumber⟩
  | host (unnamed : request.integrationId = none)
      (own : ∀ tenantId ∈ configuredTenant db request.body request.contextTenantId, tenantId = owner) :
      Routed runtime request db owner ⟨owner, extractShortcode request.body⟩

/-- Wherever a delivery can be admitted, the tenant is the owner of the intent, and if the replay store knows the
delivery then the queue still holds the job. -/
def ReachesOwner (runtime : CallbackRuntime) (request : CallbackRequest) (world : CallbackWorld) (owner : String) :
    Prop :=
  ∀ resolved inspection parsed, Routed runtime request world.db owner resolved →
    Admitted runtime request world resolved inspection parsed →
      resolved.tenantId = owner ∧ (Replays world owner inspection.deliveryId →
        (world.jobs.find (buildJobId owner parsed.checkoutRequestId)).isSome = true)

section Owner

variable {runtime : CallbackRuntime} {request : CallbackRequest} {world : CallbackWorld} {row : TenantPaymentIntent}
  {parsed : ParsedCallbackPayload} {tenantId owner : String} {resolved : ResolvedCallbackTenant}

theorem checkout_of_carries {payload : Json} {intent : PaymentIntentEntity} (carried : Carries payload intent)
    (parses : parseCallbackPayload payload = .ok parsed) :
    ∃ checkoutRequestId ∈ intent.checkoutRequestId, ∃ merchantRequestId ∈ intent.merchantRequestId,
      parsed.checkoutRequestId = .str checkoutRequestId ∧ parsed.merchantRequestId = .str merchantRequestId := by
  obtain ⟨checkoutRequestId, checkoutOf, merchantRequestId, merchantOf, checkout, merchant⟩ := carried
  obtain ⟨parsedMerchant, parsedCheckout⟩ := identifiers_of_parse parses
  rw [Json.truthyProperty, Option.filter_eq_some_iff] at parsedMerchant parsedCheckout
  refine ⟨checkoutRequestId, checkoutOf, merchantRequestId, merchantOf, ?_, ?_⟩
  · exact Option.some.inj (parsedCheckout.1.symm.trans checkout)
  · exact Option.some.inj (parsedMerchant.1.symm.trans merchant)

variable (runtime) in
theorem requestedTenant_of_carries (distinct : DistinctRequestIds world.db) (committed : row ∈ world.db.intents)
    (carried : Carries request.body row.intent) (parses : parseCallbackPayload request.body = .ok parsed) :
    requestedTenant runtime world.db parsed = some row.tenantId := by
  obtain ⟨checkoutRequestId, checkoutOf, merchantRequestId, merchantOf, checkout, merchant⟩ :=
    checkout_of_carries carried parses
  rw [requestedTenant, checkout, merchant, runtime.parameterText_str, runtime.parameterText_str,
    findTenantIdByPaymentRequest]
  generalize candidatesAre : world.db.intents.filter (fun other =>
    other.matchesRequest checkoutRequestId merchantRequestId) = candidates
  have own : row ∈ candidates := by
    rw [← candidatesAre, List.mem_filter, decide_eq_true_eq]
    exact ⟨committed, .inl checkoutOf⟩
  have only : ∀ other ∈ candidates, other = row := by
    intro other member
    rw [← candidatesAre, List.mem_filter, decide_eq_true_eq] at member
    rcases member.2 with sameCheckout | sameMerchant
    · exact distinct other member.1 row committed checkoutRequestId (.inl ⟨sameCheckout, checkoutOf⟩)
    · exact distinct other member.1 row committed merchantRequestId (.inr ⟨sameMerchant, merchantOf⟩)
  cases newest : (candidates.insertionSort fun first second =>
      second.intent.createdAt ≤ first.intent.createdAt).head? with
  | none =>
    have sorted := (List.mem_insertionSort fun first second : TenantPaymentIntent =>
      second.intent.createdAt ≤ first.intent.createdAt).mpr own
    rw [List.head?_eq_none_iff.mp newest] at sorted
    exact absurd sorted List.not_mem_nil
  | some other =>
    have member := (List.mem_insertionSort _).mp (List.mem_of_head? newest)
    rw [only other member]
    rfl

theorem owner_of_asserted (requested : requestedTenant runtime world.db parsed = some owner)
    (asserted : assertCallbackBelongsToTenant runtime world.db tenantId request.body parsed = .ok ()) :
    owner = tenantId := by
  rw [assertCallbackBelongsToTenant, bind_ok] at asserted
  obtain ⟨_, _, asserted⟩ := asserted
  rw [requested, failIf_ok, not_not] at asserted
  exact asserted

theorem routed_of_resolves
    (requested : requestedTenant runtime world.db parsed = some owner)
    (resolves : resolveCallbackTenant runtime world.db request.body (some parsed) request.contextTenantId
      request.integrationId = .ok resolved) (owned : Owned runtime request world.db resolved.tenantId parsed) :
    Routed runtime request world.db owner resolved := by
  cases named : request.integrationId with
  | some text =>
    rw [named, resolveCallbackTenant, getCredentialsForCallback] at resolves
    split at resolves
    · next id cast =>
      rw [bind_ok] at resolves
      obtain ⟨credentials, found, resolves⟩ := resolves
      cases found
      split at resolves
      · cases resolves
      · next integration found =>
        rw [Option.filter_eq_some_iff] at found
        cases resolves
        exact .integration named cast found.1 found.2
    · cases resolves
  | none =>
    have same := owner_of_asserted requested (owned named)
    rw [named, resolveCallbackTenant, resolveTenantForMpesaCallback] at resolves
    cases configured : configuredTenant world.db request.body request.contextTenantId with
    | some tenantId =>
      rw [configured] at resolves
      cases resolves
      subst same
      exact .host named fun other member => by
        rw [configured, Option.mem_some_iff] at member
        exact member.symm
    | none =>
      rw [configured, Option.bind_some, requested] at resolves
      cases resolves
      exact .host named fun other member => by
        rw [configured] at member
        cases member

theorem resolves_of_routed
    (requested : requestedTenant runtime world.db parsed = some owner)
    (routed : Routed runtime request world.db owner resolved) :
    resolveCallbackTenant runtime world.db request.body (some parsed) request.contextTenantId request.integrationId =
      .ok resolved := by
  cases routed with
  | integration named cast found active =>
    have credentials := Option.filter_eq_some_iff.mpr ⟨found, active⟩
    rw [named, resolveCallbackTenant, getCredentialsForCallback, cast]
    simp only [bind_ok, credentials]
    exact ⟨_, rfl, rfl⟩
  | host unnamed own =>
    rw [unnamed, resolveCallbackTenant, resolveTenantForMpesaCallback]
    cases configured : configuredTenant world.db request.body request.contextTenantId with
    | some tenantId =>
      rw [own tenantId configured]
      rfl
    | none =>
      rw [Option.bind_some, requested]
      rfl

theorem tenant_of_delivered {after : CallbackWorld} {deliveryId : String} {log : CallbackLogEntity}
    (delivered : Delivered request world after tenantId deliveryId parsed)
    (member : log ∈ after.db.callbackLogs.rows) (own : log.id = request.newLogId) : log.tenantId = tenantId := by
  obtain ⟨written, rows, writtenId, tenant, _⟩ := delivered.logged
  have last : written ∈ after.db.callbackLogs.rows := by
    rw [rows]
    exact List.mem_append_right _ (List.mem_singleton_self written)
  rw [KeyedTable.eq_of_key member last (own.trans writtenId.symm), tenant]

/-- A delivery for an intent is filed under the tenant of the intent exactly if no integration takes it elsewhere and
no replay of it has lost its job. -/
theorem filed_under_owner_iff (distinct : DistinctRequestIds world.db) (committed : row ∈ world.db.intents)
    (carried : Carries request.body row.intent) :
    FiledUnderOwner runtime request world row ↔ ReachesOwner runtime request world row.tenantId := by
  constructor
  · intro filed resolved inspection parsed routed admitted
    have requested := requestedTenant_of_carries runtime distinct committed carried admitted.parses
    obtain ⟨after, response, ran, delivered⟩ :=
      delivered_of_admitted (resolves_of_routed requested routed) admitted
    rw [FiledUnderOwner, deliver_of_ok ran] at filed
    obtain ⟨⟨log, member, own, tenant⟩, checkoutRequestId, checkoutOf, present⟩ := filed rfl
    have same : resolved.tenantId = row.tenantId := (tenant_of_delivered delivered member own).symm.trans tenant
    refine ⟨same, fun replays => ?_⟩
    obtain ⟨other, otherOf, _, _, checkout, _⟩ := checkout_of_carries carried admitted.parses
    cases otherOf.symm.trans checkoutOf
    rw [delivered.untouched (same ▸ replays)] at present
    rw [checkout]
    exact present
  · intro reaches accepted
    obtain ⟨after, response, ran⟩ := run_of_deliver_ok accepted
    obtain ⟨resolved, inspection, parsed, resolves, admitted, delivered⟩ := handleCallbackInternal_ok ran
    have requested := requestedTenant_of_carries runtime distinct committed carried admitted.parses
    obtain ⟨same, held⟩ :=
      reaches resolved inspection parsed (routed_of_resolves requested resolves admitted.owned) admitted
    obtain ⟨checkoutRequestId, checkoutOf, _, _, checkout, _⟩ := checkout_of_carries carried admitted.parses
    rw [deliver_of_ok ran]
    obtain ⟨log, rows, own, tenant, _⟩ := delivered.logged
    have member : log ∈ after.db.callbackLogs.rows := by
      rw [rows]
      exact List.mem_append_right _ (List.mem_singleton_self log)
    refine ⟨⟨log, member, own, tenant.trans same⟩, checkoutRequestId, checkoutOf, ?_⟩
    rw [← checkout]
    by_cases replays : Replays world resolved.tenantId inspection.deliveryId
    · rw [delivered.untouched replays]
      exact held (same ▸ replays)
    · rw [← same]
      exact delivered.queued replays

end Owner

def schoolCallback : Json :=
  .obj [("Body", .obj [("stkCallback", .obj [("MerchantRequestID", .str "29115-34620561-1"),
    ("CheckoutRequestID", .str "ws_CO_1007202409304512"), ("ResultCode", .num (JsNumber.ofNat 0)),
    ("ResultDesc", .str "Processed")])])]

/-- The hashes are those of the one body that is sent, with its timestamp and the secret. -/
def schoolRuntime : CallbackRuntime where
  sha256 := fun _ => "c5ff516eb828fcae90fb84f8c08d9c49f80337bc5626a5f7981a63172a63a2c4"
  hmacSha256 := fun _ _ =>
    [96, 30, 224, 206, 195, 143, 139, 87, 175, 1, 243, 2, 107, 151, 148, 110, 206, 62, 150, 219, 52, 168, 224, 201, 161,
      170, 100, 31, 85, 240, 171, 248]
  parseDate := fun _ => none
  callbackSecret := "callback-secret"
  callbackTimestampToleranceSeconds := 300
  parameterText := Json.toText
  parameterText_str := Json.toText_str
  uuid := some
  accepts := fun _ => true

def schoolIntent : TenantPaymentIntent where
  tenantId := "green-school"
  intent := {
    id := "5b0d4c1e-9f0a-4a53-8a53-0f6a5a7e1c11"
    idempotencyKeyId := "0c3b7f7e-52a5-4f6a-b0a9-2c8e2f0d9a42"
    userId := none
    studentId := none
    externalReference := none
    accountReference := "ADM-17"
    transactionDesc := "Fees"
    phoneNumber := "254712345678"
    amountMinor := 150000
    currencyCode := "KES"
    paymentOwner := .tenant
    mpesaShortCode := some "600100"
    paymentChannelType := some "mpesa_paybill"
    ledgerDebitAccountCode := some "1110-MPESA-CLEARING"
    ledgerCreditAccountCode := some "1100-AR-FEES"
    status := .stkRequested
    merchantRequestId := some "29115-34620561-1"
    checkoutRequestId := some "ws_CO_1007202409304512"
    responseCode := some "0"
    responseDescription := none
    customerMessage := none
    ledgerTransactionId := none
    failureReason := none
    stkRequestedAt := some 1759999990000
    expiresAt := some 1760001800000
    metadata := []
    createdAt := 1759999990000
    amountPositive := by decide }
  tenantPresent := by decide

def otherIntegration : DarajaIntegration where
  id := "7d4b1f64-3c7e-4b0e-9d55-61f0c1f0a901"
  tenantId := "blue-school"
  shortcode := some "600200"
  paybillNumber := none
  tillNumber := none
  isActive := true

def schoolWorld : CallbackWorld where
  db := {
    integrations := KeyedTable.empty.insert otherIntegration (by simp [KeyedTable.empty])
    finance := ⟨.empty, .empty, []⟩
    intents := [schoolIntent]
    callbackLogs := .empty }
  replayKeys := []
  jobs := .empty

def schoolDelivery (integrationId contextTenantId : Option String) : CallbackRequest where
  integrationId
  contextTenantId
  headers := [(mpesaCallbackTimestampHeader, .single "1760000000"),
    (mpesaCallbackSignatureHeader, .single "601ee0cec38f8b57af01f3026b97946ece3e96db34a8e0c9a1aa641f55f0abf8"),
    (mpesaCallbackDeliveryIdHeader, .single "delivery-1")]
  sentBody := some (String.ofList schoolCallback.render)
  body := schoolCallback
  ip := some "196.201.214.200"
  now := 1760000010000
  newLogId := "e1f1a1b0-4a53-4c63-a9a3-6a3f1c5e8b77"
  replayStoreFailure := none
  queueReply := .answers

theorem distinctRequestIds_schoolWorld : DistinctRequestIds schoolWorld.db := by
  intro first firstMember second secondMember _ _
  rw [List.mem_singleton.mp firstMember, List.mem_singleton.mp secondMember]

theorem carries_schoolCallback : Carries schoolCallback schoolIntent.intent :=
  ⟨"ws_CO_1007202409304512", rfl, "29115-34620561-1", rfl, by decide +kernel, by decide +kernel⟩

/-- On its own host the callback reaches the school whose intent it is for. -/
theorem own_host_reaches_owner :
    ReachesOwner schoolRuntime (schoolDelivery none (some "green-school")) schoolWorld "green-school" := by
  have filed : FiledUnderOwner schoolRuntime (schoolDelivery none (some "green-school")) schoolWorld schoolIntent := by
    decide +kernel
  exact (filed_under_owner_iff distinctRequestIds_schoolWorld (List.mem_singleton_self schoolIntent)
    carries_schoolCallback).mp filed

/-- On the route of another school's integration it is accepted all the same, and not filed under the school. -/
theorem filed_under_integration :
    DistinctRequestIds schoolWorld.db ∧ schoolIntent ∈ schoolWorld.db.intents ∧
      Carries schoolCallback schoolIntent.intent ∧
      ¬ FiledUnderOwner schoolRuntime (schoolDelivery (some otherIntegration.id) (some "green-school")) schoolWorld
        schoolIntent :=
  ⟨distinctRequestIds_schoolWorld, List.mem_singleton_self schoolIntent, carries_schoolCallback, by decide +kernel⟩

end ShuleHub.Payments

/-! What a delivery leaves in the log once its request has ended. -/

namespace ShuleHub.Payments

open Transaction TenantFinance

inductive DeliveryEnd where
  | malformed
  | unverified
  | foreign
  | replayed
  | enqueueFailed
  | accepted
deriving DecidableEq

def DeliveryEnd.statuses : DeliveryEnd → List CallbackLogStatus
  | .malformed => [.rejected]
  | .unverified => [.rejected]
  | .foreign => [.rejected]
  | .replayed => [.replayed]
  | .enqueueFailed => [.failed]
  | .accepted => [.queued, .processed]

instance (runtime : CallbackRuntime) (request : CallbackRequest) (db : CallbackDb) (tenantId : String)
    (parsed : ParsedCallbackPayload) : Decidable (Owned runtime request db tenantId parsed) :=
  inferInstanceAs (Decidable (_ → _))

/-- The checks of the handler in their order. A timestamp that is no date is met before the payload is. -/
def deliveryEnd (runtime : CallbackRuntime) (request : CallbackRequest) (world : CallbackWorld) (tenantId : String) :
    DeliveryEnd :=
  match inspectCallback runtime.toSignatureRuntime (getRawBody request) request.headers,
    parseCallbackPayload request.body with
  | .error _, _ => .unverified
  | .ok _, .error _ => .malformed
  | .ok inspection, .ok parsed =>
    if (verifyCallback runtime.toSignatureRuntime request.now (getRawBody request) request.headers inspection).isOk =
        false then .unverified
    else if ¬ Owned runtime request world.db tenantId parsed then .foreign
    else if Replays world tenantId inspection.deliveryId then .replayed
    else if QueueTakes request.queueReply world.jobs (buildJobId tenantId parsed.checkoutRequestId) then .accepted
    else .enqueueFailed

/-- The request has added one row to the log, under the tenant and in a status of how the delivery has ended. -/
def LeavesEvidence (runtime : CallbackRuntime) (request : CallbackRequest) (world : CallbackWorld) (tenantId : String) :
    Prop :=
  ∃ log, (deliver runtime request world).1.db.callbackLogs.rows = world.db.callbackLogs.rows ++ [log] ∧
    log.id = request.newLogId ∧ log.tenantId = tenantId ∧
    log.processingStatus ∈ (deliveryEnd runtime request world tenantId).statuses

section Evidence

variable {runtime : CallbackRuntime} {request : CallbackRequest} {world : CallbackWorld}
  {resolved : ResolvedCallbackTenant}

theorem statuses_of_admitted {inspection : CallbackVerificationResult} {parsed : ParsedCallbackPayload}
    (admitted : Admitted runtime request world resolved inspection parsed) :
    (deliveryEnd runtime request world resolved.tenantId).statuses =
      acceptedStatuses world resolved.tenantId inspection.deliveryId := by
  rw [deliveryEnd, admitted.inspected, admitted.parses]
  simp only [admitted.verified, admitted.owned, Except.isOk, Except.toBool, not_true_eq_false, if_false,
    Bool.true_eq_false, acceptedStatuses]
  by_cases replays : Replays world resolved.tenantId inspection.deliveryId
  · rw [if_pos replays, if_pos replays]
    rfl
  · rw [if_neg replays, if_neg replays, if_pos (admitted.answered.2 replays)]
    rfl

theorem rows_of_refused (refused : (deliver runtime request world).2.isOk = false) :
    (deliver runtime request world).1.db.callbackLogs.rows = world.db.callbackLogs.rows := by
  cases ran : (handleCallbackInternal runtime request).run world with
  | mk after outcome =>
    cases outcome with
    | ok response =>
      rw [deliver_of_ok ran] at refused
      cases refused
    | error error => rw [deliver_of_error ran]

/-- A delivery whose tenant is known leaves its row exactly if nothing turns it away. -/
theorem leaves_evidence_iff (resolves : resolveCallbackTenant runtime world.db request.body
      (parseCallbackPayload request.body).toOption request.contextTenantId request.integrationId = .ok resolved) :
    LeavesEvidence runtime request world resolved.tenantId ↔
      ∃ inspection parsed, Admitted runtime request world resolved inspection parsed := by
  constructor
  · rintro ⟨log, rows, _⟩
    cases accepted : (deliver runtime request world).2.isOk with
    | false =>
      rw [rows_of_refused accepted] at rows
      have lengths := congrArg List.length rows
      rw [List.length_append, List.length_singleton] at lengths
      omega
    | true =>
      obtain ⟨after, response, ran⟩ := run_of_deliver_ok accepted
      obtain ⟨other, inspection, parsed, resolves', admitted, _⟩ := handleCallbackInternal_ok ran
      rw [Outcome.toOption_eq_some.mpr admitted.parses] at resolves
      cases resolves'.symm.trans resolves
      exact ⟨inspection, parsed, admitted⟩
  · rintro ⟨inspection, parsed, admitted⟩
    rw [Outcome.toOption_eq_some.mpr admitted.parses] at resolves
    obtain ⟨after, response, ran, delivered⟩ := delivered_of_admitted resolves admitted
    obtain ⟨log, rows, own, tenant, status⟩ := delivered.logged
    rw [LeavesEvidence, deliver_of_ok ran, statuses_of_admitted admitted]
    exact ⟨log, rows, own, tenant, status⟩

end Evidence

/-- The delivery on the school's own host leaves its row. -/
theorem own_host_leaves_evidence :
    LeavesEvidence schoolRuntime (schoolDelivery none (some "green-school")) schoolWorld "green-school" := by
  have resolves : resolveCallbackTenant schoolRuntime schoolWorld.db schoolCallback
      (parseCallbackPayload schoolCallback).toOption (some "green-school") none = .ok ⟨"green-school", none⟩ := by
    decide +kernel
  have accepted : (deliver schoolRuntime (schoolDelivery none (some "green-school")) schoolWorld).2.isOk = true := by
    decide +kernel
  obtain ⟨after, response, ran⟩ := run_of_deliver_ok accepted
  obtain ⟨resolved, inspection, parsed, found, admitted, _⟩ := handleCallbackInternal_ok ran
  have same : (parseCallbackPayload schoolCallback).toOption = some parsed :=
    Outcome.toOption_eq_some.mpr admitted.parses
  rw [same] at resolves
  cases found.symm.trans resolves
  exact (leaves_evidence_iff (same ▸ resolves)).mpr ⟨inspection, parsed, admitted⟩

def forgedDelivery : CallbackRequest :=
  { schoolDelivery none (some "green-school") with
    headers := [(mpesaCallbackTimestampHeader, .single "1760000000"), (mpesaCallbackSignatureHeader, .single "forged"),
      (mpesaCallbackDeliveryIdHeader, .single "delivery-1")] }

/-- Its tenant is known, it should be in the log as rejected, and there is no row of it. -/
theorem forged_leaves_no_row :
    resolveCallbackTenant schoolRuntime schoolWorld.db forgedDelivery.body
        (parseCallbackPayload forgedDelivery.body).toOption forgedDelivery.contextTenantId
        forgedDelivery.integrationId = .ok ⟨"green-school", none⟩ ∧
      deliveryEnd schoolRuntime forgedDelivery schoolWorld "green-school" = .unverified ∧
      ¬ LeavesEvidence schoolRuntime forgedDelivery schoolWorld "green-school" := by
  refine ⟨by decide +kernel, by decide +kernel, ?_⟩
  rintro ⟨log, rows, _⟩
  have unchanged : (deliver schoolRuntime forgedDelivery schoolWorld).1.db.callbackLogs.rows = [] := by decide +kernel
  rw [unchanged] at rows
  cases rows

end ShuleHub.Payments
