import ShuleHub.Inventory.RequestAccounts
import ShuleHub.Inventory.TransferRuns

/-! Runs of status requests and receipts, seen from one request: what they issue for it and what they keep covered. -/

namespace ShuleHub.Inventory

open Runs Transaction Snapshots KeyedTable

variable (requestId : String)

inductive RequestOperation where
  | updateRequestStatus (requestId : String) (dto : UpdateWorkflowStatus)
  | receiveSupplierStock (dto : CreateStockReceipt)
  | updatePurchaseOrderStatus (purchaseOrderId : String) (dto : UpdateWorkflowStatus)

structure RequestCall where
  context : CallContext
  operation : RequestOperation

variable (call : RequestCall) (db : InventoryDb)

def requestProgram : InventorySession Unit :=
  match call.operation with
  | .updateRequestStatus requestId dto => discard (updateRequestStatus call.context requestId dto)
  | .receiveSupplierStock dto => discard (receiveSupplierStock call.context dto)
  | .updatePurchaseOrderStatus purchaseOrderId dto =>
    discard (updatePurchaseOrderStatus call.context purchaseOrderId dto)

abbrev FinishedCall := Snapshots.Finished InventoryDb RequestCall Exception Unit

def statusWrite : Option String :=
  match call.operation with
  | .updateRequestStatus wanted dto => if wanted = requestId then some dto.status else none
  | _ => none

def Approves (done : FinishedCall) : Prop :=
  statusWrite requestId done.request = some "approved" ∧ done.outcome = .ok ()

def isCancelled : Prop :=
  (db.requests.find requestId).map (·.status) = some "cancelled"

/-- What the calls since `start` have issued for the request and what is still covered, item by item. -/
structure RequestLaw (start db : InventoryDb) (finished : List FinishedCall) : Prop where
  issued : ∀ request, db.requests.find requestId = some request → ∀ item, ∃ issued ≤ lineTotal request.lines item,
    issuedFor db request.requestNumber item = issuedFor start request.requestNumber item + issued ∧
      (request.status = "fulfilled" → issued = lineTotal request.lines item)
  covered : (∃ done ∈ finished, Approves requestId done) →
    ∀ request, db.requests.find requestId = some request → ∀ item, lineTotal request.lines item ≤
      reservationTotal db requestId item .reserved + reservationTotal db requestId item .fulfilled +
        backorderTotal db requestId item
  released : isCancelled requestId db → reservedRows requestId db = []
  final : (∃ done ∈ finished, isCancelled requestId done.after) →
    (db.requests.find requestId).map (·.status) ≠ some "approved"

def KeepsAccounts : Prop :=
  ∀ status ∈ statusWrite requestId call, ∀ request ∈ db.requests.find requestId, AdmitsStatus db request status

instance (db : InventoryDb) (request : InventoryRequest) (status : String) :
    Decidable (AdmitsStatus db request status) :=
  inferInstanceAs (Decidable (if status = "approved" then _ → ∀ item ∈ db.items.rows, _ ≤ 1
    else if status = "fulfilled" ∨ status = "partially_fulfilled" then True else _ ∧ (_ → _ ∧ _) ∧ (_ → _ ∧ _)))

instance (requestId : String) (call : RequestCall) (db : InventoryDb) :
    Decidable (KeepsAccounts requestId call db) :=
  inferInstanceAs (Decidable (∀ status ∈ statusWrite requestId call, ∀ request ∈ db.requests.find requestId, _))

structure RefersToRequests : Prop where
  reservations : ∀ reservation ∈ db.reservations.rows, db.requests.find reservation.requestId ≠ none
  backorders : ∀ backorder ∈ db.backorders.rows, db.requests.find backorder.requestId ≠ none

section Runs

variable {original : InventoryRequest} {start db : InventoryDb}

theorem isCancelled_iff {requestId : String} : isCancelled requestId db ↔ (accountOf db requestId).status = "cancelled" := by
  unfold isCancelled accountOf
  cases db.requests.find requestId with
  | none => simp
  | some request => simp

theorem requestProgram_keeps (call : RequestCall) (accounted : Accounted original start db)
    (admits : KeepsAccounts original.id call db) :
    Keeps original start db (settle requestProgram ⟨call, []⟩ db).1 ∧
      (statusWrite original.id call = some "approved" → (settle requestProgram ⟨call, []⟩ db).2 = .ok () →
        (accountOf (settle requestProgram ⟨call, []⟩ db).1 original.id).Covers (lineTotal original.lines)) := by
  have alone : Alone (.begun db []) := ⟨rfl, rfl⟩
  unfold settle
  split
  · next result session ran =>
    obtain ⟨context, operation⟩ := call
    cases operation with
    | updateRequestStatus requestId dto =>
      obtain ⟨_, ran⟩ := discard_ok.mp ran
      have kept := updateRequestStatus_keeps accounted alone
        (fun own request found => admits dto.status (by simp [statusWrite, own]) request found) ran
      refine ⟨kept.1, fun write _ => ?_⟩
      by_cases own : requestId = original.id
      · simp only [statusWrite, own, if_true, Option.some.injEq] at write
        exact kept.2 own write
      · simp [statusWrite, own] at write
    | receiveSupplierStock dto =>
      obtain ⟨_, ran⟩ := discard_ok.mp ran
      exact ⟨receiveSupplierStock_keeps accounted rfl ran, fun write => by simp [statusWrite] at write⟩
    | updatePurchaseOrderStatus purchaseOrderId dto =>
      obtain ⟨_, ran⟩ := discard_ok.mp ran
      exact ⟨updatePurchaseOrderStatus_keeps accounted rfl ran, fun write => by simp [statusWrite] at write⟩
  · exact ⟨accounted.keeps_of_same accounted.asks rfl fun _ => rfl, fun _ failed => by cases failed⟩

structure RequestInv (original : InventoryRequest) (start db : InventoryDb) (finished : List FinishedCall) : Prop where
  accounted : Accounted original start db
  approvals : (∃ done ∈ finished, Approves original.id done) →
    (accountOf db original.id).Covers (lineTotal original.lines)
  cancels : (∃ done ∈ finished, isCancelled original.id done.after) → (accountOf db original.id).status = "cancelled"

theorem RequestInv.law {finished : List FinishedCall} (inv : RequestInv original start db finished) :
    RequestLaw original.id start db finished := by
  obtain ⟨row, found, lines, number⟩ := inv.accounted.asks.row
  have valid := inv.accounted.valid
  refine ⟨fun request same item => ?_, fun approved request same item => ?_, fun cancelled => ?_, fun cancelled => ?_⟩
  · obtain rfl : row = request := Option.some.inj (found.symm.trans same)
    rw [lines, number]
    refine ⟨_, valid.fulfilled_le item, inv.accounted.issued item, fun fulfilled => ?_⟩
    exact valid.fulfilled ((accountOf_status found).trans fulfilled) item
  · obtain rfl : row = request := Option.some.inj (found.symm.trans same)
    rw [lines]
    exact (inv.approvals approved item).ge
  · exact reservedTotal_eq_zero_iff.mp fun item => (valid.cancelled (isCancelled_iff.mp cancelled) item).1
  · intro approved
    have status := isCancelled_iff.mpr (inv.cancels cancelled)
    rw [isCancelled, approved] at status
    exact absurd status (by decide)

theorem requestInv_kept (call : RequestCall) (db : InventoryDb) (finished : List FinishedCall)
    (inv : RequestInv original start db finished) (admits : KeepsAccounts original.id call db) :
    RequestInv original start (settle requestProgram ⟨call, []⟩ db).1 (finished ++
      [⟨call, db, (settle requestProgram ⟨call, []⟩ db).1, (settle requestProgram ⟨call, []⟩ db).2⟩]) := by
  obtain ⟨keeps, approves⟩ := requestProgram_keeps call inv.accounted admits
  refine ⟨keeps.accounted, ?_, ?_⟩
  · rintro ⟨done, member, approved⟩
    rcases List.mem_append.mp member with old | new
    · exact keeps.lasts.covers (inv.approvals ⟨done, old, approved⟩)
    · rw [List.mem_singleton.mp new] at approved
      exact approves approved.1 approved.2
  · rintro ⟨done, member, cancelled⟩
    rcases List.mem_append.mp member with old | new
    · exact keeps.lasts.cancelled (inv.cancels ⟨done, old, cancelled⟩)
    · rw [List.mem_singleton.mp new] at cancelled
      exact isCancelled_iff.mp cancelled

theorem createRequest_accounted {context : CallContext} {dto : CreateInventoryRequest} {before : InventoryDb}
    {request : InventoryRequest} (refers : RefersToRequests before)
    (created : (createRequest context dto).run before = .ok (request, start)) :
    Accounted request start start := by
  simp only [createRequest, run_bind_ok, run_current_ok, run_failIf_ok] at created
  obtain ⟨_, _, ⟨rfl, rfl⟩, _, _, ⟨numbers, rfl⟩, ran⟩ := created
  split at ran
  · next requests inserted =>
    simp only [run_bind_ok, run_write_ok, run_pure_ok] at ran
    obtain ⟨_, _, rfl, rfl, rfl⟩ := ran
    obtain ⟨fresh, rfl⟩ := (tryInsert_eq_some _).mp inserted
    have absent : before.requests.find (newRequest context dto).id = none := (find_eq_none _).mpr fresh
    have found := @find_insert _ _ _ _ before.requests _ fresh
    let start : InventoryDb := { before with requests := before.requests.insert (newRequest context dto) fresh }
    have untouched : (accountOf start (newRequest context dto).id).Untouched := by
      intro item
      have unreserved (status : ReservationStatus) : reservationTotal before (newRequest context dto).id item status = 0 :=
        Table.total_eq_zero fun row member same => by
          have own : row.requestId = (newRequest context dto).id := congrArg Prod.fst same
          exact refers.reservations row member (own ▸ absent)
      have closed : backorderTotal before (newRequest context dto).id item = 0 :=
        Table.total_eq_zero fun row member same => by
          have own : row.requestId = (newRequest context dto).id := congrArg Prod.fst same
          exact refers.backorders row member (own ▸ absent)
      exact ⟨unreserved .reserved, unreserved .fulfilled, closed⟩
    refine ⟨⟨⟨_, found, rfl, rfl⟩, fun id request held number => ?_⟩, ?_, fun item => ?_⟩
    · by_contra differs
      rw [find_insert_other _ differs] at held
      exact numbers ⟨request, (find_eq_some _ |>.mp held).1, number⟩
    · have pending : (accountOf start (newRequest context dto).id).status = (newRequest context dto).status :=
        accountOf_status found
      refine ⟨.inl untouched, fun _ => untouched, fun status => ?_, fun status => ?_, fun status => ?_⟩
      all_goals
        rw [pending] at status
        exact absurd status (by simp [newRequest])
    · rw [(untouched item).2.1]
      rfl
  · exact absurd ran run_fail_ok

/-- Every run from the creation of a request whose status writes it admits. -/
theorem request_accounts_kept (before : InventoryDb) (context : CallContext) (dto : CreateInventoryRequest)
    (request : InventoryRequest) (calls : List RequestCall) (refers : RefersToRequests before)
    (created : (createRequest context dto).run before = .ok (request, start))
    (admitted : Meets (alone requestProgram) (fun world call => KeepsAccounts request.id call world.db)
      (World.idle start) calls) :
    Along (alone requestProgram) (fun world => RequestLaw request.id start world.db world.finished)
      (World.idle start) calls :=
  along_of_alone (RequestInv request start) (RequestLaw request.id start)
    (fun call db finished inv admits => requestInv_kept call db finished inv admits) (fun _ _ inv => inv.law)
    ⟨createRequest_accounted refers created, by simp, by simp⟩ admitted

end Runs

def chalkWanted (quantities : List Nat) : CreateInventoryRequest where
  department := "Science"
  requestedBy := "Achieng"
  neededBy := none
  priority := none
  lines := quantities.map fun quantity => { itemId := "item-1", itemName := "Chalk", quantity, unitPrice := 25000 }
  notes := none

def requestTo (status : String) : RequestCall := ⟨clerk, .updateRequestStatus "new-id" { status, notes := none }⟩

def requested (quantities : List Nat) : InventoryDb :=
  { twoRooms with requests := twoRooms.requests.put (newRequest clerk (chalkWanted quantities)) }

theorem twoRooms_refers : RefersToRequests twoRooms := by
  constructor <;> simp [twoRooms, InventoryDb.empty, empty]

theorem request_accounts_kept_fulfilled :
    Along (alone requestProgram) (fun world => RequestLaw "new-id" (requested [4, 3]) world.db world.finished)
      (World.idle (requested [4, 3])) [requestTo "approved", requestTo "fulfilled"] :=
  request_accounts_kept twoRooms clerk (chalkWanted [4, 3]) (newRequest clerk (chalkWanted [4, 3])) _ twoRooms_refers
    (by rfl) (by decide +kernel)

/-- Of two lines that both exceed the stock, the second one takes the place of the first among the backorders. -/
theorem second_backorder_replaces_first :
    ¬ ∀ (before start : InventoryDb) (context : CallContext) (dto : CreateInventoryRequest)
        (request : InventoryRequest) (calls : List RequestCall),
      RefersToRequests before → (createRequest context dto).run before = .ok (request, start) →
        Along (alone requestProgram) (fun world => RequestLaw request.id start world.db world.finished)
          (World.idle start) calls := by
  intro always
  let last := run (alone requestProgram) (World.idle (requested [20, 15])) [requestTo "approved"]
  have law : RequestLaw "new-id" (requested [20, 15]) last.db last.finished :=
    run_of_along (always twoRooms (requested [20, 15]) clerk (chalkWanted [20, 15])
      (newRequest clerk (chalkWanted [20, 15])) [requestTo "approved"] twoRooms_refers (by rfl))
  have covered := law.covered ⟨_, List.mem_singleton.mpr rfl, rfl, by rfl⟩
  have held : reservationTotal last.db "new-id" "item-1" .reserved +
      reservationTotal last.db "new-id" "item-1" .fulfilled + backorderTotal last.db "new-id" "item-1" = 15 := by
    decide +kernel
  have asked : (last.db.requests.find "new-id").map (fun request => lineTotal request.lines "item-1") = some 35 := by
    decide +kernel
  obtain ⟨request, found, total⟩ := Option.map_eq_some_iff.mp asked
  have covers := covered request found "item-1"
  rw [held, total] at covers
  omega

end ShuleHub.Inventory
