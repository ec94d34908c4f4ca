import ShuleHub.Inventory.RequestAccounts

/-! Whether the stock on hand covers what is reserved, in any interleaving of the calls. -/

namespace ShuleHub.Inventory

open Runs Transaction Snapshots KeyedTable Table

variable (db : InventoryDb)

def Covered : Prop := ∀ itemId, reservedQuantity itemId db ≤ onHand db itemId

def SeesReservations (snapshots : List InventoryDb) (db : InventoryDb) : Prop :=
  ∀ seen ∈ snapshots, ∀ item ∈ db.items.rows, reservedQuantity item.id db ≤ reservedQuantity item.id seen

def LeavesReserved (withdrawn : String → Nat) : Prop :=
  (∀ item ∈ db.items.rows, withdrawn item.id ≤ item.quantityOnHand) →
    ∀ item ∈ db.items.rows, reservedQuantity item.id db + withdrawn item.id ≤ item.quantityOnHand

def issueTotal (dto : CreateStockIssue) (itemId : String) : Nat :=
  Table.total (fun line : StockIssueLine => line.itemId = itemId) (·.quantity) dto.lines

def incidentTotal (dto : CreateIncident) (itemId : String) : Nat := if dto.itemId = itemId then dto.quantity else 0

def CountsReserved (locationCode : Option String) (line : StockCountLine) : Prop :=
  match locationCode with
  | none => reservedQuantity line.itemId db ≤ line.countedQuantity
  | some code =>
    reservedQuantity line.itemId db + balanceQuantity db line.itemId code ≤
      onHand db line.itemId + line.countedQuantity

def lockedRows (requestId : String) (seen db : InventoryDb) : List InventoryReservation :=
  (reservedRows requestId db).filter fun reservation =>
    ∃ other ∈ reservedRows requestId seen, other.itemId = reservation.itemId

/-- The changes of status that reserve by what they see, and the fulfilment of a request without reservations. -/
def StatusKeepsCover (requestId status : String) (snapshots : List InventoryDb) (db : InventoryDb) : Prop :=
  (status = "approved" → SeesReservations snapshots db) ∧
    (status = "fulfilled" → ∀ request ∈ db.requests.find requestId, request.status = "approved" →
      lockedRows requestId (snapshots.headD db) db = [] → LeavesReserved db (lineTotal request.lines))

/-- The calls that leave what is reserved on hand: they see it, or withdraw no more than the rest. -/
def KeepsCover (transaction : InFlight InventoryDb InventoryCall) (db : InventoryDb) : Prop :=
  match transaction.request.operation with
  | .adjustItemStock itemId dto =>
    ∀ item ∈ (transaction.snapshots.headD db).items.find itemId,
      ∀ next ∈ (calculateNextQuantity item.quantityOnHand dto).toOption, reservedQuantity itemId db ≤ next
  | .issueDepartmentStock dto => LeavesReserved db (issueTotal dto)
  | .createIncident dto => LeavesReserved db (incidentTotal dto)
  | .postStockCount dto => ∀ line ∈ dto.lines, CountsReserved db (nullableText dto.locationCode) line
  | .updateRequestStatus requestId dto => StatusKeepsCover requestId dto.status transaction.snapshots db
  | .receiveSupplierStock _ => SeesReservations transaction.snapshots db
  | .updatePurchaseOrderStatus _ dto => dto.status = "received" → SeesReservations transaction.snapshots db
  | _ => True

section Cover

variable {db after : InventoryDb}

theorem reservedQuantity_congr (same : after.reservations = db.reservations) (itemId : String) :
    reservedQuantity itemId after = reservedQuantity itemId db := by
  rw [reservedQuantity, reservedQuantity, same]

theorem Covered.congr (covered : Covered db) (items : after.items = db.items)
    (reservations : after.reservations = db.reservations) : Covered after := by
  intro itemId
  rw [reservedQuantity_congr reservations, onHand_congr items]
  exact covered itemId

theorem Covered.grow (covered : Covered db) (more : ∀ itemId, onHand db itemId ≤ onHand after itemId)
    (fewer : ∀ itemId, reservedQuantity itemId after ≤ reservedQuantity itemId db) : Covered after := fun itemId =>
  ((fewer itemId).trans (covered itemId)).trans (more itemId)

theorem Covered.withdraw {withdrawn : String → Nat} (covered : Covered db) (leaves : LeavesReserved db withdrawn)
    (taken : ∀ itemId, onHand after itemId + withdrawn itemId = onHand db itemId)
    (fewer : ∀ itemId, reservedQuantity itemId after ≤ reservedQuantity itemId db) : Covered after := by
  have quantity {item : InventoryItem} (member : item ∈ db.items.rows) : onHand db item.id = item.quantityOnHand :=
    onHand_of_find (db.items.find_self member)
  have left := leaves fun item member => by
    have took := taken item.id
    rw [quantity member] at took
    omega
  intro itemId
  have took := taken itemId
  have reserved := covered itemId
  have less := fewer itemId
  cases found : db.items.find itemId with
  | none =>
    have absent : onHand db itemId = 0 := by simp [onHand, found]
    omega
  | some item =>
    obtain ⟨member, rfl⟩ := find_eq_some _ |>.mp found
    have rest := left item member
    rw [quantity member] at took
    omega

theorem SeesReservations.all {snapshots : List InventoryDb} (sees : SeesReservations snapshots db)
    (covered : Covered db) {seen : InventoryDb} (member : seen ∈ snapshots) (itemId : String) :
    reservedQuantity itemId db ≤ reservedQuantity itemId seen := by
  cases found : db.items.find itemId with
  | none =>
    have absent : onHand db itemId = 0 := by simp [onHand, found]
    have reserved := covered itemId
    omega
  | some item =>
    obtain ⟨present, rfl⟩ := find_eq_some _ |>.mp found
    exact sees seen member item present

end Cover

section Sessions

variable {db : InventoryDb} {session later : Session InventoryDb} {context : CallContext}
  {requestId itemId : String} {quantity : Nat} {dto : UpdateWorkflowStatus}

structure Covering (db : InventoryDb) (session : Session InventoryDb) : Prop where
  committed : session.committed = db
  sees : ∀ seen ∈ session.snapshots, ∀ itemId, reservedQuantity itemId db ≤ reservedQuantity itemId seen
  covered : Covered session.tables

theorem Covering.next (covering : Covering db session) (continues : session.Continues later)
    (covered : Covered later.tables) : Covering db later :=
  ⟨continues.committed.trans covering.committed, fun seen member => covering.sees seen (continues.snapshots seen member),
    covered⟩

theorem Covering.tables (covering : Covering db session) {tables : InventoryDb}
    (items : tables.items = session.tables.items) (reservations : tables.reservations = session.tables.reservations) :
    Covering db { session with tables } :=
  ⟨covering.committed, covering.sees, covering.covered.congr items reservations⟩

theorem reserveRequestLine_covering {positive : 0 < quantity} {actorUserId : Option String}
    {reservation : Option InventoryReservation} (covering : Covering db session)
    (ran : (reserveRequestLine requestId itemId quantity positive actorUserId).run session =
      .ok (reservation, later)) : Covering db later := by
  obtain ⟨reserved, middle, read, same, outcome⟩ := reserveRequestLine_ok ran
  have continues := visibleTotal_continues read
  have seen := visibleTotal_ge read (covering.committed ▸ fun seen member => covering.sees seen member itemId)
  have covered : Covered later.tables := by
    cases reservation with
    | none =>
      rw [outcome.1]
      exact covering.covered
    | some _ =>
      obtain ⟨fits, reserved⟩ := outcome
      intro wanted
      have items : later.tables.items = session.tables.items := by rw [reserved.only]
      rw [reserved.reservedQuantity, onHand_congr items]
      have before := covering.covered wanted
      split
      · next own =>
        subst own
        omega
      · exact before
  refine covering.next ⟨?_, ?_⟩ covered
  · rw [same]
    exact continues.committed
  · rw [same]
    exact continues.snapshots

theorem approveRequest_covering {result : InventoryRequest}
    (covering : Covering db session)
    (ran : (approveRequest context requestId dto).run session = .ok (result, later)) : Covering db later := by
  simp only [approveRequest, run_bind_ok, run_onTables_ok, required_ok] at ran
  obtain ⟨request, _, ⟨_, checked, rfl⟩, results, middle, approved, _, ⟨_, last, set, -, rfl⟩, rfl⟩ := ran
  obtain ⟨-, -, rfl⟩ := requestInStatus_ok checked
  have kept := mapM_induction (motive := fun _ other => Covering db other) approved covering
    fun line rest first _ last before step => by
      unfold approveLine at step
      split at step
      · obtain ⟨-, rfl⟩ := run_pure_ok.mp step
        exact before
      · obtain ⟨reservation, second, reserved, step⟩ := run_bind_ok.mp step
        have next := reserveRequestLine_covering before reserved
        split at step
        · obtain ⟨-, rfl⟩ := run_pure_ok.mp step
          exact next
        · simp only [run_bind_ok, run_onTables_ok, run_pure_ok] at step
          obtain ⟨_, _, ⟨tables, recorded, rfl⟩, -, rfl⟩ := step
          have only := (recordRequestBackorder_ok recorded).only
          exact next.tables (by rw [only]) (by rw [only])
  have only := setRequestStatus_only set
  exact kept.tables (by rw [only]) (by rw [only])

theorem resolveBackordersForReceivedItem_covering {done : Unit}
    (ran : (resolveBackordersForReceivedItem context itemId).run session = .ok (done, later))
    (covering : Covering db session) : Covering db later := by
  simp only [resolveBackordersForReceivedItem, listOpenRequestBackordersForItem, run_bind_ok, run_onTables_ok,
    run_current_ok, run_pure_ok] at ran
  obtain ⟨_, _, ⟨_, ⟨_, _, ⟨rfl, rfl⟩, rfl, rfl⟩, rfl⟩, _, last, resolved, -, rfl⟩ := ran
  have kept := mapM_induction (motive := fun _ other => Covering db other) resolved covering
    fun backorder rest first _ last before step => by
      simp only [resolveBackorder, run_bind_ok] at step
      obtain ⟨reservation, second, reserved, step⟩ := step
      have next := reserveRequestLine_covering before reserved
      split at step
      · obtain ⟨-, rfl⟩ := run_pure_ok.mp step
        exact next
      · simp only [run_bind_ok, run_onTables_ok] at step
        obtain ⟨_, _, ⟨tables, marked, rfl⟩, _, third, read, step⟩ := step
        have only := (markRequestBackorderResolved_totals marked).1
        have resolved : Covering db { second with tables } := next.tables (by rw [only]) (by rw [only])
        have counted : Covering db third := by
          refine resolved.next (visibleTotal_continues read) ?_
          rw [(run_visibleTotal_ok read).1]
          exact resolved.covered
        split at step
        · simp only [run_bind_ok, run_onTables_ok, run_pure_ok] at step
          obtain ⟨_, _, ⟨tables, set, rfl⟩, -, rfl⟩ := step
          have only := setRequestStatus_only set
          exact counted.tables (by rw [only]) (by rw [only])
        · obtain ⟨-, rfl⟩ := run_pure_ok.mp step
          exact counted
  exact kept

theorem Covering.received {tables : InventoryDb} (covering : Covering db session)
    (received : Received session.tables tables itemId quantity)
    (reservations : tables.reservations = session.tables.reservations) : Covering db { session with tables } := by
  refine ⟨covering.committed, covering.sees, covering.covered.grow (fun wanted => ?_) fun wanted => ?_⟩
  · rw [received.onHand]
    exact Nat.le_add_right _ _
  · exact (reservedQuantity_congr reservations wanted).le

theorem receiveSupplierStock_covering {dto : CreateStockReceipt} {result : StockTransactionResponse}
    (covering : Covering db session)
    (ran : (receiveSupplierStock context dto).run session = .ok (result, later)) : Covering db later := by
  rw [receiveSupplierStock, run_bind_ok] at ran
  obtain ⟨seen, middle, read, ran⟩ := ran
  have begun : Covering db middle := by
    refine covering.next (snapshot_continues read).2 ?_
    rw [(run_snapshot_ok read).1]
    exact covering.covered
  split at ran
  · obtain ⟨-, rfl⟩ := run_pure_ok.mp ran
    exact begun
  · simp only [receiveStock, run_bind_ok, run_onTables_ok, run_failIf_ok, run_pure_ok] at ran
    obtain ⟨_, _, ⟨_, ⟨-, rfl⟩, rfl⟩, _, _, ⟨_, ⟨-, rfl⟩, rfl⟩, _, _, lines, -, rfl⟩ := ran
    have kept := mapM_induction (motive := fun _ other => Covering db other) lines begun
      fun line rest first _ last before step => by
        simp only [receiveLine, run_bind_ok, run_onTables_ok, run_failIf_ok, run_lift_ok, run_pure_ok] at step
        obtain ⟨_, _, ⟨_, ⟨_, _, ⟨-, rfl⟩, _, _, ⟨-, rfl⟩, stored⟩, rfl⟩, _, _, resolved, -, rfl⟩ := step
        have restocked : Restocked first.tables _ :=
          storeReceived_restocked (fun _ => by simp [receiptMovement]) (run_bind_ok.mpr stored)
        have received := storeReceived_received (run_bind_ok.mpr stored)
        exact resolveBackordersForReceivedItem_covering resolved
          (before.received received (by rw [restocked.only]))
    exact kept

theorem updatePurchaseOrderStatus_covering {purchaseOrderId : String}
    {result : PurchaseOrder} (covering : Covering db session)
    (ran : (updatePurchaseOrderStatus context purchaseOrderId dto).run session = .ok (result, later)) :
    Covering db later := by
  unfold updatePurchaseOrderStatus at ran
  split at ran
  · simp only [receivePurchaseOrder, approvedPurchaseOrder, findPurchaseOrderByIdForUpdate, run_bind_ok,
      run_onTables_ok, run_current_ok, run_pure_ok, required_ok, run_failIf_ok] at ran
    obtain ⟨_, _, ⟨_, ⟨_, _, ⟨_, _, ⟨rfl, rfl⟩, rfl, rfl⟩, _, _, ⟨-, rfl⟩, _, _, ⟨-, rfl⟩, rfl, rfl⟩, rfl⟩, _, middle,
      lines, _, set, rfl⟩ := ran
    have kept := mapM_induction (motive := fun _ other => Covering db other) lines covering
      fun line rest first _ last before step => by
        by_cases empty : line.isEmpty
        · rw [receiveOrderLine, if_pos empty] at step
          obtain ⟨-, rfl⟩ := run_pure_ok.mp step
          exact before
        · simp only [receiveOrderLine, if_neg empty, run_bind_ok, run_onTables_ok] at step
          obtain ⟨_, _, ⟨_, stored, rfl⟩, resolved⟩ := step
          have restocked : Restocked first.tables _ :=
            storeReceived_restocked (fun _ => by simp [orderMovement]) (run_bind_ok.mpr stored)
          have received := storeReceived_received (run_bind_ok.mpr stored)
          exact resolveBackordersForReceivedItem_covering resolved
            (before.received received (by rw [restocked.only]))
    have only := setPurchaseOrderStatus_only set
    exact kept.tables (by rw [only]) (by rw [only])
  · obtain ⟨_, set, rfl⟩ := run_onTables_ok.mp ran
    have only := setPurchaseOrderStatus_only set
    exact covering.tables (by rw [only]) (by rw [only])

end Sessions

section Withdrawals

variable {db after : InventoryDb} {context : CallContext} {session later : Session InventoryDb}
  {requestId : String} {lines : List RequestFulfillmentLine} {result : InventoryRequest}
  {dto : UpdateWorkflowStatus}

theorem listReserved_locked
    (ran : (listReservedRequestLinesForUpdate requestId).run session = .ok (lines, later)) :
    later.tables = session.tables ∧ ∃ seen, (seen = session.snapshots.headD session.committed) ∧
      lines = (lockedRows requestId seen session.tables).map fun reservation =>
        { itemId := reservation.itemId, quantity := reservation.quantity } := by
  simp only [listReservedRequestLinesForUpdate, run_bind_ok, run_current_ok, run_pure_ok] at ran
  obtain ⟨_, _, ⟨rfl, rfl⟩, seen, _, read, rfl, rfl⟩ := ran
  exact ⟨(run_snapshot_ok read).1, seen, snapshot_head read, rfl⟩

theorem fulfillmentTotal_locked (requestId itemId : String) (seen db : InventoryDb) :
    fulfillmentTotal ((lockedRows requestId seen db).map fun reservation =>
      { itemId := reservation.itemId, quantity := reservation.quantity }) itemId ≤
        reservationTotal db requestId itemId .reserved := by
  rw [fulfillmentTotal, total_map, lockedRows, total_filter]
  unfold reservedRows
  rw [total_filter]
  refine total_le fun row _ counted => ?_
  obtain ⟨⟨request, reserved⟩, -, -, item⟩ := counted
  exact Prod.ext request (Prod.ext item reserved)

theorem issueAndClose_stock {request : InventoryRequest}
    {status : String}
    (ran : (issueAndClose context request lines status dto).run db = .ok (result, after)) (itemId : String) :
    onHand after itemId + fulfillmentTotal lines itemId = onHand db itemId ∧
      reservedQuantity itemId after + reservationTotal db request.id itemId .reserved = reservedQuantity itemId db := by
  simp only [issueAndClose, run_bind_ok, required_ok] at ran
  obtain ⟨_, first, issuing, _, second, marked, _, last, set, -, rfl⟩ := ran
  have issued := issueRequestStockLines_issued issuing
  have marking := (markRequestReservationsFulfilled_totals marked).1
  have setting := setRequestStatus_only set
  have items : last.items = first.items := by rw [setting, marking]
  have reservations : last.reservations = second.reservations := by rw [setting]
  constructor
  · rw [onHand_congr items]
    exact issued.onHand itemId
  · have closed := markRequestReservationsFulfilled_reserved marked itemId
    have same : first.reservations = db.reservations := by rw [issued.only]
    rw [reservedQuantity_congr same, reservationTotal, same] at closed
    rw [reservedQuantity_congr reservations]
    exact closed

theorem fulfillRequest_covered
    (covered : Covered session.tables)
    (leaves : ∀ request ∈ session.tables.requests.find requestId, request.status = "approved" →
      lockedRows requestId (session.snapshots.headD session.committed) session.tables = [] →
        LeavesReserved session.tables (lineTotal request.lines))
    (ran : (fulfillRequest context requestId dto).run session = .ok (result, later)) : Covered later.tables := by
  simp only [fulfillRequest, run_bind_ok, run_onTables_ok] at ran
  obtain ⟨request, _, ⟨_, checked, rfl⟩, lines, middle, listed, last, closed, rfl⟩ := ran
  obtain ⟨found, approved, rfl⟩ := requestInStatus_ok checked
  have listed : (listReservedRequestLinesForUpdate requestId).run session = .ok (lines, middle) := listed
  obtain ⟨same, seen, head, rfl⟩ := listReserved_locked listed
  rw [same] at closed
  have key : request.id = requestId := (find_eq_some _ |>.mp found).2
  have stock := issueAndClose_stock closed
  change Covered last
  by_cases none : lockedRows requestId seen session.tables = []
  · have lines (itemId : String) := (stock itemId).1
    simp only [none, List.map_nil, linesToIssue, List.length_nil, Nat.lt_irrefl, if_false,
      fulfillmentTotal_requestLines] at lines
    exact covered.withdraw (leaves request found approved (head ▸ none)) lines
      fun itemId => (Nat.le_add_right _ _).trans_eq (stock itemId).2
  · intro itemId
    obtain ⟨issued, unreserved⟩ := stock itemId
    have locked := fulfillmentTotal_locked requestId itemId seen session.tables
    rw [linesToIssue, if_pos (by simpa using List.length_pos_of_ne_nil none)] at issued
    rw [key] at unreserved
    have before := covered itemId
    omega

theorem partiallyFulfillRequest_covered
    (covered : Covered session.tables)
    (ran : (partiallyFulfillRequest context requestId dto).run session = .ok (result, later)) :
    Covered later.tables := by
  simp only [partiallyFulfillRequest, run_bind_ok, run_onTables_ok, run_failIf_ok] at ran
  obtain ⟨request, _, ⟨_, checked, rfl⟩, lines, middle, listed, last, ⟨_, _, ⟨-, rfl⟩, closed⟩, rfl⟩ := ran
  obtain ⟨found, backordered, rfl⟩ := requestInStatus_ok checked
  have listed : (listReservedRequestLinesForUpdate requestId).run session = .ok (lines, middle) := listed
  obtain ⟨same, seen, head, rfl⟩ := listReserved_locked listed
  rw [same] at closed
  have key : request.id = requestId := (find_eq_some _ |>.mp found).2
  have stock := issueAndClose_stock closed
  change Covered last
  intro itemId
  obtain ⟨issued, unreserved⟩ := stock itemId
  have locked := fulfillmentTotal_locked requestId itemId seen session.tables
  rw [key] at unreserved
  have before := covered itemId
  omega

theorem issueStock_withdrew {dto : CreateStockIssue} {result : StockTransactionResponse}
    (ran : (issueStock context dto).run db = .ok (result, after)) :
    after.reservations = db.reservations ∧ ∀ itemId, onHand after itemId + issueTotal dto itemId = onHand db itemId := by
  simp only [issueStock, run_bind_ok, run_failIf_ok, run_pure_ok] at ran
  obtain ⟨_, _, ⟨-, rfl⟩, _, _, ⟨-, rfl⟩, _, _, issued, -, rfl⟩ := ran
  have kept := mapM_induction
    (motive := fun rest other => other.reservations = db.reservations ∧ ∀ itemId,
      onHand other itemId + issueTotal dto itemId =
        onHand db itemId + total (fun line : StockIssueLine => line.itemId = itemId) (·.quantity) rest)
    issued ⟨rfl, fun _ => rfl⟩ fun line rest first _ last before step => by
      simp only [issueLine, run_bind_ok, run_lift_ok, findItemById_ok, required_ok, recordStockMovement_ok,
        run_pure_ok] at step
      obtain ⟨_, _, ⟨-, rfl⟩, _, _, ⟨-, rfl⟩, _, _, ⟨-, rfl⟩, _, middle, written, _, _, ⟨rfl, rfl⟩, _, _, rfl, -,
        rfl⟩ := step
      have changed := changeItemStock_ok written
      refine ⟨?_, fun itemId => ?_⟩
      · rw [← before.1, changed.stored]
      · have took := changed.withdrew itemId
        have sofar := before.2 itemId
        rw [total_cons] at sofar
        change onHand middle itemId + _ = _
        omega
  exact kept

theorem issueDepartmentStock_covered {dto : CreateStockIssue} {result : StockTransactionResponse}
    (ran : (issueDepartmentStock context dto).run session = .ok (result, later)) (covered : Covered session.tables)
    (leaves : LeavesReserved session.tables (issueTotal dto)) : Covered later.tables := by
  simp only [issueDepartmentStock, run_bind_ok] at ran
  obtain ⟨seen, middle, read, ran⟩ := ran
  have same := (run_snapshot_ok read).1
  rw [← same] at covered leaves
  split at ran
  · obtain ⟨-, rfl⟩ := run_pure_ok.mp ran
    exact covered
  · obtain ⟨tables, issued, rfl⟩ := run_onTables_ok.mp ran
    obtain ⟨reservations, taken⟩ := issueStock_withdrew issued
    exact covered.withdraw leaves taken fun itemId => (reservedQuantity_congr reservations itemId).le

theorem createIncident_covered {dto : CreateIncident} {result : InventoryIncident} (covered : Covered db)
    (leaves : LeavesReserved db (incidentTotal dto))
    (ran : (createIncident context dto).run db = .ok (result, after)) : Covered after := by
  simp only [createIncident, insertIncident, run_bind_ok, findItemById_ok, required_ok, recordStockMovement_ok,
    run_current_ok, run_pure_ok] at ran
  obtain ⟨_, _, ⟨-, rfl⟩, _, _, ⟨-, rfl⟩, _, middle, written, mutation, _, ⟨rfl, rfl⟩, _, _, rfl, _, _,
    ⟨_, _, ⟨rfl, rfl⟩, stored⟩, -, rfl⟩ := ran
  have changed := changeItemStock_ok written
  have reservations : middle.reservations = db.reservations := by rw [changed.stored]
  have kept : Covered middle :=
    covered.withdraw leaves changed.withdrew fun itemId => (reservedQuantity_congr reservations itemId).le
  split at stored
  · obtain rfl := run_write_ok.mp stored
    exact kept.congr rfl rfl
  · exact absurd stored run_fail_ok

theorem adjustItemStock_covered {itemId : String} {dto : AdjustStock} {item : InventoryItem}
    (ran : (adjustItemStock context itemId dto).run session = .ok (item, later)) (covered : Covered session.tables)
    (enough : ∀ item ∈ (session.snapshots.headD session.committed).items.find itemId,
      ∀ next ∈ (calculateNextQuantity item.quantityOnHand dto).toOption,
        reservedQuantity itemId session.tables ≤ next) : Covered later.tables := by
  simp only [adjustItemStock, run_bind_ok, run_onTables_ok, required_ok, run_lift_ok, recordStockMovement_ok,
    run_pure_ok] at ran
  obtain ⟨seen, middle, read, _, ⟨stored, _, ⟨found, rfl⟩, next, _, ⟨calculated, rfl⟩, _, second, written, mutation, _,
    ⟨rfl, rfl⟩, _, _, rfl, -, rfl⟩, rfl⟩ := ran
  rw [(run_snapshot_ok read).1] at written
  have changed := changeItemStock_ok written
  have head : seen = session.snapshots.headD session.committed := snapshot_head read
  have above := enough stored (head ▸ found) next (by rw [calculated]; rfl)
  have reservations : second.reservations = session.tables.reservations := by rw [changed.stored]
  have set : mutation.afterQuantity = next := (Option.some.inj changed.changed).symm
  have kept : Covered second := by
    intro wanted
    rw [reservedQuantity_congr reservations, changed.onHand_eq, set]
    split
    · next own => exact own ▸ above
    · exact covered wanted
  exact kept.congr rfl rfl

end Withdrawals

section Counts

variable {db after : InventoryDb} {context : CallContext} {itemId : String} {countedQuantity : Nat}
  {result : StockCountResult}

theorem applyItemStockCount_counts
    (ran : (applyItemStockCount itemId countedQuantity).run db = .ok (result, after)) :
    after.reservations = db.reservations ∧
      ∀ wanted, onHand after wanted = if wanted = itemId then countedQuantity else onHand db wanted := by
  simp only [applyItemStockCount, run_bind_ok, required_ok, run_pure_ok] at ran
  obtain ⟨_, _, written, mutation, _, ⟨rfl, rfl⟩, -, rfl⟩ := ran
  have changed := changeItemStock_ok written
  refine ⟨by rw [changed.stored], fun wanted => ?_⟩
  rw [changed.onHand_eq, ← Option.some.inj changed.changed]

theorem applyLocationStockCount_counts {locationCode : String}
    (ran : (applyLocationStockCount locationCode itemId countedQuantity).run db = .ok (result, after)) :
    after.reservations = db.reservations ∧ ∀ wanted,
      balanceQuantity after wanted locationCode =
          (if wanted = itemId then countedQuantity else balanceQuantity db wanted locationCode) ∧
        onHand after wanted + balanceQuantity db wanted locationCode =
          onHand db wanted + balanceQuantity after wanted locationCode := by
  simp only [applyLocationStockCount, setItemLocationBalanceFromCount, putBalance, run_bind_ok, run_current_ok,
    run_write_ok, run_pure_ok] at ran
  obtain ⟨_, _, ⟨_, _, ⟨rfl, rfl⟩, _, _, rfl, rfl, rfl⟩, ran⟩ := ran
  have counted (wanted : String) :
      balanceQuantity (db.withBalance itemId locationCode countedQuantity) wanted locationCode =
        if wanted = itemId then countedQuantity else balanceQuantity db wanted locationCode := by
    rw [balanceQuantity_putBalance]
    exact if_congr (and_iff_left rfl) rfl rfl
  have kept (wanted : String) : onHand (db.withBalance itemId locationCode countedQuantity) wanted = onHand db wanted :=
    onHand_congr rfl wanted
  split at ran
  · next unchanged =>
    simp only [run_bind_ok, findItemById_ok, required_ok, run_pure_ok] at ran
    obtain ⟨_, _, ⟨-, rfl⟩, _, _, ⟨-, rfl⟩, -, rfl⟩ := ran
    refine ⟨rfl, fun wanted => ⟨counted wanted, ?_⟩⟩
    rw [counted, kept]
    split
    · next own =>
      rw [own]
      omega
    · rfl
  · simp only [run_bind_ok, required_ok, run_pure_ok] at ran
    obtain ⟨_, stored, written, mutation, _, ⟨rfl, rfl⟩, -, rfl⟩ := ran
    have changed := changeItemStock_ok written
    have same (wanted : String) : balanceQuantity stored wanted locationCode =
        balanceQuantity (db.withBalance itemId locationCode countedQuantity) wanted locationCode :=
      balanceQuantity_congr changed.balances_eq wanted locationCode
    refine ⟨by rw [changed.stored]; rfl, fun wanted => ⟨(same wanted).trans (counted wanted), ?_⟩⟩
    have varied := changed.changed
    rw [addedVariance] at varied
    split at varied
    · next enough =>
      have varied := Option.some.inj varied
      rw [← changed.before, kept] at varied enough
      rw [same, counted, changed.onHand_eq, kept]
      by_cases own : wanted = itemId
      · simp only [own, if_true]
        omega
      · simp only [own, if_false]
    · cases varied

theorem postStockCount_covered {dto : PostStockCount} {result : StockCountSnapshot} (covered : Covered db)
    (counts : ∀ line ∈ dto.lines, CountsReserved db (nullableText dto.locationCode) line)
    (ran : (postStockCount context dto).run db = .ok (result, after)) : Covered after := by
  obtain ⟨_, middle, counting, items, balances, reservations⟩ := postStockCount_ok ran
  refine Covered.congr ?_ items reservations
  cases code : nullableText dto.locationCode with
  | none =>
    rw [code] at counting counts
    have kept := mapM_induction
      (motive := fun (rest : List StockCountLine) other =>
        (∀ line ∈ rest, CountsReserved db none line) ∧ other.reservations = db.reservations ∧ Covered other)
      counting ⟨counts, rfl, covered⟩ fun line rest first _ last before step => by
        obtain ⟨enough, rest, same, covered⟩ := by
          simpa only [List.forall_mem_cons, and_assoc] using before
        obtain ⟨_, second, applied, items, -, reservations⟩ := countLine_ok step
        obtain ⟨stored, quantities⟩ := applyItemStockCount_counts applied
        refine ⟨rest, reservations.trans (stored.trans same), Covered.congr (fun wanted => ?_) items reservations⟩
        rw [reservedQuantity_congr stored, quantities]
        split
        · next own =>
          rw [reservedQuantity_congr same, own]
          exact enough
        · exact covered wanted
    exact kept.2.2
  | some locationCode =>
    rw [code] at counting counts
    -- What the item has gained so far is what its balance has gained.
    have kept := mapM_induction
      (motive := fun (rest : List StockCountLine) other =>
        (∀ line ∈ rest, CountsReserved db (some locationCode) line) ∧ other.reservations = db.reservations ∧
          Covered other ∧ ∀ wanted, onHand other wanted + balanceQuantity db wanted locationCode =
            onHand db wanted + balanceQuantity other wanted locationCode)
      counting ⟨counts, rfl, covered, fun _ => rfl⟩ fun line rest first _ last before step => by
        obtain ⟨enough, rest, same, covered, gained⟩ := by
          simpa only [List.forall_mem_cons, and_assoc] using before
        obtain ⟨_, second, applied, items, balances, reservations⟩ := countLine_ok step
        obtain ⟨stored, quantities⟩ := applyLocationStockCount_counts applied
        have total (wanted : String) : onHand second wanted + balanceQuantity db wanted locationCode =
            onHand db wanted + balanceQuantity second wanted locationCode := by
          have moved := (quantities wanted).2
          have sofar := gained wanted
          omega
        refine ⟨rest, reservations.trans (stored.trans same), Covered.congr (fun wanted => ?_) items reservations,
          fun wanted => ?_⟩
        · rw [reservedQuantity_congr stored]
          have moved := quantities wanted
          have whole := total wanted
          by_cases own : wanted = line.itemId
          · subst own
            rw [if_pos rfl] at moved
            rw [reservedQuantity_congr same]
            simp only [CountsReserved] at enough
            omega
          · rw [if_neg own] at moved
            have before := covered wanted
            omega
        · rw [onHand_congr items, balanceQuantity_congr balances]
          exact total wanted
    exact kept.2.2.1

end Counts

section Others

variable {db after : InventoryDb} {context : CallContext} {session later : Session InventoryDb}
  {dto : UpdateWorkflowStatus}

theorem createItem_covered {dto : CreateInventoryItem} {item : InventoryItem} (covered : Covered db)
    (ran : (createItem context dto).run db = .ok (item, after)) : Covered after := by
  simp only [createItem, run_bind_ok, run_lift_ok] at ran
  obtain ⟨_, _, checked, made, _, ⟨created, rfl⟩, _, middle, inserted, ran⟩ := ran
  obtain rfl := assertOptionalStorageLocation_ok checked
  obtain ⟨unknown, -, reservations, quantities⟩ := insertItem_ok inserted
  have kept : Covered middle := by
    refine covered.grow (fun wanted => ?_) fun wanted => (reservedQuantity_congr reservations wanted).le
    rw [quantities]
    split
    · next same =>
      rw [same, unknown]
      exact Nat.zero_le _
    · exact le_rfl
  split at ran
  · simp only [run_bind_ok, recordStockMovement_ok, incrementItemLocationBalance, putBalance, run_current_ok,
      run_write_ok, run_pure_ok] at ran
    obtain ⟨_, _, rfl, _, _, ⟨_, _, ⟨rfl, rfl⟩, rfl⟩, -, rfl⟩ := ran
    exact kept.congr rfl rfl
  · obtain ⟨-, rfl⟩ := run_pure_ok.mp ran
    exact kept

theorem moveLines_covered {direction : Direction} {transfer : InventoryTransfer} {notes : Option String}
    {result : Unit} (covered : Covered db)
    (ran : (moveLines direction context transfer notes).run db = .ok (result, after)) : Covered after := by
  simp only [moveLines, run_bind_ok, run_pure_ok] at ran
  obtain ⟨_, _, fromActive, _, _, toActive, _, _, moved, -, rfl⟩ := ran
  obtain rfl := assertActiveInventoryLocation_ok fromActive
  obtain rfl := assertActiveInventoryLocation_ok toActive
  refine mapM_induction (motive := fun _ other => Covered other) moved covered
    fun line _ middle _ last before step => ?_
  unfold moveLine at step
  split at step
  · obtain ⟨-, rfl⟩ := run_pure_ok.mp step
    exact before
  · simp only [run_bind_ok, findItemById_ok, required_ok, recordStockMovement_ok] at step
    obtain ⟨_, _, ⟨-, rfl⟩, _, _, ⟨-, rfl⟩, _, _, carried, _, _, ⟨rfl, rfl⟩, rfl⟩ := step
    rw [(transferItemBalance_ok carried).2]
    exact before.congr rfl rfl

theorem updateTransferStatus_covered {transferId : String} {result : InventoryTransfer}
    (covered : Covered session.tables)
    (ran : (updateTransferStatus context transferId dto).run session = .ok (result, later)) :
    Covered later.tables := by
  have setting {status : String} {notes : Option String} {before after : InventoryDb} (covered : Covered before)
      (set : (setTransferStatus transferId status notes).run before = .ok (result, after)) : Covered after := by
    simp only [setTransferStatus, run_bind_ok, run_current_ok, required_ok, run_write_ok, run_pure_ok] at set
    obtain ⟨_, _, ⟨rfl, rfl⟩, _, _, ⟨-, rfl⟩, _, _, rfl, -, rfl⟩ := set
    exact covered.congr rfl rfl
  unfold updateTransferStatus at ran
  split at ran
  · simp only [completeTransfer, seenTransfer, run_bind_ok, run_onTables_ok, required_ok] at ran
    obtain ⟨transfer, _, ⟨_, _, read, _, ⟨-, rfl⟩, rfl⟩, _, ⟨_, _, moved, set⟩, rfl⟩ := ran
    rw [← (run_snapshot_ok read).1] at covered
    exact setting (moveLines_covered covered moved) set
  · split at ran
    · simp only [cancelTransfer, seenTransfer, run_bind_ok, run_onTables_ok, required_ok] at ran
      obtain ⟨transfer, _, ⟨_, _, read, _, ⟨-, rfl⟩, rfl⟩, _, ran, rfl⟩ := ran
      rw [← (run_snapshot_ok read).1] at covered
      split at ran
      · obtain ⟨_, _, moved, set⟩ := run_bind_ok.mp ran
        exact setting (moveLines_covered covered moved) set
      · exact setting covered ran
    · obtain ⟨tables, set, rfl⟩ := run_onTables_ok.mp ran
      exact setting covered set

theorem updateRequestStatus_covered {requestId : String} {result : InventoryRequest}
    (ran : (updateRequestStatus context requestId dto).run session = .ok (result, later))
    (covered : Covered session.tables) (committed : session.committed = session.tables)
    (keeps : StatusKeepsCover requestId dto.status session.snapshots session.tables) : Covered later.tables := by
  unfold updateRequestStatus at ran
  split at ran
  · next approving =>
    have covering : Covering session.tables session :=
      ⟨committed, fun seen member itemId => (keeps.1 approving).all covered member itemId, covered⟩
    exact (approveRequest_covering covering ran).covered
  · split at ran
    · next fulfilling =>
      exact fulfillRequest_covered covered (committed ▸ keeps.2 fulfilling) ran
    · split at ran
      · exact partiallyFulfillRequest_covered covered ran
      · simp only [run_onTables_ok, run_bind_ok, required_ok] at ran
        obtain ⟨_, ⟨_, _, set, -, rfl⟩, rfl⟩ := ran
        have only := setRequestStatus_only set
        exact covered.congr (by rw [only]) (by rw [only])

theorem perform_covered {transaction : InFlight InventoryDb InventoryCall} (covered : Covered db)
    (keeps : KeepsCover transaction db) : Covered (settle perform transaction db).1 := by
  refine settle_preserves covered fun _ later ran => ?_
  obtain ⟨⟨context, operation⟩, snapshots⟩ := transaction
  have receiving (sees : SeesReservations snapshots db) : Covering db (.begun db snapshots) :=
    ⟨rfl, fun seen member itemId => sees.all covered member itemId, covered⟩
  cases operation <;> simp only [perform, discard_ok, run_onTables_ok] at ran
  case createItem dto =>
    obtain ⟨_, _, ran, rfl⟩ := ran
    exact createItem_covered covered ran
  case updateItem itemId dto =>
    obtain ⟨_, tables, ran, rfl⟩ := ran
    obtain ⟨only, same⟩ := updateItem_ok ran
    have reservations : tables.reservations = db.reservations := by rw [only]; rfl
    exact covered.grow (fun wanted => (same wanted).ge) fun wanted => (reservedQuantity_congr reservations wanted).le
  case adjustItemStock itemId dto =>
    obtain ⟨_, ran⟩ := ran
    exact adjustItemStock_covered ran covered keeps
  case issueDepartmentStock dto =>
    obtain ⟨_, ran⟩ := ran
    exact issueDepartmentStock_covered ran covered keeps
  case receiveSupplierStock dto =>
    obtain ⟨_, ran⟩ := ran
    exact (receiveSupplierStock_covering (receiving keeps) ran).covered
  case createPurchaseOrder dto =>
    obtain ⟨_, _, ran, rfl⟩ := ran
    have only := createPurchaseOrder_only ran
    exact covered.congr (by rw [only]; rfl) (by rw [only]; rfl)
  case updatePurchaseOrderStatus purchaseOrderId dto =>
    obtain ⟨_, ran⟩ := ran
    by_cases received : dto.status = "received"
    · exact (updatePurchaseOrderStatus_covering (receiving (keeps received)) ran).covered
    · rw [updatePurchaseOrderStatus, if_neg received] at ran
      obtain ⟨_, set, rfl⟩ := run_onTables_ok.mp ran
      have only := setPurchaseOrderStatus_only set
      exact covered.congr (by rw [only]; rfl) (by rw [only]; rfl)
  case createRequest dto =>
    obtain ⟨_, _, ran, rfl⟩ := ran
    have only := createRequest_only ran
    exact covered.congr (by rw [only]; rfl) (by rw [only]; rfl)
  case updateRequestStatus requestId dto =>
    obtain ⟨_, ran⟩ := ran
    exact updateRequestStatus_covered ran covered rfl keeps
  case createTransfer dto =>
    obtain ⟨_, _, ran, rfl⟩ := ran
    have only := createTransfer_only ran
    exact covered.congr (by rw [only]; rfl) (by rw [only]; rfl)
  case updateTransferStatus transferId dto =>
    obtain ⟨_, ran⟩ := ran
    exact updateTransferStatus_covered covered ran
  case createIncident dto =>
    obtain ⟨_, _, ran, rfl⟩ := ran
    exact createIncident_covered covered keeps ran
  case postStockCount dto =>
    obtain ⟨_, _, ran, rfl⟩ := ran
    exact postStockCount_covered covered keeps ran

end Others

end ShuleHub.Inventory
