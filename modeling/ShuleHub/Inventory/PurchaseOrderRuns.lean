import ShuleHub.Inventory.Reconciliation
import ShuleHub.Inventory.TransferRuns

/-! The status requests on one purchase order, in any interleaving: how often its lines are put on hand. -/

namespace ShuleHub.Inventory

open Runs Transaction Snapshots

variable (purchaseOrderId : String)

structure OrderRequest where
  context : CallContext
  dto : UpdateWorkflowStatus

def purchaseOrderProgram (request : OrderRequest) : InventorySession PurchaseOrder :=
  updatePurchaseOrderStatus request.context purchaseOrderId request.dto

abbrev FinishedOrderRequest := Snapshots.Finished InventoryDb OrderRequest Exception PurchaseOrder

def isReceived (db : InventoryDb) : Prop :=
  (db.purchaseOrders.find purchaseOrderId).map (·.status) = some "received"
deriving Decidable

/-- Since `start` the lines have been put on hand at most once, and once if the order is received; and no request has
taken a received order out of that status. -/
structure ReceivedOnce (start db : InventoryDb) (finished : List FinishedOrderRequest) :
    Prop where
  added : ∀ purchaseOrder, db.purchaseOrders.find purchaseOrderId = some purchaseOrder → ∃ times ≤ 1,
    (purchaseOrder.status = "received" → times = 1) ∧
      ∀ itemId, onHand db itemId = onHand start itemId + times * lineTotal purchaseOrder.lines itemId
  stays : ∀ done ∈ finished, isReceived purchaseOrderId done.before → isReceived purchaseOrderId done.after

def LeavesReceived (transaction : InFlight InventoryDb OrderRequest) (db : InventoryDb) :
    Prop :=
  isReceived purchaseOrderId db → transaction.request.dto.status = "received"
deriving Decidable

section Steps

variable {context : CallContext} {purchaseOrderId : String} {session later : Session InventoryDb}
  {result : PurchaseOrder} {notes : Option String}

theorem receiveOrderLine_added {purchaseOrder : PurchaseOrder} {line : InventoryLine}
    {done : Unit} (ran : (receiveOrderLine context purchaseOrder notes line).run session = .ok (done, later)) :
    later.tables.purchaseOrders = session.tables.purchaseOrders ∧ ∀ itemId,
      onHand later.tables itemId =
        onHand session.tables itemId + if ¬ line.isEmpty ∧ line.itemId = itemId then line.quantity else 0 := by
  by_cases empty : line.isEmpty
  · rw [receiveOrderLine, if_pos empty] at ran
    obtain ⟨-, rfl⟩ := run_pure_ok.mp ran
    simp [empty]
  · simp only [receiveOrderLine, if_neg empty, run_bind_ok, run_onTables_ok] at ran
    obtain ⟨_, _, ⟨stored, received, rfl⟩, resolved⟩ := ran
    have moved := storeReceived_received (run_bind_ok.mpr received)
    have only := resolveBackordersForReceivedItem_requestsOnly resolved
    have orders : stored.purchaseOrders = session.tables.purchaseOrders := by
      simp only [storeReceived, run_bind_ok, required_ok, recordStockMovement_ok, run_pure_ok,
        incrementItemLocationBalance, putBalance, run_current_ok, run_write_ok] at received
      obtain ⟨_, _, changed, _, _, ⟨rfl, rfl⟩, _, _, rfl, _, _, ⟨_, _, ⟨rfl, rfl⟩, rfl⟩, -, rfl⟩ := received
      rw [(changeItemStock_ok changed).stored]
      rfl
    refine ⟨only.purchaseOrders.trans orders, fun itemId => ?_⟩
    rw [onHand_congr only.items, moved.onHand]
    simp [empty]

theorem setPurchaseOrderStatus_row {status : String} {db after : InventoryDb}
    (ran : (setPurchaseOrderStatus context purchaseOrderId status notes).run db = .ok (result, after)) :
    ∃ purchaseOrder, db.purchaseOrders.find purchaseOrderId = some purchaseOrder ∧
      after.purchaseOrders.find purchaseOrderId = some (orderWithStatus status notes context.now purchaseOrder) ∧
        after.items = db.items := by
  simp only [setPurchaseOrderStatus, findPurchaseOrderByIdForUpdate, run_bind_ok, run_current_ok, run_pure_ok,
    required_ok, run_write_ok] at ran
  obtain ⟨_, _, ⟨_, _, ⟨rfl, rfl⟩, rfl, rfl⟩, purchaseOrder, _, ⟨found, rfl⟩, _, _, rfl, -, rfl⟩ := ran
  have own : purchaseOrder.id = purchaseOrderId := (KeyedTable.find_eq_some _ |>.mp found).2
  refine ⟨purchaseOrder, found, ?_, rfl⟩
  rw [KeyedTable.find_put]
  exact if_pos own.symm

theorem receivePurchaseOrder_added
    (ran : (receivePurchaseOrder context purchaseOrderId notes).run session = .ok (result, later)) :
    ∃ purchaseOrder, session.tables.purchaseOrders.find purchaseOrderId = some purchaseOrder ∧
      purchaseOrder.status = "approved" ∧
      later.tables.purchaseOrders.find purchaseOrderId =
        some (orderWithStatus "received" (nullableText notes) context.now purchaseOrder) ∧
      ∀ itemId, onHand later.tables itemId =
        onHand session.tables itemId + lineTotal purchaseOrder.lines itemId := by
  simp only [receivePurchaseOrder, approvedPurchaseOrder, findPurchaseOrderByIdForUpdate, run_bind_ok,
    run_onTables_ok, run_current_ok, run_pure_ok, required_ok, run_failIf_ok, not_not] at ran
  obtain ⟨_, _, ⟨_, ⟨_, _, ⟨_, _, ⟨rfl, rfl⟩, rfl, rfl⟩, purchaseOrder, _, ⟨found, rfl⟩, _, _, ⟨approved, rfl⟩, rfl,
    rfl⟩, rfl⟩, _, middle, lines, tables, set, rfl⟩ := ran
  have kept := mapM_induction
    (motive := fun rest other => other.tables.purchaseOrders = session.tables.purchaseOrders ∧ ∀ itemId,
      onHand other.tables itemId + lineTotal rest itemId =
        onHand session.tables itemId + lineTotal purchaseOrder.lines itemId)
    lines ⟨rfl, fun _ => rfl⟩ fun line rest first _ last before step => by
      obtain ⟨orders, added⟩ := receiveOrderLine_added step
      refine ⟨orders.trans before.1, fun itemId => ?_⟩
      rw [← before.2 itemId, added itemId]
      simp only [lineTotal, Table.total_cons]
      omega
  obtain ⟨same, sameFound, stored, items⟩ := setPurchaseOrderStatus_row set
  rw [kept.1] at sameFound
  obtain rfl : purchaseOrder = same := Option.some.inj (found.symm.trans sameFound)
  refine ⟨purchaseOrder, found, approved, stored, fun itemId => ?_⟩
  rw [onHand_congr items]
  exact kept.2 itemId

end Steps

structure OrderInv (start : InventoryDb) (lines : List InventoryLine) (db : InventoryDb)
    (finished : List FinishedOrderRequest) : Prop where
  row : ∃ purchaseOrder, db.purchaseOrders.find purchaseOrderId = some purchaseOrder ∧ purchaseOrder.lines = lines
  added : ∀ itemId, onHand db itemId =
    onHand start itemId + if isReceived purchaseOrderId db then lineTotal lines itemId else 0
  stays : ∀ done ∈ finished, isReceived purchaseOrderId done.before → isReceived purchaseOrderId done.after

section Runs

variable {purchaseOrderId : String} {start : InventoryDb} {lines : List InventoryLine}
  {db : InventoryDb} {finished : List FinishedOrderRequest}

theorem OrderInv.receivedOnce
    (inv : OrderInv purchaseOrderId start lines db finished) : ReceivedOnce purchaseOrderId start db finished := by
  refine ⟨fun purchaseOrder found => ?_, inv.stays⟩
  obtain ⟨same, sameFound, linesSame⟩ := inv.row
  obtain rfl : purchaseOrder = same := Option.some.inj (found.symm.trans sameFound)
  have status : isReceived purchaseOrderId db ↔ purchaseOrder.status = "received" := by simp [isReceived, found]
  by_cases done : purchaseOrder.status = "received"
  · refine ⟨1, le_rfl, fun _ => rfl, fun itemId => ?_⟩
    rw [inv.added, if_pos (status.mpr done), Nat.one_mul, linesSame]
  · refine ⟨0, Nat.zero_le 1, fun same => absurd same done, fun itemId => ?_⟩
    rw [inv.added, if_neg fun held => done (status.mp held), Nat.zero_mul]

theorem OrderInv.refused {request : OrderRequest}
    {outcome : Except Exception PurchaseOrder} (inv : OrderInv purchaseOrderId start lines db finished) :
    OrderInv purchaseOrderId start lines db (finished ++ [⟨request, db, db, outcome⟩]) := by
  refine { inv with stays := fun done member => ?_ }
  rcases List.mem_append.mp member with old | new
  · exact inv.stays done old
  · rw [List.mem_singleton.mp new]
    exact id

theorem order_kept (transaction : InFlight InventoryDb OrderRequest) (db : InventoryDb)
    (finished : List FinishedOrderRequest) (inv : OrderInv purchaseOrderId start lines db finished)
    (leaves : LeavesReceived purchaseOrderId transaction db) :
    OrderInv purchaseOrderId start lines (settle (purchaseOrderProgram purchaseOrderId) transaction db).1
      (finished ++ [⟨transaction.request, db, (settle (purchaseOrderProgram purchaseOrderId) transaction db).1,
        (settle (purchaseOrderProgram purchaseOrderId) transaction db).2⟩]) := by
  unfold settle
  split
  · next result session ran =>
    obtain ⟨row, found, linesSame⟩ := inv.row
    have wasReceived : isReceived purchaseOrderId db ↔ row.status = "received" := by simp [isReceived, found]
    simp only [purchaseOrderProgram, updatePurchaseOrderStatus] at ran
    split at ran
    · obtain ⟨purchaseOrder, same, approved, stored, added⟩ := receivePurchaseOrder_added ran
      obtain rfl : row = purchaseOrder := Option.some.inj (found.symm.trans same)
      have received : isReceived purchaseOrderId session.tables := by simp [isReceived, stored, orderWithStatus]
      have fresh : ¬ isReceived purchaseOrderId db := by
        rw [wasReceived, approved]
        decide
      refine ⟨⟨_, stored, linesSame⟩, fun itemId => ?_, fun done member => ?_⟩
      · have before := inv.added itemId
        rw [if_neg fresh] at before
        rw [if_pos received, added itemId, ← linesSame]
        change onHand db itemId + _ = _
        rw [before, Nat.add_zero]
      · rcases List.mem_append.mp member with old | new
        · exact inv.stays done old
        · rw [List.mem_singleton.mp new]
          exact fun _ => received
    · next other =>
      obtain ⟨tables, set, rfl⟩ := run_onTables_ok.mp ran
      obtain ⟨purchaseOrder, same, stored, items⟩ := setPurchaseOrderStatus_row set
      obtain rfl : row = purchaseOrder := Option.some.inj (found.symm.trans same)
      have fresh : ¬ isReceived purchaseOrderId db := fun held => other (leaves held)
      have unreceived : ¬ isReceived purchaseOrderId tables := by simp [isReceived, stored, orderWithStatus, other]
      refine ⟨⟨_, stored, linesSame⟩, fun itemId => ?_, fun done member => ?_⟩
      · have before := inv.added itemId
        rw [if_neg fresh] at before
        rw [if_neg unreceived, onHand_congr items]
        exact before
      · rcases List.mem_append.mp member with old | new
        · exact inv.stays done old
        · rw [List.mem_singleton.mp new]
          exact fun held => absurd held fresh
  · exact inv.refused

theorem order_broken (transaction : InFlight InventoryDb OrderRequest) (db : InventoryDb)
    (finished : List FinishedOrderRequest) (inv : OrderInv purchaseOrderId start lines db finished)
    (leaves : ¬ LeavesReceived purchaseOrderId transaction db) :
    ¬ ReceivedOnce purchaseOrderId start (settle (purchaseOrderProgram purchaseOrderId) transaction db).1
      (finished ++ [⟨transaction.request, db, (settle (purchaseOrderProgram purchaseOrderId) transaction db).1,
        (settle (purchaseOrderProgram purchaseOrderId) transaction db).2⟩]) := by
  obtain ⟨received, other⟩ := Classical.not_imp.mp leaves
  intro law
  have stays := law.stays _ (List.mem_append_right _ (List.mem_singleton.mpr rfl)) received
  obtain ⟨row, found, -⟩ := inv.row
  have ran : ∃ result tables,
      (setPurchaseOrderStatus transaction.request.context purchaseOrderId transaction.request.dto.status
        (nullableText transaction.request.dto.notes)).run db = .ok (result, tables) := by
    simp [setPurchaseOrderStatus, findPurchaseOrderByIdForUpdate, found]
  obtain ⟨result, tables, set⟩ := ran
  have whole : (purchaseOrderProgram purchaseOrderId transaction.request).run (.begun db transaction.snapshots) =
      .ok (result, { Session.begun db transaction.snapshots with tables }) := by
    rw [purchaseOrderProgram, updatePurchaseOrderStatus, if_neg other, run_onTables_ok]
    exact ⟨tables, set, rfl⟩
  obtain ⟨purchaseOrder, -, stored, -⟩ := setPurchaseOrderStatus_row set
  have settled : (settle (purchaseOrderProgram purchaseOrderId) transaction db).1 = tables := by
    rw [settle_of_ok whole]
  rw [settled] at stays
  simp [isReceived, stored, orderWithStatus, other] at stays

end Runs

def chalkOrder : PurchaseOrder where
  id := "order-1"
  poNumber := "PO-1"
  supplierId := "supplier-1"
  status := "pending"
  expectedDeliveryDate := none
  orderedAt := "2026-01-05"
  receivedAt := none
  totalAmount := 125000
  lines := [{ itemId := "item-1", itemName := "Chalk", quantity := 5, unitPrice := 25000 }]
  notes := none
  createdByUserId := none

def orderedChalk : InventoryDb := { twoRooms with purchaseOrders := twoRooms.purchaseOrders.put chalkOrder }

def orderTo (status : String) : OrderRequest := ⟨clerk, { status, notes := none }⟩

end ShuleHub.Inventory
