import ShuleHub.Inventory.PurchaseOrders
import ShuleHub.Inventory.Transfers

/-! What is on hand of an item and what lies of it at all locations together, and what each statement does to the
two. -/

namespace ShuleHub.Inventory

open Transaction Snapshots KeyedTable

variable {db after : InventoryDb}

def onHand (db : InventoryDb) (itemId : String) : Nat :=
  ((db.items.find itemId).map (·.quantityOnHand)).getD 0

def atLocations (db : InventoryDb) (itemId : String) : Nat :=
  Table.total (fun balance => balance.itemId = itemId) (·.quantityOnHand) db.balances.rows

def lineTotal (lines : List InventoryLine) (itemId : String) : Nat :=
  Table.total (fun line : InventoryLine => ¬ line.isEmpty ∧ line.itemId = itemId) (·.quantity) lines

theorem onHand_of_find {itemId : String} {item : InventoryItem}
    (found : db.items.find itemId = some item) : onHand db itemId = item.quantityOnHand := by
  simp [onHand, found]

theorem onHand_putItem (db : InventoryDb) (item : InventoryItem) (itemId : String) :
    onHand { db with items := db.items.put item } itemId =
      if itemId = item.id then item.quantityOnHand else onHand db itemId := by
  simp only [onHand, find_put]
  split <;> rfl

theorem onHand_congr (same : after.items = db.items) (itemId : String) :
    onHand after itemId = onHand db itemId := by
  simp only [onHand, same]

theorem atLocations_congr (same : after.balances = db.balances) (itemId : String) :
    atLocations after itemId = atLocations db itemId := by
  simp only [atLocations, same]

theorem balanceQuantity_congr (same : after.balances = db.balances)
    (itemId locationCode : String) : balanceQuantity after itemId locationCode = balanceQuantity db itemId locationCode := by
  simp only [balanceQuantity, same]

theorem atLocations_putBalance (db : InventoryDb) (itemId locationCode : String) (quantityOnHand : Nat)
    (wanted : String) :
    atLocations (db.withBalance itemId locationCode quantityOnHand) wanted +
        (if itemId = wanted then balanceQuantity db itemId locationCode else 0) =
      atLocations db wanted + if itemId = wanted then quantityOnHand else 0 := by
  have counted : (db.balances.find (itemId, locationCode)).elim 0
      (fun old => if old.itemId = wanted then old.quantityOnHand else 0) =
        if itemId = wanted then balanceQuantity db itemId locationCode else 0 := by
    unfold balanceQuantity
    cases found : db.balances.find (itemId, locationCode) with
    | none => simp
    | some old =>
      have own : old.itemId = itemId := congrArg Prod.fst (find_eq_some _ |>.mp found).2
      simp [own]
  rw [← counted]
  exact db.balances.total_put { itemId, locationCode, quantityOnHand }

theorem balanceQuantity_putBalance (db : InventoryDb) (itemId locationCode wanted other : String) (quantityOnHand : Nat) :
    balanceQuantity (db.withBalance itemId locationCode quantityOnHand) wanted other =
      if wanted = itemId ∧ other = locationCode then quantityOnHand else balanceQuantity db wanted other := by
  simp only [balanceQuantity, InventoryDb.withBalance, find_put, Prod.mk.injEq]
  split <;> rfl

section Statements

variable {db after : InventoryDb} {itemId : String}

structure StockChanged (db after : InventoryDb) (itemId : String) (next : Nat → Option Nat)
    (mutation : InventoryStockMutation) : Prop where
  known : ∃ item, db.items.find itemId = some item ∧ item.storageLocation = mutation.item.storageLocation
  named : mutation.item.itemName = itemNameOf db itemId
  before : onHand db itemId = mutation.beforeQuantity
  changed : next mutation.beforeQuantity = some mutation.afterQuantity
  item : mutation.item.id = itemId ∧ mutation.item.quantityOnHand = mutation.afterQuantity
  stored : after = { db with items := db.items.put mutation.item }

theorem changeItemStock_ok {next : Nat → Option Nat} {cost : InventoryItem → Int × Option String}
    {mutation : InventoryStockMutation}
    (ran : (changeItemStock itemId next cost).run db = .ok (some mutation, after)) :
    StockChanged db after itemId next mutation := by
  simp only [changeItemStock, run_bind_ok, run_current_ok] at ran
  obtain ⟨_, _, ⟨rfl, rfl⟩, ran⟩ := ran
  split at ran
  · cases (run_pure_ok.mp ran).1
  · next item found =>
    split at ran
    · cases (run_pure_ok.mp ran).1
    · next quantity changed =>
      simp only [run_bind_ok, run_write_ok, run_pure_ok, Option.some.injEq] at ran
      obtain ⟨_, _, rfl, rfl, rfl⟩ := ran
      have own : item.id = itemId := (find_eq_some _ |>.mp found).2
      exact ⟨⟨item, found, rfl⟩, by simp [itemNameOf, found], onHand_of_find found, changed, ⟨own, rfl⟩, rfl⟩

namespace StockChanged

variable {next : Nat → Option Nat} {mutation : InventoryStockMutation}
  (changed : StockChanged db after itemId next mutation)

include changed

theorem onHand_eq (wanted : String) :
    onHand after wanted = if wanted = itemId then mutation.afterQuantity else onHand db wanted := by
  rw [changed.stored, onHand_putItem, changed.item.1, changed.item.2]

theorem balances_eq : after.balances = db.balances := by
  rw [changed.stored]

end StockChanged

theorem incrementItemLocationBalance_ok {locationCode : String} {quantity : Nat} {result : Unit}
    (ran : (incrementItemLocationBalance itemId locationCode quantity).run db = .ok (result, after)) :
    after.items = db.items ∧ ∀ wanted,
      atLocations after wanted = atLocations db wanted + if itemId = wanted then quantity else 0 := by
  simp only [incrementItemLocationBalance, putBalance, run_bind_ok, run_current_ok, run_write_ok] at ran
  obtain ⟨_, _, ⟨rfl, rfl⟩, rfl⟩ := ran
  refine ⟨rfl, fun wanted => ?_⟩
  have moved := atLocations_putBalance db itemId locationCode (balanceQuantity db itemId locationCode + quantity) wanted
  split at moved <;> simp only [*, if_true, if_false] at moved ⊢ <;> omega

theorem transferItemBalance_ok {source destination : String} {quantity : Nat} {moved : InventoryLocationTransfer}
    (ran : (transferItemBalance itemId source destination quantity).run db = .ok (some moved, after)) :
    quantity ≤ balanceQuantity db itemId source ∧
      after = (db.withBalance itemId source (balanceQuantity db itemId source - quantity)).withBalance itemId destination
        (balanceQuantity db itemId destination + quantity) := by
  simp only [transferItemBalance, run_bind_ok, run_current_ok] at ran
  obtain ⟨_, _, ⟨rfl, rfl⟩, ran⟩ := ran
  split at ran
  · cases (run_pure_ok.mp ran).1
  · next row found =>
    have own : balanceQuantity db itemId source = row.quantityOnHand := by simp [balanceQuantity, found]
    split at ran
    · next enough =>
      simp only [putBalance, run_bind_ok, run_write_ok, run_pure_ok] at ran
      obtain ⟨_, _, rfl, _, _, rfl, -, rfl⟩ := ran
      exact ⟨own ▸ enough, by rw [own]⟩
    · cases (run_pure_ok.mp ran).1

end Statements

def RequestsOnly (db after : InventoryDb) : Prop :=
  after = { db with requests := after.requests, reservations := after.reservations, backorders := after.backorders }

namespace RequestsOnly

variable {first second third : InventoryDb}

theorem refl (db : InventoryDb) : RequestsOnly db db := rfl

theorem trans (before : RequestsOnly first second) (later : RequestsOnly second third) : RequestsOnly first third := by
  refine Eq.trans later ?_
  rw [before]

theorem items (only : RequestsOnly first second) : second.items = first.items := by rw [only]

theorem balances (only : RequestsOnly first second) : second.balances = first.balances := by rw [only]

theorem movements (only : RequestsOnly first second) : second.movements = first.movements := by rw [only]

theorem purchaseOrders (only : RequestsOnly first second) : second.purchaseOrders = first.purchaseOrders := by
  rw [only]

end RequestsOnly

section Requests

variable {session after : Session InventoryDb} {requestId itemId : String} {quantity : Nat}

theorem reserveRequestLine_requestsOnly {positive : 0 < quantity} {actorUserId : Option String}
    {reservation : Option InventoryReservation}
    (ran : (reserveRequestLine requestId itemId quantity positive actorUserId).run session = .ok (reservation, after)) :
    RequestsOnly session.tables after.tables := by
  simp only [reserveRequestLine, run_bind_ok, run_onTables_ok, findItemById_ok] at ran
  obtain ⟨_, middle, read, tables, ⟨_, _, ⟨rfl, rfl⟩, ran⟩, rfl⟩ := ran
  rw [← (run_visibleTotal_ok read).1]
  split at ran
  · obtain ⟨-, rfl⟩ := run_pure_ok.mp ran
    exact rfl
  · split at ran
    · simp only [upsertReservation, run_bind_ok, run_current_ok, run_write_ok, run_pure_ok] at ran
      obtain ⟨_, _, ⟨_, _, ⟨rfl, rfl⟩, _, _, rfl, -, rfl⟩, -, rfl⟩ := ran
      exact rfl
    · obtain ⟨-, rfl⟩ := run_pure_ok.mp ran
      exact rfl

theorem setRequestStatus_requestsOnly {context : CallContext} {status : String} {notes actorUserId : Option String}
    {db last : InventoryDb} {request : Option InventoryRequest}
    (ran : (setRequestStatus context requestId status notes actorUserId).run db = .ok (request, last)) :
    RequestsOnly db last := by
  simp only [setRequestStatus, run_bind_ok, run_current_ok] at ran
  obtain ⟨_, _, ⟨rfl, rfl⟩, ran⟩ := ran
  split at ran
  · obtain ⟨-, rfl⟩ := run_pure_ok.mp ran
    exact rfl
  · simp only [run_bind_ok, run_write_ok, run_pure_ok] at ran
    obtain ⟨_, _, rfl, -, rfl⟩ := ran
    exact rfl

theorem resolveBackorder_requestsOnly {context : CallContext} {backorder : InventoryRequestBackorder} {result : Unit}
    (ran : (resolveBackorder context backorder).run session = .ok (result, after)) :
    RequestsOnly session.tables after.tables := by
  simp only [resolveBackorder, run_bind_ok] at ran
  obtain ⟨reservation, middle, reserved, ran⟩ := ran
  have first := reserveRequestLine_requestsOnly reserved
  split at ran
  · obtain ⟨-, rfl⟩ := run_pure_ok.mp ran
    exact first
  · simp only [run_bind_ok, run_onTables_ok, markRequestBackorderResolved, run_current_ok] at ran
    obtain ⟨_, _, ⟨tables, ⟨_, _, ⟨rfl, rfl⟩, marked⟩, rfl⟩, _, counted, read, ran⟩ := ran
    have second : RequestsOnly middle.tables tables := by
      split at marked
      · obtain rfl := run_write_ok.mp marked
        exact rfl
      · exact absurd marked run_fail_ok
    have same := (run_visibleTotal_ok read).1
    refine first.trans (second.trans ?_)
    split at ran
    · simp only [run_bind_ok, run_onTables_ok, run_pure_ok] at ran
      obtain ⟨_, _, ⟨last, set, rfl⟩, -, rfl⟩ := ran
      have third := setRequestStatus_requestsOnly set
      rwa [same] at third
    · obtain ⟨-, rfl⟩ := run_pure_ok.mp ran
      rw [same]
      exact rfl

theorem resolveBackordersForReceivedItem_requestsOnly {context : CallContext} {result : Unit}
    (ran : (resolveBackordersForReceivedItem context itemId).run session = .ok (result, after)) :
    RequestsOnly session.tables after.tables := by
  simp only [resolveBackordersForReceivedItem, listOpenRequestBackordersForItem, run_bind_ok, run_onTables_ok,
    run_current_ok, run_pure_ok] at ran
  obtain ⟨_, _, ⟨_, ⟨_, _, ⟨rfl, rfl⟩, rfl, rfl⟩, rfl⟩, _, last, resolved, -, rfl⟩ := ran
  have kept := mapM_induction (motive := fun _ other => RequestsOnly session.tables other.tables) resolved (.refl _)
    fun _ _ _ _ _ before step => before.trans (resolveBackorder_requestsOnly step)
  exact kept

theorem requestInStatus_ok {status message : String} {db after : InventoryDb}
    (ran : (requestInStatus requestId status message).run db = .ok (result, after)) :
    db.requests.find requestId = some result ∧ result.status = status ∧ db = after := by
  simp only [requestInStatus, findRequestByIdForUpdate, run_bind_ok, run_current_ok, run_pure_ok, required_ok,
    run_failIf_ok, not_not] at ran
  obtain ⟨_, _, ⟨_, _, ⟨rfl, rfl⟩, rfl, rfl⟩, _, _, ⟨found, rfl⟩, _, _, ⟨same, rfl⟩, rfl, rfl⟩ := ran
  exact ⟨found, same, rfl⟩

theorem approveLine_requestsOnly {line : InventoryLine} {backordered : Bool}
    (ran : (approveLine context requestId line).run session = .ok (backordered, later)) :
    RequestsOnly session.tables later.tables := by
  unfold approveLine at ran
  split at ran
  · obtain ⟨-, rfl⟩ := run_pure_ok.mp ran
    exact rfl
  · obtain ⟨reservation, middle, reserved, ran⟩ := run_bind_ok.mp ran
    have first := reserveRequestLine_requestsOnly reserved
    split at ran
    · obtain ⟨-, rfl⟩ := run_pure_ok.mp ran
      exact first
    · simp only [recordRequestBackorder, run_bind_ok, run_onTables_ok, run_current_ok, run_failIf_ok, run_write_ok,
        run_pure_ok] at ran
      obtain ⟨_, _, ⟨_, ⟨_, _, ⟨rfl, rfl⟩, _, _, ⟨-, rfl⟩, _, _, rfl, -, rfl⟩, rfl⟩, -, rfl⟩ := ran
      exact first.trans rfl

theorem approveRequest_requestsOnly {dto : UpdateWorkflowStatus}
    (ran : (approveRequest context requestId dto).run session = .ok (result, later)) :
    RequestsOnly session.tables later.tables := by
  simp only [approveRequest, run_bind_ok, run_onTables_ok, required_ok] at ran
  obtain ⟨request, _, ⟨_, checked, rfl⟩, lines, middle, approved, _, ⟨_, _, set, -, rfl⟩, rfl⟩ := ran
  obtain ⟨-, -, rfl⟩ := requestInStatus_ok checked
  have kept := mapM_induction (motive := fun _ other => RequestsOnly session.tables other.tables) approved (.refl _)
    fun _ _ _ _ _ before step => before.trans (approveLine_requestsOnly step)
  exact kept.trans (setRequestStatus_requestsOnly set)

end Requests

end ShuleHub.Inventory

/-! The operations on the inventory of a school as the events of its runs. -/

namespace ShuleHub.Inventory

open Transaction Snapshots

inductive InventoryOperation where
  | createItem (dto : CreateInventoryItem)
  | updateItem (itemId : String) (dto : UpdateInventoryItem)
  | adjustItemStock (itemId : String) (dto : AdjustStock)
  | issueDepartmentStock (dto : CreateStockIssue)
  | receiveSupplierStock (dto : CreateStockReceipt)
  | createPurchaseOrder (dto : CreatePurchaseOrder)
  | updatePurchaseOrderStatus (purchaseOrderId : String) (dto : UpdateWorkflowStatus)
  | createRequest (dto : CreateInventoryRequest)
  | updateRequestStatus (requestId : String) (dto : UpdateWorkflowStatus)
  | createTransfer (dto : CreateTransfer)
  | updateTransferStatus (transferId : String) (dto : UpdateWorkflowStatus)
  | createIncident (dto : CreateIncident)
  | postStockCount (dto : PostStockCount)

structure InventoryCall where
  context : CallContext
  operation : InventoryOperation

def discard {A : Type} (action : InventorySession A) : InventorySession Unit := do
  let _ ← action
  return ()

def perform (call : InventoryCall) : InventorySession Unit :=
  match call.operation with
  | .createItem dto => discard (onTables (createItem call.context dto))
  | .updateItem itemId dto => discard (onTables (updateItem itemId dto))
  | .adjustItemStock itemId dto => discard (adjustItemStock call.context itemId dto)
  | .issueDepartmentStock dto => discard (issueDepartmentStock call.context dto)
  | .receiveSupplierStock dto => discard (receiveSupplierStock call.context dto)
  | .createPurchaseOrder dto => discard (onTables (createPurchaseOrder call.context dto))
  | .updatePurchaseOrderStatus purchaseOrderId dto =>
    discard (updatePurchaseOrderStatus call.context purchaseOrderId dto)
  | .createRequest dto => discard (onTables (createRequest call.context dto))
  | .updateRequestStatus requestId dto => discard (updateRequestStatus call.context requestId dto)
  | .createTransfer dto => discard (onTables (createTransfer call.context dto))
  | .updateTransferStatus transferId dto => discard (updateTransferStatus call.context transferId dto)
  | .createIncident dto => discard (onTables (createIncident call.context dto))
  | .postStockCount dto => discard (onTables (postStockCount call.context dto))

def applyCall (db : InventoryDb) (call : InventoryCall) : InventoryDb := (settle perform ⟨call, []⟩ db).1

@[simp] theorem discard_ok {A : Type} {action : InventorySession A} {session after : Session InventoryDb}
    {result : Unit} :
    (discard action).run session = .ok (result, after) ↔ ∃ value, action.run session = .ok (value, after) := by
  simp [discard]

end ShuleHub.Inventory
