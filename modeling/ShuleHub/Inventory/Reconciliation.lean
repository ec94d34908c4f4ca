import ShuleHub.Inventory.Quantities

/-! The stock reconciliation report: which operations keep what is on hand of an item equal to what lies at its
locations. -/

namespace ShuleHub.Inventory

open Runs Transaction Snapshots KeyedTable

variable {after : InventoryDb} (db : InventoryDb)

structure StockReconciliationRow where
  itemId : String
  itemName : String
  sku : String
  itemQuantityOnHand : Nat
  locationQuantityOnHand : Nat
  varianceQuantity : Int
  status : String

def reconciliationRow (item : InventoryItem) : StockReconciliationRow where
  itemId := item.id
  itemName := item.itemName
  sku := item.sku
  itemQuantityOnHand := item.quantityOnHand
  locationQuantityOnHand := atLocations db item.id
  varianceQuantity := item.quantityOnHand - atLocations db item.id
  status := if item.quantityOnHand = atLocations db item.id then "matched" else "variance"

def stockReconciliation : List StockReconciliationRow :=
  (db.items.rows.filter fun item => item.isArchived = false).map (reconciliationRow db)

/-- Every item has on hand what lies at its locations, and so the report matches. -/
def Matched : Prop :=
  (∀ item ∈ db.items.rows, item.quantityOnHand = atLocations db item.id) ∧
    ∀ row ∈ stockReconciliation db, row.status = "matched"
deriving Decidable

def Reconciled : Prop := ∀ itemId, onHand db itemId = atLocations db itemId

variable {db}

theorem Reconciled.matched (reconciled : Reconciled db) : Matched db := by
  have same : ∀ item ∈ db.items.rows, item.quantityOnHand = atLocations db item.id := by
    intro item member
    rw [← reconciled item.id, onHand_of_find (db.items.find_self member)]
  refine ⟨same, fun row member => ?_⟩
  obtain ⟨item, kept, rfl⟩ := List.mem_map.mp member
  exact if_pos (same item (List.mem_filter.mp kept).1)

theorem Reconciled.congr (reconciled : Reconciled db) (items : after.items = db.items)
    (balances : after.balances = db.balances) : Reconciled after := by
  intro itemId
  rw [onHand_congr items, atLocations_congr balances, reconciled]

structure Received (db after : InventoryDb) (itemId : String) (quantity : Nat) : Prop where
  onHand : ∀ wanted, onHand after wanted = onHand db wanted + if itemId = wanted then quantity else 0
  atLocations : ∀ wanted, atLocations after wanted = atLocations db wanted + if itemId = wanted then quantity else 0

theorem Reconciled.received {itemId : String} {quantity : Nat} (reconciled : Reconciled db)
    (received : Received db after itemId quantity) : Reconciled after := by
  intro wanted
  rw [received.onHand, received.atLocations, reconciled]

section Receipts

variable {itemId requestId : String} {quantity : Nat}
  {db : InventoryDb} {context : CallContext} {dto : CreateStockReceipt} {result : PurchaseOrder}
  {notes : Option String} {purchaseOrderId status : String}

theorem storeReceived_received {after : InventoryDb} {cost : InventoryItem → Int × Option String} {error : Exception}
    {movement : InventoryStockMutation → InventoryStockMovement} {mutation : InventoryStockMutation}
    (ran : (do
      let received ← changeItemStock itemId (fun onHand => some (onHand + quantity)) cost
      storeReceived received error quantity movement).run db = .ok (mutation, after)) :
    Received db after itemId quantity := by
  simp only [storeReceived, run_bind_ok, required_ok, recordStockMovement_ok, run_pure_ok] at ran
  obtain ⟨_, middle, changed, mutation, _, ⟨rfl, rfl⟩, _, _, rfl, _, _, stored, rfl, rfl⟩ := ran
  have change := changeItemStock_ok changed
  obtain ⟨items, balances⟩ := incrementItemLocationBalance_ok stored
  have added := Option.some.inj change.changed
  rw [change.item.1] at balances
  refine ⟨fun wanted => ?_, fun wanted => ?_⟩
  · rw [onHand_congr items]
    change onHand middle wanted = _
    rw [change.onHand_eq, ← added, ← change.before]
    by_cases same : wanted = itemId
    · simp [same]
    · simp [same, Ne.symm same]
  · rw [balances]
    congr 1
    exact atLocations_congr change.balances_eq wanted

structure SameStock (db after : InventoryDb) : Prop where
  items : after.items = db.items
  balances : after.balances = db.balances

variable {session after : Session InventoryDb}

theorem Reconciled.requestsOnly {after : InventoryDb} (reconciled : Reconciled db) (only : RequestsOnly db after) :
    Reconciled after :=
  reconciled.congr only.items only.balances

theorem Reconciled.sameStock {after : InventoryDb} (reconciled : Reconciled db) (same : SameStock db after) :
    Reconciled after :=
  reconciled.congr same.items same.balances

theorem receiveLine_reconciled {line : StockReceiptLine}
    {result : StockTransactionLine} (ran : (receiveLine context dto line).run session = .ok (result, after))
    (reconciled : Reconciled session.tables) : Reconciled after.tables := by
  simp only [receiveLine, run_bind_ok, run_onTables_ok, run_failIf_ok, run_lift_ok, run_pure_ok] at ran
  obtain ⟨mutation, _, ⟨tables, ⟨_, _, ⟨-, rfl⟩, _, _, ⟨-, rfl⟩, received⟩, rfl⟩, _, _, resolved, -, rfl⟩ := ran
  have stored := storeReceived_received (run_bind_ok.mpr received)
  exact (reconciled.received stored).requestsOnly (resolveBackordersForReceivedItem_requestsOnly resolved)

theorem receiveSupplierStock_reconciled
    {result : StockTransactionResponse} (ran : (receiveSupplierStock context dto).run session = .ok (result, after))
    (reconciled : Reconciled session.tables) : Reconciled after.tables := by
  simp only [receiveSupplierStock, run_bind_ok] at ran
  obtain ⟨seen, middle, read, ran⟩ := ran
  rw [← (run_snapshot_ok read).1] at reconciled
  split at ran
  · obtain ⟨-, rfl⟩ := run_pure_ok.mp ran
    exact reconciled
  · simp only [receiveStock, run_bind_ok, run_onTables_ok, run_failIf_ok, run_pure_ok] at ran
    obtain ⟨_, _, ⟨_, ⟨-, rfl⟩, rfl⟩, _, _, ⟨_, ⟨-, rfl⟩, rfl⟩, _, _, lines, -, rfl⟩ := ran
    exact mapM_induction (motive := fun _ other => Reconciled other.tables) lines reconciled
      fun _ _ _ _ _ before step => receiveLine_reconciled step before

theorem receiveOrderLine_reconciled {purchaseOrder : PurchaseOrder}
    {line : InventoryLine} {result : Unit}
    (ran : (receiveOrderLine context purchaseOrder notes line).run session = .ok (result, after))
    (reconciled : Reconciled session.tables) : Reconciled after.tables := by
  unfold receiveOrderLine at ran
  split at ran
  · obtain ⟨-, rfl⟩ := run_pure_ok.mp ran
    exact reconciled
  · simp only [run_bind_ok, run_onTables_ok] at ran
    obtain ⟨_, _, ⟨tables, received, rfl⟩, resolved⟩ := ran
    have stored := storeReceived_received (run_bind_ok.mpr received)
    exact (reconciled.received stored).requestsOnly (resolveBackordersForReceivedItem_requestsOnly resolved)

theorem setPurchaseOrderStatus_only {after : InventoryDb}
    (ran : (setPurchaseOrderStatus context purchaseOrderId status notes).run db = .ok (result, after)) :
    after = { db with purchaseOrders := after.purchaseOrders } := by
  simp only [setPurchaseOrderStatus, findPurchaseOrderByIdForUpdate, run_bind_ok, run_current_ok, run_pure_ok,
    required_ok, run_write_ok] at ran
  obtain ⟨_, _, ⟨_, _, ⟨rfl, rfl⟩, rfl, rfl⟩, _, _, ⟨-, rfl⟩, _, _, rfl, -, rfl⟩ := ran
  rfl

theorem setPurchaseOrderStatus_sameStock {after : InventoryDb}
    (ran : (setPurchaseOrderStatus context purchaseOrderId status notes).run db = .ok (result, after)) :
    SameStock db after := by
  have only := setPurchaseOrderStatus_only ran
  exact ⟨by rw [only], by rw [only]⟩

theorem updatePurchaseOrderStatus_reconciled
    {dto : UpdateWorkflowStatus}
    (ran : (updatePurchaseOrderStatus context purchaseOrderId dto).run session = .ok (result, after))
    (reconciled : Reconciled session.tables) : Reconciled after.tables := by
  unfold updatePurchaseOrderStatus at ran
  split at ran
  · simp only [receivePurchaseOrder, approvedPurchaseOrder, findPurchaseOrderByIdForUpdate, run_bind_ok,
      run_onTables_ok, run_current_ok, run_pure_ok, required_ok, run_failIf_ok] at ran
    obtain ⟨purchaseOrder, _, ⟨_, ⟨_, _, ⟨_, _, ⟨rfl, rfl⟩, rfl, rfl⟩, _, _, ⟨-, rfl⟩, _, _, ⟨-, rfl⟩, -, rfl⟩, rfl⟩,
      _, middle, lines, tables, set, rfl⟩ := ran
    have received := mapM_induction (motive := fun _ other => Reconciled other.tables) lines reconciled
      fun _ _ _ _ _ before step => receiveOrderLine_reconciled step before
    exact received.sameStock (setPurchaseOrderStatus_sameStock set)
  · obtain ⟨tables, set, rfl⟩ := run_onTables_ok.mp ran
    exact reconciled.sameStock (setPurchaseOrderStatus_sameStock set)

end Receipts

section Items

variable {db after : InventoryDb} {context : CallContext}
  {item : InventoryItem} {dto : CreateInventoryItem} {itemId : String} {session later : Session InventoryDb}

theorem insertItem_ok {result : Unit} (ran : (insertItem item).run db = .ok (result, after)) :
    onHand db item.id = 0 ∧ after.balances = db.balances ∧ after.reservations = db.reservations ∧
      ∀ wanted, onHand after wanted = if wanted = item.id then item.quantityOnHand else onHand db wanted := by
  simp only [insertItem, run_bind_ok, run_current_ok, run_failIf_ok] at ran
  obtain ⟨_, _, ⟨rfl, rfl⟩, _, _, ⟨-, rfl⟩, ran⟩ := ran
  split at ran
  · next items inserted =>
    obtain rfl := run_write_ok.mp ran
    obtain ⟨fresh, rfl⟩ := (tryInsert_eq_some _).mp inserted
    have unknown : onHand db item.id = 0 := by
      simp [onHand, (find_eq_none db.items).mpr fresh]
    refine ⟨unknown, rfl, rfl, fun wanted => ?_⟩
    simp only [onHand]
    split
    · next same => rw [same, find_insert, Option.map_some, Option.getD_some]
    · next differs => rw [find_insert_other db.items differs]
  · exact absurd ran run_fail_ok

theorem newItem_quantity (made : newItem context dto = .ok item) :
    item.quantityOnHand = dto.quantity := by
  simp only [newItem, Outcome.bind_ok, Outcome.pure_ok] at made
  obtain ⟨_, -, _, -, _, -, rfl⟩ := made
  rfl

theorem createItem_reconciled
    (ran : (createItem context dto).run db = .ok (item, after)) (reconciled : Reconciled db) : Reconciled after := by
  simp only [createItem, run_bind_ok, run_lift_ok] at ran
  obtain ⟨_, _, checked, made, _, ⟨created, rfl⟩, _, middle, inserted, ran⟩ := ran
  obtain rfl := assertOptionalStorageLocation_ok checked
  obtain ⟨unknown, balances, -, quantities⟩ := insertItem_ok inserted
  have opening := newItem_quantity created
  have located (wanted : String) : atLocations middle wanted = onHand db wanted := by
    rw [atLocations_congr balances, reconciled]
  split at ran
  · simp only [run_bind_ok, recordStockMovement_ok, run_pure_ok] at ran
    obtain ⟨_, _, rfl, _, _, stored, -, rfl⟩ := ran
    obtain ⟨items, added⟩ := incrementItemLocationBalance_ok stored
    intro wanted
    rw [onHand_congr items, added]
    change onHand middle wanted = atLocations middle wanted + _
    rw [quantities, located, opening]
    by_cases same : wanted = made.id
    · simp [same, unknown]
    · simp [same, Ne.symm same]
  · next none =>
    obtain ⟨-, rfl⟩ := run_pure_ok.mp ran
    intro wanted
    rw [quantities, located, opening]
    split
    · next same =>
      rw [same, unknown]
      omega
    · rfl

theorem updateItem_ok {dto : UpdateInventoryItem}
    (ran : (updateItem itemId dto).run db = .ok (item, after)) :
    after = { db with items := after.items } ∧ ∀ wanted, onHand after wanted = onHand db wanted := by
  simp only [updateItem, run_bind_ok, run_lift_ok, findItemById_ok, required_ok, run_current_ok, run_failIf_ok,
    run_write_ok, run_pure_ok] at ran
  obtain ⟨_, _, checked, itemName, _, ⟨-, rfl⟩, sku, _, ⟨-, rfl⟩, unit, _, ⟨-, rfl⟩, _, _, ⟨rfl, rfl⟩, stored, _,
    ⟨found, rfl⟩, _, _, ⟨rfl, rfl⟩, _, _, ⟨-, rfl⟩, _, _, rfl, -, rfl⟩ := ran
  obtain rfl := assertOptionalStorageLocation_ok checked
  refine ⟨rfl, fun wanted => ?_⟩
  rw [onHand_putItem]
  have kept : onHand db stored.id = stored.quantityOnHand := by
    rw [(find_eq_some _ |>.mp found).2]
    exact onHand_of_find found
  split
  · next same =>
    have same : wanted = stored.id := same
    rw [same]
    exact kept.symm
  · rfl

theorem updateItem_reconciled {dto : UpdateInventoryItem}
    (ran : (updateItem itemId dto).run db = .ok (item, after)) (reconciled : Reconciled db) : Reconciled after := by
  obtain ⟨only, same⟩ := updateItem_ok ran
  intro wanted
  rw [same, atLocations_congr (by rw [only])]
  exact reconciled wanted

theorem StockChanged.reconciled {next : Nat → Option Nat} {mutation : InventoryStockMutation}
    (changed : StockChanged db after itemId next mutation) (same : mutation.afterQuantity = onHand db itemId)
    (reconciled : Reconciled db) : Reconciled after := by
  intro wanted
  rw [changed.onHand_eq, atLocations_congr changed.balances_eq, ← reconciled]
  split
  · next own => rw [own, same]
  · rfl

structure Alone (session : Session InventoryDb) : Prop where
  committed : session.committed = session.tables
  snapshots : session.snapshots = []

theorem Alone.snapshot {seen : InventoryDb} (alone : Alone session)
    (read : (snapshot : InventorySession InventoryDb).run session = .ok (seen, later)) :
    seen = session.tables ∧ session = later := by
  simp only [Snapshots.snapshot, Transaction.run, alone.snapshots] at read
  cases read
  exact ⟨alone.committed, rfl⟩

theorem adjustItemStock_reconciled {dto : AdjustStock} (alone : Alone session)
    (same : ∀ item next, session.tables.items.find itemId = some item →
      calculateNextQuantity item.quantityOnHand dto = .ok next → next = item.quantityOnHand)
    (ran : (adjustItemStock context itemId dto).run session = .ok (item, later))
    (reconciled : Reconciled session.tables) : Reconciled later.tables := by
  simp only [adjustItemStock, run_bind_ok, run_onTables_ok, required_ok, run_lift_ok, recordStockMovement_ok,
    run_pure_ok] at ran
  obtain ⟨seen, _, read, _, ⟨stored, _, ⟨found, rfl⟩, next, _, ⟨calculated, rfl⟩, _, _, written, mutation, _,
    ⟨rfl, rfl⟩, _, _, rfl, -, rfl⟩, rfl⟩ := ran
  obtain ⟨rfl, rfl⟩ := alone.snapshot read
  have change := changeItemStock_ok written
  have quantity : mutation.afterQuantity = onHand session.tables itemId := by
    rw [← Option.some.inj change.changed, onHand_of_find found]
    exact same stored next found calculated
  exact (change.reconciled quantity reconciled).congr rfl rfl

end Items

section Transfers

variable {db after : InventoryDb} {context : CallContext}
  {transfer : InventoryTransfer} {notes : Option String} {transferId : String}

theorem transferItemBalance_reconciled {itemId source destination : String} {quantity : Nat}
    {moved : InventoryLocationTransfer} (apart : source ≠ destination)
    (ran : (transferItemBalance itemId source destination quantity).run db = .ok (some moved, after))
    (reconciled : Reconciled db) : Reconciled after := by
  obtain ⟨enough, stored⟩ := transferItemBalance_ok ran
  intro wanted
  have left := atLocations_putBalance db itemId source (balanceQuantity db itemId source - quantity) wanted
  have arrived := atLocations_putBalance (db.withBalance itemId source (balanceQuantity db itemId source - quantity))
    itemId destination (balanceQuantity db itemId destination + quantity) wanted
  have untouched : balanceQuantity (db.withBalance itemId source (balanceQuantity db itemId source - quantity)) itemId
      destination = balanceQuantity db itemId destination := by
    rw [balanceQuantity_putBalance, if_neg fun same => apart same.2.symm]
  rw [untouched, ← stored] at arrived
  have before := reconciled wanted
  have kept : onHand after wanted = onHand db wanted := onHand_congr (by rw [stored]; rfl) wanted
  rw [kept, before]
  by_cases own : itemId = wanted
  · simp only [own, if_true] at left arrived enough
    omega
  · simp only [own, if_false] at left arrived
    omega

theorem moveLines_reconciled {direction : Direction}
    {result : Unit} (apart : direction.source transfer ≠ direction.destination transfer)
    (ran : (moveLines direction context transfer notes).run db = .ok (result, after)) (reconciled : Reconciled db) :
    Reconciled after := by
  simp only [moveLines, run_bind_ok, run_pure_ok] at ran
  obtain ⟨_, _, fromActive, _, _, toActive, _, _, moved, -, rfl⟩ := ran
  obtain rfl := assertActiveInventoryLocation_ok fromActive
  obtain rfl := assertActiveInventoryLocation_ok toActive
  refine mapM_induction (motive := fun _ other => Reconciled other) moved reconciled
    fun line _ middle _ last before step => ?_
  unfold moveLine at step
  split at step
  · obtain ⟨-, rfl⟩ := run_pure_ok.mp step
    exact before
  · simp only [run_bind_ok, findItemById_ok, required_ok, recordStockMovement_ok] at step
    obtain ⟨_, _, ⟨-, rfl⟩, _, _, ⟨-, rfl⟩, _, _, carried, _, _, ⟨rfl, rfl⟩, rfl⟩ := step
    exact (transferItemBalance_reconciled apart carried before).congr rfl rfl

theorem setTransferStatus_sameStock {status : String}
    (ran : (setTransferStatus transferId status notes).run db = .ok (transfer, after)) : SameStock db after := by
  simp only [setTransferStatus, run_bind_ok, run_current_ok, required_ok, run_write_ok, run_pure_ok] at ran
  obtain ⟨_, _, ⟨rfl, rfl⟩, _, _, ⟨-, rfl⟩, _, _, rfl, -, rfl⟩ := ran
  exact ⟨rfl, rfl⟩

theorem updateTransferStatus_reconciled {dto : UpdateWorkflowStatus}
    {session later : Session InventoryDb} {result : InventoryTransfer}
    (ran : (updateTransferStatus context transferId dto).run session = .ok (result, later))
    (reconciled : Reconciled session.tables) : Reconciled later.tables := by
  unfold updateTransferStatus at ran
  split at ran
  · simp only [completeTransfer, seenTransfer, run_bind_ok, run_onTables_ok, required_ok] at ran
    obtain ⟨transfer, _, ⟨_, _, read, _, ⟨-, rfl⟩, rfl⟩, _, ⟨_, _, moved, set⟩, rfl⟩ := ran
    rw [← (run_snapshot_ok read).1] at reconciled
    exact (moveLines_reconciled transfer.distinct moved reconciled).sameStock (setTransferStatus_sameStock set)
  · split at ran
    · simp only [cancelTransfer, seenTransfer, run_bind_ok, run_onTables_ok, required_ok] at ran
      obtain ⟨transfer, _, ⟨_, _, read, _, ⟨-, rfl⟩, rfl⟩, _, ran, rfl⟩ := ran
      rw [← (run_snapshot_ok read).1] at reconciled
      split at ran
      · obtain ⟨_, _, moved, set⟩ := run_bind_ok.mp ran
        exact (moveLines_reconciled transfer.distinct.symm moved reconciled).sameStock (setTransferStatus_sameStock set)
      · exact reconciled.sameStock (setTransferStatus_sameStock ran)
    · obtain ⟨tables, set, rfl⟩ := run_onTables_ok.mp ran
      exact reconciled.sameStock (setTransferStatus_sameStock set)

end Transfers

section Counts

variable {db after : InventoryDb} {context : CallContext} {itemId : String} {countedQuantity : Nat}
  {locationCode : Option String} {result : StockCountResult} {dto : PostStockCount}

theorem applyLocationStockCount_reconciled {locationCode : String}
    (ran : (applyLocationStockCount locationCode itemId countedQuantity).run db = .ok (result, after))
    (reconciled : Reconciled db) : Reconciled after := by
  simp only [applyLocationStockCount, setItemLocationBalanceFromCount, putBalance, run_bind_ok, run_current_ok,
    run_write_ok, run_pure_ok] at ran
  obtain ⟨_, _, ⟨_, _, ⟨rfl, rfl⟩, _, _, rfl, rfl, rfl⟩, ran⟩ := ran
  have counted (wanted : String) := atLocations_putBalance db itemId locationCode countedQuantity wanted
  have kept (wanted : String) : onHand (db.withBalance itemId locationCode countedQuantity) wanted = onHand db wanted :=
    onHand_congr rfl wanted
  split at ran
  · next unchanged =>
    simp only [run_bind_ok, findItemById_ok, required_ok, run_pure_ok] at ran
    obtain ⟨_, _, ⟨-, rfl⟩, _, _, ⟨-, rfl⟩, -, rfl⟩ := ran
    intro wanted
    have moved := counted wanted
    rw [kept, reconciled]
    by_cases own : itemId = wanted
    · subst own
      simp only [if_true] at moved
      omega
    · simp only [own, if_false] at moved
      omega
  · simp only [run_bind_ok, required_ok, run_pure_ok] at ran
    obtain ⟨_, _, written, mutation, _, ⟨rfl, rfl⟩, -, rfl⟩ := ran
    have change := changeItemStock_ok written
    intro wanted
    have moved := counted wanted
    have varied := change.changed
    rw [addedVariance] at varied
    split at varied
    · next enough =>
      have varied := Option.some.inj varied
      rw [← change.before, kept, reconciled] at varied enough
      rw [change.onHand_eq, atLocations_congr change.balances_eq, kept, reconciled]
      by_cases own : wanted = itemId
      · subst own
        simp only [if_true] at moved ⊢
        omega
      · simp only [own, Ne.symm own, if_false] at moved ⊢
        omega
    · cases varied

theorem applyItemStockCount_reconciled (same : countedQuantity = onHand db itemId)
    (ran : (applyItemStockCount itemId countedQuantity).run db = .ok (result, after)) (reconciled : Reconciled db) :
    Reconciled after ∧ ∀ wanted, onHand after wanted = onHand db wanted := by
  simp only [applyItemStockCount, run_bind_ok, required_ok, run_pure_ok] at ran
  obtain ⟨_, _, written, mutation, _, ⟨rfl, rfl⟩, -, rfl⟩ := ran
  have change := changeItemStock_ok written
  have quantity : mutation.afterQuantity = onHand db itemId := (Option.some.inj change.changed).symm.trans same
  refine ⟨change.reconciled quantity reconciled, fun wanted => ?_⟩
  rw [change.onHand_eq]
  split
  · next own => rw [own, quantity]
  · rfl

theorem countLine_ok {notes : Option String} {line : StockCountLine} {result : StockCountSnapshotLine}
    (ran : (countLine context locationCode notes line).run db = .ok (result, after)) :
    ∃ counted middle, (applyStockCount locationCode line.itemId line.countedQuantity).run db = .ok (counted, middle) ∧
      after.items = middle.items ∧ after.balances = middle.balances ∧ after.reservations = middle.reservations := by
  simp only [countLine, run_bind_ok, findItemById_ok, required_ok] at ran
  obtain ⟨_, _, ⟨-, rfl⟩, _, _, ⟨-, rfl⟩, counted, middle, applied, ran⟩ := ran
  refine ⟨counted, middle, applied, ?_⟩
  split at ran
  · simp only [run_bind_ok, recordStockMovement_ok, run_pure_ok] at ran
    obtain ⟨_, _, rfl, -, rfl⟩ := ran
    exact ⟨rfl, rfl, rfl⟩
  · obtain ⟨-, rfl⟩ := run_pure_ok.mp ran
    exact ⟨rfl, rfl, rfl⟩

theorem assertCountLocation_ok {result : Unit}
    (checked : (assertCountLocation locationCode).run db = .ok (result, after)) : db = after := by
  cases locationCode with
  | none => exact (run_pure_ok.mp checked).2
  | some code => exact assertActiveInventoryLocation_ok checked

theorem postStockCount_ok {result : StockCountSnapshot}
    (ran : (postStockCount context dto).run db = .ok (result, after)) :
    ∃ lines middle, (dto.lines.mapM (countLine context (nullableText dto.locationCode) dto.notes)).run db =
        .ok (lines, middle) ∧
      after.items = middle.items ∧ after.balances = middle.balances ∧ after.reservations = middle.reservations := by
  simp only [postStockCount, insertStockCount, run_bind_ok, run_current_ok, run_pure_ok] at ran
  obtain ⟨_, _, located, lines, middle, counted, _, _, ⟨_, _, ⟨rfl, rfl⟩, stored⟩, -, rfl⟩ := ran
  obtain rfl := assertCountLocation_ok located
  refine ⟨lines, _, counted, ?_⟩
  split at stored
  · obtain rfl := run_write_ok.mp stored
    exact ⟨rfl, rfl, rfl⟩
  · exact absurd stored run_fail_ok

theorem postStockCount_reconciled {result : StockCountSnapshot}
    (same : nullableText dto.locationCode = none → ∀ line ∈ dto.lines, line.countedQuantity = onHand db line.itemId)
    (ran : (postStockCount context dto).run db = .ok (result, after)) (reconciled : Reconciled db) :
    Reconciled after := by
  obtain ⟨_, _, counted, items, balances, -⟩ := postStockCount_ok ran
  cases code : nullableText dto.locationCode with
  | some locationCode =>
    rw [code] at counted
    have kept := mapM_induction (motive := fun _ other => Reconciled other) counted reconciled
      fun line _ middle _ last before step => by
        obtain ⟨_, _, applied, items, balances, -⟩ := countLine_ok step
        exact (applyLocationStockCount_reconciled applied before).congr items balances
    exact kept.congr items balances
  | none =>
    rw [code] at counted
    -- Each line finds the quantity that it counted, and so leaves it to the lines after it.
    have kept := mapM_induction
      (motive := fun (rest : List StockCountLine) other =>
        Reconciled other ∧ ∀ line ∈ rest, line.countedQuantity = onHand other line.itemId)
      counted ⟨reconciled, same code⟩ fun line rest middle _ last before step => by
        obtain ⟨_, stored, applied, items, balances, -⟩ := countLine_ok step
        obtain ⟨own, others⟩ := List.forall_mem_cons.mp before.2
        obtain ⟨matched, unmoved⟩ := applyItemStockCount_reconciled own applied before.1
        refine ⟨matched.congr items balances, fun other member => ?_⟩
        rw [others other member, onHand_congr items, unmoved]
    exact kept.1.congr items balances

end Counts

section Issues

variable {db after : InventoryDb} {context : CallContext}

theorem createIncident_reconciled {dto : CreateIncident} {result : InventoryIncident}
    (refused : onHand db dto.itemId < dto.quantity ∨ dto.quantity = 0)
    (ran : (createIncident context dto).run db = .ok (result, after)) (reconciled : Reconciled db) :
    Reconciled after := by
  simp only [createIncident, insertIncident, run_bind_ok, findItemById_ok, required_ok, recordStockMovement_ok,
    run_current_ok, run_pure_ok] at ran
  obtain ⟨_, _, ⟨-, rfl⟩, _, _, ⟨-, rfl⟩, _, _, written, mutation, _, ⟨rfl, rfl⟩, _, _, rfl, _, _,
    ⟨_, _, ⟨rfl, rfl⟩, stored⟩, -, rfl⟩ := ran
  have change := changeItemStock_ok written
  have taken := change.changed
  rw [withdrawn, ← change.before] at taken
  split at taken
  · next enough =>
    have quantity : mutation.afterQuantity = onHand db dto.itemId := by
      have taken := Option.some.inj taken
      omega
    have kept := change.reconciled quantity reconciled
    split at stored
    · obtain rfl := run_write_ok.mp stored
      exact kept.congr rfl rfl
    · exact absurd stored run_fail_ok
  · cases taken

theorem issueDepartmentStock_reconciled {dto : CreateStockIssue} {session later : Session InventoryDb}
    {result : StockTransactionResponse} (alone : Alone session)
    (replayed : getIdempotentStockTransaction session.tables (nullableText dto.submissionId) ≠ none ∨ dto.lines = [])
    (ran : (issueDepartmentStock context dto).run session = .ok (result, later))
    (reconciled : Reconciled session.tables) : Reconciled later.tables := by
  simp only [issueDepartmentStock, run_bind_ok] at ran
  obtain ⟨seen, _, read, ran⟩ := ran
  obtain ⟨rfl, rfl⟩ := alone.snapshot read
  split at ran
  · obtain ⟨-, rfl⟩ := run_pure_ok.mp ran
    exact reconciled
  · next fresh =>
    have empty : dto.lines = [] := replayed.resolve_left fun some => some fresh
    simp only [issueStock, empty, List.mapM_nil, run_onTables_ok, run_bind_ok, run_failIf_ok, run_pure_ok] at ran
    obtain ⟨_, ⟨_, _, ⟨-, rfl⟩, _, _, ⟨-, rfl⟩, _, _, ⟨-, rfl⟩, -, rfl⟩, rfl⟩ := ran
    exact reconciled

end Issues

section Requests

variable {session later : Session InventoryDb} {context : CallContext} {requestId : String}
  {result : InventoryRequest}
  {db after : InventoryDb} {lines : List RequestFulfillmentLine} {dto : UpdateWorkflowStatus}

theorem markRequestReservationsFulfilled_ok {done : Unit}
    (ran : (markRequestReservationsFulfilled requestId).run db = .ok (done, after)) :
    ∃ reservations, db.reservations.rows.map (fulfilled requestId) = reservations.rows ∧
      after = { db with reservations } := by
  simp only [markRequestReservationsFulfilled, run_bind_ok, run_current_ok] at ran
  obtain ⟨_, _, ⟨rfl, rfl⟩, ran⟩ := ran
  split at ran
  · next reservations changed =>
    obtain rfl := run_write_ok.mp ran
    exact ⟨reservations, (tryModify_eq_some _).mp changed, rfl⟩
  · exact absurd ran run_fail_ok

theorem issueAndClose_sameStock {request : InventoryRequest} {status : String} (empty : ∀ line ∈ lines, line.isEmpty)
    (ran : (issueAndClose context request lines status dto).run db = .ok (result, after)) : SameStock db after := by
  simp only [issueAndClose, issueRequestStockLines, run_bind_ok, run_pure_ok, required_ok] at ran
  obtain ⟨_, _, ⟨_, middle, issued, -, rfl⟩, _, _, marked, _, _, set, -, rfl⟩ := ran
  have kept := mapM_induction
    (motive := fun (rest : List RequestFulfillmentLine) other => db = other ∧ ∀ line ∈ rest, line.isEmpty)
    issued ⟨rfl, empty⟩ fun line rest other _ last before step => by
      obtain ⟨own, others⟩ := List.forall_mem_cons.mp before.2
      rw [issueRequestStockLine, if_pos own] at step
      exact ⟨before.1.trans (run_pure_ok.mp step).2, others⟩
  obtain ⟨rfl, -⟩ := kept
  obtain ⟨_, -, rfl⟩ := markRequestReservationsFulfilled_ok marked
  exact ⟨(setRequestStatus_requestsOnly set).items, (setRequestStatus_requestsOnly set).balances⟩

theorem listReserved_ok (alone : Alone session)
    (ran : (listReservedRequestLinesForUpdate requestId).run session = .ok (lines, later)) :
    lines = heldLines requestId session.tables ∧ session = later := by
  simp only [listReservedRequestLinesForUpdate, run_bind_ok, run_current_ok, run_pure_ok] at ran
  obtain ⟨_, _, ⟨rfl, rfl⟩, seen, _, read, rfl, rfl⟩ := ran
  obtain ⟨rfl, rfl⟩ := alone.snapshot read
  refine ⟨?_, rfl⟩
  have all : ((reservedRows requestId session.tables).filter fun reservation =>
      ∃ other ∈ reservedRows requestId session.tables, other.itemId = reservation.itemId) =
        reservedRows requestId session.tables := by
    refine List.filter_eq_self.mpr fun reservation member => ?_
    exact decide_eq_true ⟨reservation, member, rfl⟩
  rw [all, heldLines]

def issuedLines (db : InventoryDb) (requestId : String) (dto : UpdateWorkflowStatus) :
    List RequestFulfillmentLine :=
  match db.requests.find requestId with
  | none => []
  | some request =>
    if dto.status = "fulfilled" ∧ request.status = "approved" then linesToIssue request (heldLines requestId db)
    else if dto.status = "partially_fulfilled" ∧ request.status = "backordered" then heldLines requestId db
    else []

theorem updateRequestStatus_sameStock (alone : Alone session)
    (empty : ∀ line ∈ issuedLines session.tables requestId dto, line.isEmpty)
    (ran : (updateRequestStatus context requestId dto).run session = .ok (result, later)) :
    SameStock session.tables later.tables := by
  unfold updateRequestStatus at ran
  split at ran
  · exact ⟨(approveRequest_requestsOnly ran).items, (approveRequest_requestsOnly ran).balances⟩
  · split at ran
    · next fulfilling =>
      simp only [fulfillRequest, run_bind_ok, run_onTables_ok] at ran
      obtain ⟨request, _, ⟨_, checked, rfl⟩, lines, _, listed, _, closed, rfl⟩ := ran
      obtain ⟨found, approved, rfl⟩ := requestInStatus_ok checked
      obtain ⟨rfl, rfl⟩ := listReserved_ok alone listed
      refine issueAndClose_sameStock ?_ closed
      simpa [issuedLines, found, fulfilling, approved] using empty
    · split at ran
      · next fulfilling =>
        simp only [partiallyFulfillRequest, run_bind_ok, run_onTables_ok, run_failIf_ok] at ran
        obtain ⟨request, _, ⟨_, checked, rfl⟩, lines, _, listed, _, ⟨_, _, ⟨-, rfl⟩, closed⟩, rfl⟩ := ran
        obtain ⟨found, backordered, rfl⟩ := requestInStatus_ok checked
        obtain ⟨rfl, rfl⟩ := listReserved_ok alone listed
        refine issueAndClose_sameStock ?_ closed
        simpa [issuedLines, found, fulfilling, backordered] using empty
      · simp only [run_onTables_ok, run_bind_ok, required_ok] at ran
        obtain ⟨_, ⟨_, _, set, -, rfl⟩, rfl⟩ := ran
        exact ⟨(setRequestStatus_requestsOnly set).items, (setRequestStatus_requestsOnly set).balances⟩

end Requests

/-- The calls that leave the quantity on hand of every item where its balances are: all but those that adjust, issue
or write off stock, fulfil a request or count an item as a whole. -/
def KeepsStock (db : InventoryDb) (call : InventoryCall) : Prop :=
  match call.operation with
  | .adjustItemStock itemId dto =>
    ∀ item next, db.items.find itemId = some item → calculateNextQuantity item.quantityOnHand dto = .ok next →
      next = item.quantityOnHand
  | .issueDepartmentStock dto =>
    getIdempotentStockTransaction db (nullableText dto.submissionId) ≠ none ∨ dto.lines = []
  | .updateRequestStatus requestId dto => ∀ line ∈ issuedLines db requestId dto, line.isEmpty
  | .createIncident dto => onHand db dto.itemId < dto.quantity ∨ dto.quantity = 0
  | .postStockCount dto =>
    nullableText dto.locationCode = none → ∀ line ∈ dto.lines, line.countedQuantity = onHand db line.itemId
  | _ => True

section Creations

variable {db after : InventoryDb} {context : CallContext}

theorem createPurchaseOrder_only {dto : CreatePurchaseOrder} {result : PurchaseOrder}
    (ran : (createPurchaseOrder context dto).run db = .ok (result, after)) :
    after = { db with purchaseOrders := after.purchaseOrders } := by
  simp only [createPurchaseOrder, run_bind_ok, run_current_ok, run_failIf_ok] at ran
  obtain ⟨_, _, ⟨rfl, rfl⟩, _, _, ⟨-, rfl⟩, ran⟩ := ran
  split at ran
  · simp only [run_bind_ok, run_write_ok, run_pure_ok] at ran
    obtain ⟨_, _, rfl, -, rfl⟩ := ran
    rfl
  · exact absurd ran run_fail_ok

theorem createRequest_only {dto : CreateInventoryRequest} {result : InventoryRequest}
    (ran : (createRequest context dto).run db = .ok (result, after)) :
    after = { db with requests := after.requests } := by
  simp only [createRequest, run_bind_ok, run_current_ok, run_failIf_ok] at ran
  obtain ⟨_, _, ⟨rfl, rfl⟩, _, _, ⟨-, rfl⟩, ran⟩ := ran
  split at ran
  · simp only [run_bind_ok, run_write_ok, run_pure_ok] at ran
    obtain ⟨_, _, rfl, -, rfl⟩ := ran
    rfl
  · exact absurd ran run_fail_ok

theorem createTransfer_only {dto : CreateTransfer} {result : InventoryTransfer}
    (ran : (createTransfer context dto).run db = .ok (result, after)) :
    after = { db with transfers := after.transfers } := by
  simp only [createTransfer, run_bind_ok, run_lift_ok] at ran
  obtain ⟨fromLocation, _, ⟨-, rfl⟩, toLocation, _, ⟨-, rfl⟩, ran⟩ := ran
  split at ran
  · simp only [insertTransfer, run_bind_ok, run_lift_ok, run_current_ok, run_failIf_ok] at ran
    obtain ⟨_, _, fromActive, _, _, toActive, _, _, ⟨-, rfl⟩, _, _, ⟨rfl, rfl⟩, _, _, ⟨-, rfl⟩, ran⟩ := ran
    obtain rfl := assertActiveInventoryLocation_ok fromActive
    obtain rfl := assertActiveInventoryLocation_ok toActive
    split at ran
    · simp only [run_bind_ok, run_write_ok, run_pure_ok] at ran
      obtain ⟨_, _, rfl, -, rfl⟩ := ran
      rfl
    · exact absurd ran run_fail_ok
  · exact absurd ran run_fail_ok

end Creations

theorem applyCall_reconciled {call : InventoryCall} (reconciled : Reconciled db)
    (kept : KeepsStock db call) : Reconciled (applyCall db call) := by
  refine settle_preserves reconciled fun _ later ran => ?_
  have alone : Alone (Session.begun db []) := ⟨rfl, rfl⟩
  obtain ⟨context, operation⟩ := call
  cases operation <;> simp only [perform, discard_ok, run_onTables_ok] at ran
  case createItem dto =>
    obtain ⟨_, _, ran, rfl⟩ := ran
    exact createItem_reconciled ran reconciled
  case updateItem itemId dto =>
    obtain ⟨_, _, ran, rfl⟩ := ran
    exact updateItem_reconciled ran reconciled
  case adjustItemStock itemId dto =>
    obtain ⟨_, ran⟩ := ran
    exact adjustItemStock_reconciled alone kept ran reconciled
  case issueDepartmentStock dto =>
    obtain ⟨_, ran⟩ := ran
    exact issueDepartmentStock_reconciled alone kept ran reconciled
  case receiveSupplierStock dto =>
    obtain ⟨_, ran⟩ := ran
    exact receiveSupplierStock_reconciled ran reconciled
  case createPurchaseOrder dto =>
    obtain ⟨_, _, ran, rfl⟩ := ran
    have only := createPurchaseOrder_only ran
    exact reconciled.congr (by rw [only]; rfl) (by rw [only]; rfl)
  case updatePurchaseOrderStatus purchaseOrderId dto =>
    obtain ⟨_, ran⟩ := ran
    exact updatePurchaseOrderStatus_reconciled ran reconciled
  case createRequest dto =>
    obtain ⟨_, _, ran, rfl⟩ := ran
    have only := createRequest_only ran
    exact reconciled.congr (by rw [only]; rfl) (by rw [only]; rfl)
  case updateRequestStatus requestId dto =>
    obtain ⟨_, ran⟩ := ran
    exact reconciled.sameStock (updateRequestStatus_sameStock alone kept ran)
  case createTransfer dto =>
    obtain ⟨_, _, ran, rfl⟩ := ran
    have only := createTransfer_only ran
    exact reconciled.congr (by rw [only]; rfl) (by rw [only]; rfl)
  case updateTransferStatus transferId dto =>
    obtain ⟨_, ran⟩ := ran
    exact updateTransferStatus_reconciled ran reconciled
  case createIncident dto =>
    obtain ⟨_, _, ran, rfl⟩ := ran
    exact createIncident_reconciled kept ran reconciled
  case postStockCount dto =>
    obtain ⟨_, _, ran, rfl⟩ := ran
    exact postStockCount_reconciled kept ran reconciled

def storeContext : CallContext where
  actorUserId := some "clerk"
  now := 0
  today := "2026-01-05"
  newId := "item-1"
  buildNumber := fun kind => kind ++ "-20260105-00001"
  buildSecondNumber := fun kind => kind ++ "-20260105-00002"

def chalk : CreateInventoryItem where
  itemName := "Chalk"
  sku := "CHK"
  categoryId := none
  unit := "box"
  quantity := 10
  supplierId := none
  unitPrice := 25000
  reorderLevel := 2
  storageLocation := none
  notes := none

def chalkReceipt : CreateStockReceipt where
  supplierId := none
  supplierName := "Stationers"
  purchaseReference := "INV-7"
  submissionId := none
  lines := [{ itemId := "item-1", quantity := 5, unitCost := 24000, batchNumber := none, expiryDate := none }]
  notes := none

def chalkIssue : CreateStockIssue where
  department := "Science"
  receivedBy := "Achieng"
  submissionId := none
  lines := [{ itemId := "item-1", quantity := 3, notes := none }]
  notes := none

def openedAndReceived : List InventoryCall :=
  [⟨storeContext, .createItem chalk⟩, ⟨storeContext, .receiveSupplierStock chalkReceipt⟩]

theorem InventoryDb.empty_reconciled : Reconciled .empty := fun _ => rfl

end ShuleHub.Inventory
