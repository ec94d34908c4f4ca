import ShuleHub.Inventory.Requests

/-! Stock that comes in: the receipts of suppliers and the purchase orders. -/

namespace ShuleHub.Inventory

open Transaction Snapshots

variable (context : CallContext) (purchaseOrderId : String)

structure StockReceiptLine where
  itemId : String
  quantity : Nat
  unitCost : Int
  batchNumber : Option String
  expiryDate : Option String

structure CreateStockReceipt where
  supplierId : Option String
  supplierName : String
  purchaseReference : String
  submissionId : Option String
  lines : List StockReceiptLine
  notes : Option String

variable (dto : CreateStockReceipt)

def receiptMovement (line : StockReceiptLine)
    (mutation : InventoryStockMutation) : InventoryStockMovement where
  itemId := line.itemId
  movementType := "stock_receipt"
  quantity := line.quantity
  unitCost := line.unitCost
  reference := some (JsText.trim dto.purchaseReference)
  beforeQuantity := some mutation.beforeQuantity
  afterQuantity := some mutation.afterQuantity
  department := none
  counterparty := some (JsText.trim dto.supplierName)
  batchNumber := nullableText line.batchNumber
  expiryDate := nullableText line.expiryDate
  submissionId := nullableText dto.submissionId
  actorUserId := context.actorUserId
  notes := nullableText dto.notes <|> some s!"Received against {JsText.trim dto.purchaseReference}"

def storeReceived (mutation : Option InventoryStockMutation) (error : Exception) (quantity : Nat)
    (movement : InventoryStockMutation → InventoryStockMovement) : InventoryTransaction InventoryStockMutation := do
  let mutation ← required mutation error
  recordStockMovement (movement mutation)
  incrementItemLocationBalance mutation.item.id mutation.item.receivingLocation quantity
  return mutation

def receiveLine (line : StockReceiptLine) :
    InventorySession StockTransactionLine := do
  let mutation ← onTables do
    assertPositiveQuantity line.quantity
    failIf (line.unitCost < 0) (.badRequest "Unit cost must be zero or greater")
    let received ← incrementItemStockWithCost line.itemId line.quantity line.unitCost (nullableText dto.supplierId)
    storeReceived received (itemNotFound line.itemId) line.quantity (receiptMovement context dto line)
  resolveBackordersForReceivedItem context line.itemId
  return buildStockTransactionLine mutation line.quantity

def receiveStock : InventorySession StockTransactionResponse := do
  onTables (failIf (JsText.trim dto.supplierName = "") (.badRequest "Supplier name is required for stock receipt"))
  onTables (failIf (JsText.trim dto.purchaseReference = "")
    (.badRequest "Purchase reference is required for stock receipt"))
  let lines ← dto.lines.mapM (receiveLine context dto)
  return {
    reference := context.buildNumber "RCV"
    idempotent := false
    transactionType := "stock_receipt"
    department := none
    counterparty := none
    supplierName := some (JsText.trim dto.supplierName)
    purchaseReference := some (JsText.trim dto.purchaseReference)
    lines }

def receiveSupplierStock :
    InventorySession StockTransactionResponse := do
  let seen ← snapshot
  match getIdempotentStockTransaction seen (nullableText dto.submissionId) with
  | some existingResponse => return existingResponse
  | none => receiveStock context dto

structure CreatePurchaseOrder where
  supplierId : String
  expectedDeliveryDate : Option String
  lines : List InventoryLine
  notes : Option String

def newPurchaseOrder (dto : CreatePurchaseOrder) : PurchaseOrder where
  id := context.newId
  poNumber := context.buildNumber "PO"
  supplierId := dto.supplierId
  status := "pending"
  expectedDeliveryDate := dto.expectedDeliveryDate
  orderedAt := context.today
  receivedAt := none
  totalAmount := (dto.lines.map fun line => (line.quantity : Int) * line.unitPrice).sum
  lines := dto.lines
  notes := nullableText dto.notes
  createdByUserId := context.actorUserId

def createPurchaseOrder (dto : CreatePurchaseOrder) : InventoryTransaction PurchaseOrder := do
  let db ← current
  let purchaseOrder := newPurchaseOrder context dto
  failIf (∃ other ∈ db.purchaseOrders.rows, other.poNumber = purchaseOrder.poNumber)
    (.database "uq_inventory_po_tenant_number")
  match db.purchaseOrders.tryInsert purchaseOrder with
  | some purchaseOrders =>
    write fun db => { db with purchaseOrders }
    return purchaseOrder
  | none => fail (.database "inventory_purchase_orders_pkey")

def purchaseOrderNotFound : Exception :=
  .notFound s!"Purchase order \"{purchaseOrderId}\" was not found"

def findPurchaseOrderByIdForUpdate : InventoryTransaction (Option PurchaseOrder) := do
  let db ← current
  return db.purchaseOrders.find purchaseOrderId

def orderWithStatus (status : String) (notes : Option String) (now : Int) (purchaseOrder : PurchaseOrder) :
    PurchaseOrder :=
  { purchaseOrder with
    status
    notes := notes <|> purchaseOrder.notes
    receivedAt := if status = "received" then some now else purchaseOrder.receivedAt }

def setPurchaseOrderStatus (purchaseOrderId status : String) (notes : Option String) :
    InventoryTransaction PurchaseOrder := do
  let purchaseOrder ← required (← findPurchaseOrderByIdForUpdate purchaseOrderId)
    (purchaseOrderNotFound purchaseOrderId)
  let updated := orderWithStatus status notes context.now purchaseOrder
  write fun db => { db with purchaseOrders := db.purchaseOrders.put updated }
  return updated

def orderMovement (purchaseOrder : PurchaseOrder) (notes : Option String)
    (line : InventoryLine) (mutation : InventoryStockMutation) : InventoryStockMovement where
  itemId := line.itemId
  movementType := "stock_in"
  quantity := line.quantity
  unitCost := line.unitPrice
  reference := some purchaseOrder.poNumber
  beforeQuantity := some mutation.beforeQuantity
  afterQuantity := some mutation.afterQuantity
  department := none
  counterparty := none
  batchNumber := none
  expiryDate := none
  submissionId := none
  actorUserId := context.actorUserId
  notes := notes <|> some "Stock received against approved purchase order"

def receiveOrderLine (purchaseOrder : PurchaseOrder) (notes : Option String)
    (line : InventoryLine) : InventorySession Unit :=
  if line.isEmpty then return ()
  else do
    let _ ← onTables do
      let received ← incrementItemStock line.itemId line.quantity
      storeReceived received
        (.notFound s!"Inventory item \"{line.itemId}\" was not found for purchase order receipt") line.quantity
        (orderMovement context purchaseOrder notes line)
    resolveBackordersForReceivedItem context line.itemId

def approvedPurchaseOrder : InventoryTransaction PurchaseOrder := do
  let purchaseOrder ← required (← findPurchaseOrderByIdForUpdate purchaseOrderId)
    (purchaseOrderNotFound purchaseOrderId)
  failIf (purchaseOrder.status ≠ "approved")
    (.badRequest "Only approved purchase orders can be received into stock")
  return purchaseOrder

def receivePurchaseOrder (notes : Option String) :
    InventorySession PurchaseOrder := do
  let purchaseOrder ← onTables (approvedPurchaseOrder purchaseOrderId)
  let _ ← purchaseOrder.lines.mapM (receiveOrderLine context purchaseOrder (nullableText notes))
  onTables (setPurchaseOrderStatus context purchaseOrderId "received" (nullableText notes))

def updatePurchaseOrderStatus (dto : UpdateWorkflowStatus) :
    InventorySession PurchaseOrder :=
  if dto.status = "received" then receivePurchaseOrder context purchaseOrderId dto.notes
  else onTables (setPurchaseOrderStatus context purchaseOrderId dto.status (nullableText dto.notes))

end ShuleHub.Inventory
