import ShuleHub.Inventory.Tables
import ShuleHub.Lib.Snapshots

/-! The stock of an item and of its locations: the statements that change them and the operations that receive,
issue, adjust and count stock. -/

namespace ShuleHub.Inventory

open Transaction Snapshots

variable (context : CallContext) (itemId : String) (item : InventoryItem) (db : InventoryDb)

structure InventoryStockMutation where
  item : InventoryItem
  beforeQuantity : Nat
  afterQuantity : Nat

def changeItemStock (next : Nat → Option Nat) (cost : InventoryItem → Int × Option String) :
    InventoryTransaction (Option InventoryStockMutation) := do
  let db ← current
  match db.items.find itemId with
  | none => return none
  | some item =>
    match next item.quantityOnHand with
    | none => return none
    | some quantityOnHand =>
      let changed := { item with quantityOnHand, unitPrice := (cost item).1, supplierId := (cost item).2 }
      write fun db => { db with items := db.items.put changed }
      return some { item := changed, beforeQuantity := item.quantityOnHand, afterQuantity := quantityOnHand }

def sameCost : Int × Option String := (item.unitPrice, item.supplierId)

def addedVariance (variance : Int) (quantity : Nat) : Option Nat :=
  if 0 ≤ quantity + variance then some (quantity + variance).toNat else none

def withdrawn (quantity onHand : Nat) : Option Nat := if quantity ≤ onHand then some (onHand - quantity) else none

def updateItemStock (nextQuantity : Nat) : InventoryTransaction (Option InventoryStockMutation) :=
  changeItemStock itemId (fun _ => some nextQuantity) sameCost

def setItemStockFromCount (countedQuantity : Nat) :
    InventoryTransaction (Option InventoryStockMutation) :=
  changeItemStock itemId (fun _ => some countedQuantity) sameCost

def adjustItemStockByVariance (variance : Int) :
    InventoryTransaction (Option InventoryStockMutation) :=
  changeItemStock itemId (addedVariance variance) sameCost

def decrementItemStock (quantity : Nat) : InventoryTransaction (Option InventoryStockMutation) :=
  changeItemStock itemId (withdrawn quantity) sameCost

def incrementItemStock (quantity : Nat) : InventoryTransaction (Option InventoryStockMutation) :=
  changeItemStock itemId (fun onHand => some (onHand + quantity)) sameCost

def incrementItemStockWithCost (quantity : Nat) (unitCost : Int) (supplierId : Option String) :
    InventoryTransaction (Option InventoryStockMutation) :=
  changeItemStock itemId (fun onHand => some (onHand + quantity)) fun item =>
    (unitCost, supplierId <|> item.supplierId)

def balanceQuantity (itemId locationCode : String) : Nat :=
  ((db.balances.find (itemId, locationCode)).map (·.quantityOnHand)).getD 0

def InventoryDb.withBalance (itemId locationCode : String) (quantityOnHand : Nat) : InventoryDb :=
  { db with balances := db.balances.put { itemId, locationCode, quantityOnHand } }

def putBalance (itemId locationCode : String) (quantityOnHand : Nat) : InventoryTransaction Unit :=
  write fun db => db.withBalance itemId locationCode quantityOnHand

def incrementItemLocationBalance (itemId locationCode : String) (quantity : Nat) : InventoryTransaction Unit := do
  let db ← current
  putBalance itemId locationCode (balanceQuantity db itemId locationCode + quantity)

structure InventoryLocationTransfer where
  sourceBeforeQuantity : Nat
  sourceAfterQuantity : Nat
  destinationBeforeQuantity : Nat
  destinationAfterQuantity : Nat

/-- One statement: it moves nothing unless the source has a balance of at least `quantity`. -/
def transferItemBalance (itemId fromLocation toLocation : String) (quantity : Nat) :
    InventoryTransaction (Option InventoryLocationTransfer) := do
  let db ← current
  match db.balances.find (itemId, fromLocation) with
  | none => return none
  | some source =>
    if quantity ≤ source.quantityOnHand then do
      let before := balanceQuantity db itemId toLocation
      putBalance itemId fromLocation (source.quantityOnHand - quantity)
      putBalance itemId toLocation (before + quantity)
      return some
        { sourceBeforeQuantity := source.quantityOnHand
          sourceAfterQuantity := source.quantityOnHand - quantity
          destinationBeforeQuantity := before
          destinationAfterQuantity := before + quantity }
    else return none

def setItemLocationBalanceFromCount (itemId locationCode : String) (countedQuantity : Nat) :
    InventoryTransaction (Nat × Nat) := do
  let db ← current
  putBalance itemId locationCode countedQuantity
  return (balanceQuantity db itemId locationCode, countedQuantity)

def InventoryItem.receivingLocation : String :=
  (item.storageLocation.filter (· ≠ "")).getD "Unassigned"

structure CreateInventoryItem where
  itemName : String
  sku : String
  categoryId : Option String
  unit : String
  quantity : Nat
  supplierId : Option String
  unitPrice : Int
  reorderLevel : Nat
  storageLocation : Option String
  notes : Option String

def newItem (dto : CreateInventoryItem) : Except Exception InventoryItem := do
  let itemName ← requireText dto.itemName "Item name is required"
  let sku ← requireText dto.sku "SKU is required"
  let unit ← requireText dto.unit "Unit is required"
  return {
    id := context.newId
    itemName
    sku
    categoryId := nullableText dto.categoryId
    unit
    quantityOnHand := dto.quantity
    supplierId := nullableText dto.supplierId
    unitPrice := dto.unitPrice
    reorderLevel := dto.reorderLevel
    storageLocation := nullableText dto.storageLocation
    notes := nullableText dto.notes
    status := "active"
    isArchived := false }

def duplicateSku : Exception := .conflict "inventory SKU already exists in this tenant"

def insertItem : InventoryTransaction Unit := do
  let db ← current
  failIf (∃ other ∈ db.items.rows, other.sku = item.sku) duplicateSku
  match db.items.tryInsert item with
  | some items => write fun db => { db with items }
  | none => fail (.database "inventory_items_pkey")

def openingMovement (quantity : Nat) : InventoryStockMovement where
  itemId := item.id
  movementType := "stock_in"
  quantity
  unitCost := item.unitPrice
  reference := some "OPENING-STOCK"
  beforeQuantity := none
  afterQuantity := none
  department := none
  counterparty := none
  batchNumber := none
  expiryDate := none
  submissionId := none
  actorUserId := context.actorUserId
  notes := some "Opening stock captured during item creation"

def createItem (dto : CreateInventoryItem) : InventoryTransaction InventoryItem := do
  assertOptionalStorageLocation (nullableText dto.storageLocation)
  let item ← newItem context dto
  insertItem item
  if 0 < dto.quantity then
    recordStockMovement (openingMovement context item dto.quantity)
    incrementItemLocationBalance item.id item.receivingLocation dto.quantity
  return item

/-- The outer `Option` of a field says whether the update names it. -/
structure UpdateInventoryItem where
  itemName : Option String
  sku : Option String
  categoryId : Option String
  unit : Option String
  supplierId : Option String
  unitPrice : Option Int
  reorderLevel : Option Nat
  storageLocation : Option String
  notes : Option String
  status : Option String
  isArchived : Option Bool

def optionalRequiredText (value : Option String) (message : String) : Except Exception (Option String) :=
  match value with
  | none => .ok none
  | some text => (requireText text message).map some

def replaced (value : Option String) (stored : Option String) : Option String :=
  match value with
  | none => stored
  | some text => nullableText (some text)

def updatedItem (dto : UpdateInventoryItem) (itemName sku unit : Option String) (item : InventoryItem) :
    InventoryItem :=
  { item with
    itemName := itemName.getD item.itemName
    sku := sku.getD item.sku
    categoryId := replaced dto.categoryId item.categoryId
    unit := unit.getD item.unit
    supplierId := replaced dto.supplierId item.supplierId
    unitPrice := dto.unitPrice.getD item.unitPrice
    reorderLevel := dto.reorderLevel.getD item.reorderLevel
    storageLocation := replaced dto.storageLocation item.storageLocation
    notes := replaced dto.notes item.notes
    status := (dto.status.map JsText.trim).getD item.status
    isArchived := dto.isArchived.getD item.isArchived }

def updateItem (dto : UpdateInventoryItem) : InventoryTransaction InventoryItem := do
  assertOptionalStorageLocation (nullableText dto.storageLocation)
  let itemName ← optionalRequiredText dto.itemName "Item name is required"
  let sku ← optionalRequiredText dto.sku "SKU is required"
  let unit ← optionalRequiredText dto.unit "Unit is required"
  let item ← required (← findItemById itemId) (itemNotFound itemId)
  let db ← current
  let changed := updatedItem dto itemName sku unit item
  failIf (∃ other ∈ db.items.rows, other.id ≠ itemId ∧ other.sku = changed.sku) duplicateSku
  write fun db => { db with items := db.items.put changed }
  return changed

/-- The movement type is any text: `stock_in` and `stock_out` are relative and all others absolute. -/
structure AdjustStock where
  movementType : String
  quantity : Nat
  reference : Option String
  notes : Option String

def calculateNextQuantity (quantityOnHand : Nat) (dto : AdjustStock) : Except Exception Nat :=
  if dto.movementType = "stock_in" then .ok (quantityOnHand + dto.quantity)
  else if dto.movementType = "stock_out" then
    if quantityOnHand < dto.quantity then .error (.badRequest "Stock out quantity exceeds quantity on hand")
    else .ok (quantityOnHand - dto.quantity)
  else .ok dto.quantity

def adjustmentMovement (dto : AdjustStock) :
    InventoryStockMovement where
  itemId := item.id
  movementType := dto.movementType
  quantity := dto.quantity
  unitCost := item.unitPrice
  reference := nullableText dto.reference
  beforeQuantity := none
  afterQuantity := none
  department := none
  counterparty := none
  batchNumber := none
  expiryDate := none
  submissionId := none
  actorUserId := context.actorUserId
  notes := nullableText dto.notes

def adjustItemStock (dto : AdjustStock) :
    Transaction (Session InventoryDb) Exception InventoryItem := do
  let seen ← snapshot
  onTables do
    let item ← required (seen.items.find itemId) (itemNotFound itemId)
    let nextQuantity ← calculateNextQuantity item.quantityOnHand dto
    let updated ← required (← updateItemStock itemId nextQuantity) (itemNotFound itemId)
    recordStockMovement (adjustmentMovement context item dto)
    return updated.item

structure StockTransactionLine where
  itemId : String
  itemName : String
  quantity : Nat
  beforeQuantity : Nat
  afterQuantity : Nat

structure StockTransactionResponse where
  reference : String
  idempotent : Bool
  transactionType : String
  department : Option String
  counterparty : Option String
  supplierName : Option String
  purchaseReference : Option String
  lines : List StockTransactionLine

def itemNameOf (itemId : String) : String :=
  ((db.items.find itemId).map (·.itemName)).getD ""

def repeatedLine (movement : InventoryStockMovement) : StockTransactionLine where
  itemId := movement.itemId
  itemName := itemNameOf db movement.itemId
  quantity := movement.quantity
  beforeQuantity := movement.beforeQuantity.getD 0
  afterQuantity := movement.afterQuantity.getD 0

def getIdempotentStockTransaction (submissionId : Option String) :
    Option StockTransactionResponse :=
  match submissionId with
  | none => none
  | some submission =>
    let existingMovements := db.movements.filter fun movement => movement.submissionId = some submission
    match existingMovements.head? with
    | none => none
    | some firstMovement =>
      let receipt := firstMovement.movementType = "stock_receipt"
      some
        { reference := firstMovement.reference.getD submission
          idempotent := true
          transactionType := firstMovement.movementType
          department := firstMovement.department
          counterparty := firstMovement.counterparty
          supplierName := if receipt then firstMovement.counterparty else none
          purchaseReference := if receipt then firstMovement.reference else none
          lines := existingMovements.map (repeatedLine db) }

def assertPositiveQuantity (quantity : Nat) : Except Exception Unit :=
  failIf (quantity = 0) (.badRequest "Quantity must be greater than zero")

structure StockIssueLine where
  itemId : String
  quantity : Nat
  notes : Option String

structure CreateStockIssue where
  department : String
  receivedBy : String
  submissionId : Option String
  lines : List StockIssueLine
  notes : Option String

def buildStockTransactionLine (mutation : InventoryStockMutation) (quantity : Nat) : StockTransactionLine where
  itemId := mutation.item.id
  itemName := mutation.item.itemName
  quantity
  beforeQuantity := mutation.beforeQuantity
  afterQuantity := mutation.afterQuantity

def issueMovement (dto : CreateStockIssue) (line : StockIssueLine) (item : InventoryItem)
    (mutation : InventoryStockMutation) : InventoryStockMovement where
  itemId := line.itemId
  movementType := "stock_issue"
  quantity := line.quantity
  unitCost := item.unitPrice
  reference := some (context.buildNumber "ISS")
  beforeQuantity := some mutation.beforeQuantity
  afterQuantity := some mutation.afterQuantity
  department := some (JsText.trim dto.department)
  counterparty := some (JsText.trim dto.receivedBy)
  batchNumber := none
  expiryDate := none
  submissionId := nullableText dto.submissionId
  actorUserId := context.actorUserId
  notes := nullableText line.notes <|> nullableText dto.notes <|> some s!"Issued to {JsText.trim dto.department}"

def issueLine (dto : CreateStockIssue) (line : StockIssueLine) :
    InventoryTransaction StockTransactionLine := do
  assertPositiveQuantity line.quantity
  let item ← required (← findItemById line.itemId) (itemNotFound line.itemId)
  let mutation ← required (← decrementItemStock line.itemId line.quantity)
    (.badRequest "Stock issue quantity exceeds quantity on hand")
  recordStockMovement (issueMovement context dto line item mutation)
  return buildStockTransactionLine mutation line.quantity

def issueStock (dto : CreateStockIssue) : InventoryTransaction StockTransactionResponse := do
  failIf (JsText.trim dto.department = "") (.badRequest "Department is required for stock issue")
  failIf (JsText.trim dto.receivedBy = "") (.badRequest "Receiver is required for stock issue")
  let lines ← dto.lines.mapM (issueLine context dto)
  return {
    reference := context.buildNumber "ISS"
    idempotent := false
    transactionType := "stock_issue"
    department := some (JsText.trim dto.department)
    counterparty := some (JsText.trim dto.receivedBy)
    supplierName := none
    purchaseReference := none
    lines }

def issueDepartmentStock (dto : CreateStockIssue) :
    Transaction (Session InventoryDb) Exception StockTransactionResponse := do
  let seen ← snapshot
  match getIdempotentStockTransaction seen (nullableText dto.submissionId) with
  | some existingResponse => return existingResponse
  | none => onTables (issueStock context dto)

structure CreateIncident where
  itemId : String
  incidentType : String
  quantity : Nat
  reason : String
  responsibleDepartment : String
  costImpact : Int
  notes : Option String

def damageMovement (dto : CreateIncident) (item : InventoryItem)
    (mutation : InventoryStockMutation) : InventoryStockMovement where
  itemId := dto.itemId
  movementType := "damage"
  quantity := dto.quantity
  unitCost := item.unitPrice
  reference := some (context.buildNumber "INC")
  beforeQuantity := some mutation.beforeQuantity
  afterQuantity := some mutation.afterQuantity
  department := none
  counterparty := none
  batchNumber := none
  expiryDate := none
  submissionId := none
  actorUserId := context.actorUserId
  notes := some dto.reason

def newIncident (dto : CreateIncident) : InventoryIncident where
  incidentNumber := context.buildSecondNumber "INC"
  itemId := dto.itemId
  incidentType := dto.incidentType
  quantity := dto.quantity
  reason := JsText.trim dto.reason
  responsibleDepartment := JsText.trim dto.responsibleDepartment
  costImpact := dto.costImpact
  status := "logged"
  notes := nullableText dto.notes

def insertIncident (incident : InventoryIncident) : InventoryTransaction Unit := do
  let db ← current
  match db.incidents.tryInsert incident with
  | some incidents => write fun db => { db with incidents }
  | none => fail (.database "uq_inventory_incidents_tenant_number")

def createIncident (dto : CreateIncident) : InventoryTransaction InventoryIncident := do
  let item ← required (← findItemById dto.itemId) (itemNotFound dto.itemId)
  let mutation ← required (← decrementItemStock dto.itemId dto.quantity)
    (.badRequest "Incident quantity exceeds stock on hand")
  recordStockMovement (damageMovement context dto item mutation)
  insertIncident (newIncident context dto)
  return newIncident context dto

structure StockCountLine where
  itemId : String
  countedQuantity : Nat

structure PostStockCount where
  locationCode : Option String
  countedAt : Option String
  lines : List StockCountLine
  notes : Option String

structure StockCountResult where
  item : InventoryItem
  expectedQuantity : Nat
  countedQuantity : Nat
  stockBeforeQuantity : Nat
  stockAfterQuantity : Nat

def applyItemStockCount (countedQuantity : Nat) : InventoryTransaction StockCountResult := do
  let mutation ← required (← setItemStockFromCount itemId countedQuantity) (itemNotFound itemId)
  return {
    item := mutation.item
    expectedQuantity := mutation.beforeQuantity
    countedQuantity := mutation.afterQuantity
    stockBeforeQuantity := mutation.beforeQuantity
    stockAfterQuantity := mutation.afterQuantity }

def applyLocationStockCount (locationCode itemId : String) (countedQuantity : Nat) :
    InventoryTransaction StockCountResult := do
  let (before, counted) ← setItemLocationBalanceFromCount itemId locationCode countedQuantity
  if (counted : Int) - before = 0 then do
    let item ← required (← findItemById itemId) (itemNotFound itemId)
    return {
      item
      expectedQuantity := before
      countedQuantity := counted
      stockBeforeQuantity := item.quantityOnHand
      stockAfterQuantity := item.quantityOnHand }
  else do
    let mutation ← required (← adjustItemStockByVariance itemId (counted - before))
      (.badRequest "Stock count adjustment would create negative stock")
    return {
      item := mutation.item
      expectedQuantity := before
      countedQuantity := counted
      stockBeforeQuantity := mutation.beforeQuantity
      stockAfterQuantity := mutation.afterQuantity }

def countMovement (locationCode notes : Option String) (itemId : String) (varianceQuantity : Int)
    (result : StockCountResult) : InventoryStockMovement where
  itemId
  movementType := "adjustment"
  quantity := varianceQuantity.natAbs
  unitCost := result.item.unitPrice
  reference := some (context.buildNumber "CNT")
  beforeQuantity := some result.stockBeforeQuantity
  afterQuantity := some result.stockAfterQuantity
  department := locationCode
  counterparty := none
  batchNumber := none
  expiryDate := none
  submissionId := none
  actorUserId := context.actorUserId
  notes := nullableText notes <|> some "Posted stock count variance adjustment"

def applyStockCount (locationCode : Option String) (itemId : String) (countedQuantity : Nat) :
    InventoryTransaction StockCountResult :=
  match locationCode with
  | some code => applyLocationStockCount code itemId countedQuantity
  | none => applyItemStockCount itemId countedQuantity

def countLine (locationCode notes : Option String) (line : StockCountLine) :
    InventoryTransaction StockCountSnapshotLine := do
  let item ← required (← findItemById line.itemId) (itemNotFound line.itemId)
  let result ← applyStockCount locationCode line.itemId line.countedQuantity
  let varianceQuantity : Int := result.countedQuantity - result.expectedQuantity
  if varianceQuantity ≠ 0 then
    recordStockMovement (countMovement context locationCode notes line.itemId varianceQuantity result)
  return {
    itemId := line.itemId
    itemName := item.itemName
    locationCode
    expectedQuantity := result.expectedQuantity
    countedQuantity := result.countedQuantity
    varianceQuantity }

def insertStockCount (snapshot : StockCountSnapshot) : InventoryTransaction Unit := do
  let db ← current
  match db.stockCounts.tryInsert snapshot with
  | some stockCounts => write fun db => { db with stockCounts }
  | none => fail (.database "uq_inventory_stock_counts_tenant_number")

def assertCountLocation (locationCode : Option String) : InventoryTransaction Unit :=
  match locationCode with
  | some code => assertActiveInventoryLocation code "Stock count"
  | none => return ()

def postStockCount (dto : PostStockCount) : InventoryTransaction StockCountSnapshot := do
  let locationCode := nullableText dto.locationCode
  assertCountLocation locationCode
  let lines ← dto.lines.mapM (countLine context locationCode dto.notes)
  let snapshot : StockCountSnapshot :=
    { snapshotNumber := context.buildNumber "CNT"
      locationCode
      countedAt := nullableText dto.countedAt
      countedByUserId := context.actorUserId
      status := "posted"
      lines
      varianceCount := (lines.filter fun line => line.varianceQuantity ≠ 0).length
      notes := nullableText dto.notes }
  insertStockCount snapshot
  return snapshot

end ShuleHub.Inventory
