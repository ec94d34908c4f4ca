import ShuleHub.Inventory.Stock

/-! Requests of the departments: what an approval reserves, what stays a backorder until stock is received, and what
a fulfilment issues. -/

namespace ShuleHub.Inventory

open Transaction Snapshots

variable (context : CallContext) (requestId : String) (request : InventoryRequest)
  (backorder : InventoryRequestBackorder) (db : InventoryDb) (itemId : String)

abbrev InventorySession := Transaction (Session InventoryDb) Exception

structure UpdateWorkflowStatus where
  status : String
  notes : Option String

variable (dto : UpdateWorkflowStatus)

def requestNotFound : Exception := .notFound s!"Inventory request \"{requestId}\" was not found"

structure CreateInventoryRequest where
  department : String
  requestedBy : String
  neededBy : Option String
  priority : Option String
  lines : List InventoryLine
  notes : Option String

def newRequest (dto : CreateInventoryRequest) : InventoryRequest where
  id := context.newId
  requestNumber := context.buildNumber "REQ"
  department := JsText.trim dto.department
  requestedBy := JsText.trim dto.requestedBy
  status := "pending"
  neededBy := dto.neededBy
  priority := (nullableText dto.priority).getD "normal"
  lines := dto.lines
  notes := nullableText dto.notes
  approvedByUserId := none
  fulfilledAt := none

def createRequest (dto : CreateInventoryRequest) : InventoryTransaction InventoryRequest := do
  let db ← current
  let request := newRequest context dto
  failIf (∃ other ∈ db.requests.rows, other.requestNumber = request.requestNumber)
    (.database "uq_inventory_requests_tenant_number")
  match db.requests.tryInsert request with
  | some requests =>
    write fun db => { db with requests }
    return request
  | none => fail (.database "inventory_requests_pkey")

def reservedQuantity (db : InventoryDb) : Nat :=
  Table.total (fun reservation => reservation.itemId = itemId ∧ reservation.status = .reserved) (·.quantity)
    db.reservations.rows

def upsertReservation (requestId itemId : String) (quantity : Nat) (positive : 0 < quantity)
    (actorUserId : Option String) : InventoryTransaction InventoryReservation := do
  let db ← current
  let held := db.reservations.find (requestId, itemId, .reserved)
  let reservation : InventoryReservation :=
    { requestId
      itemId
      quantity := (held.map (·.quantity)).getD 0 + quantity
      status := .reserved
      reservedByUserId := actorUserId <|> held.bind (·.reservedByUserId)
      positive := by omega }
  write fun db => { db with reservations := db.reservations.put reservation }
  return reservation

/-- The item row is locked when its quantity is compared; the reservations are those of the statement's snapshot. -/
def reserveRequestLine (requestId itemId : String) (quantity : Nat) (positive : 0 < quantity)
    (actorUserId : Option String) : InventorySession (Option InventoryReservation) := do
  let reserved ← visibleTotal (reservedQuantity itemId)
  onTables do
    match ← findItemById itemId with
    | none => return none
    | some item =>
      if reserved + quantity ≤ item.quantityOnHand then
        return some (← upsertReservation requestId itemId quantity positive actorUserId)
      else return none

def recordRequestBackorder (requestId itemId : String) (requestedQuantity reservedQuantity : Nat)
    (positive : 0 < requestedQuantity ∧ 0 < requestedQuantity - reservedQuantity) :
    InventoryTransaction InventoryRequestBackorder := do
  let db ← current
  failIf (db.items.find itemId = none) (.database "fk_inventory_backorders_item")
  let backorder : InventoryRequestBackorder :=
    { requestId
      itemId
      requestedQuantity
      reservedQuantity
      backorderedQuantity := requestedQuantity - reservedQuantity
      status := .open
      positive }
  write fun db => { db with backorders := db.backorders.put backorder }
  return backorder

def findRequestByIdForUpdate : InventoryTransaction (Option InventoryRequest) := do
  let db ← current
  return db.requests.find requestId

def withStatus (status : String) (notes actorUserId : Option String) (now : Int) (request : InventoryRequest) :
    InventoryRequest :=
  { request with
    status
    notes := notes <|> request.notes
    approvedByUserId :=
      if status = "approved" ∨ status = "backordered" then actorUserId <|> request.approvedByUserId
      else request.approvedByUserId
    fulfilledAt := if status = "fulfilled" then some now else request.fulfilledAt }

def setRequestStatus (requestId status : String) (notes actorUserId : Option String) :
    InventoryTransaction (Option InventoryRequest) := do
  let db ← current
  match db.requests.find requestId with
  | none => return none
  | some request =>
    let updated := withStatus status notes actorUserId context.now request
    write fun db => { db with requests := db.requests.put updated }
    return some updated

def InventoryLine.isEmpty (line : InventoryLine) : Prop := line.itemId = "" ∨ line.quantity = 0
deriving Decidable

def approveLine (line : InventoryLine) : InventorySession Bool :=
  if empty : line.isEmpty then return false
  else do
    have positive : 0 < line.quantity := Nat.pos_of_ne_zero fun zero => empty (.inr zero)
    match ← reserveRequestLine requestId line.itemId line.quantity positive context.actorUserId with
    | some _ => return false
    | none =>
      let _ ← onTables (recordRequestBackorder requestId line.itemId line.quantity 0 ⟨positive, positive⟩)
      return true

def requestInStatus (requestId status message : String) : InventoryTransaction InventoryRequest := do
  let request ← required (← findRequestByIdForUpdate requestId) (requestNotFound requestId)
  failIf (request.status ≠ status) (.badRequest message)
  return request

def approveRequest :
    InventorySession InventoryRequest := do
  let request ← onTables (requestInStatus requestId "pending" "Only pending inventory requests can be approved")
  let backordered ← request.lines.mapM (approveLine context requestId)
  onTables do
    required
      (← setRequestStatus context requestId (if backordered.any id then "backordered" else "approved")
        (nullableText dto.notes) context.actorUserId)
      (requestNotFound requestId)

structure RequestFulfillmentLine where
  itemId : String
  quantity : Nat

def reservedRows : List InventoryReservation :=
  db.reservations.rows.filter fun reservation => reservation.requestId = requestId ∧ reservation.status = .reserved

def listReservedRequestLinesForUpdate : InventorySession (List RequestFulfillmentLine) := do
  let session ← current
  let seen ← snapshot
  let locked := (reservedRows requestId session.tables).filter fun reservation =>
    ∃ other ∈ reservedRows requestId seen, other.itemId = reservation.itemId
  return locked.map fun reservation => { itemId := reservation.itemId, quantity := reservation.quantity }

def requestLinesToFulfillmentLines (lines : List InventoryLine) : List RequestFulfillmentLine :=
  lines.map fun line => { itemId := line.itemId, quantity := line.quantity }

def requestMovement (notes : Option String)
    (line : RequestFulfillmentLine) (mutation : InventoryStockMutation) : InventoryStockMovement where
  itemId := line.itemId
  movementType := "stock_issue"
  quantity := line.quantity
  unitCost := mutation.item.unitPrice
  reference := some request.requestNumber
  beforeQuantity := some mutation.beforeQuantity
  afterQuantity := some mutation.afterQuantity
  department := some request.department
  counterparty := some request.requestedBy
  batchNumber := none
  expiryDate := none
  submissionId := none
  actorUserId := context.actorUserId
  notes := notes <|> request.notes <|> some s!"Issued for {request.department}"

def RequestFulfillmentLine.isEmpty (line : RequestFulfillmentLine) : Prop := line.itemId = "" ∨ line.quantity = 0
deriving Decidable

def exceedsOnHand : Exception := .badRequest "Request fulfillment quantity exceeds quantity on hand"

def issueRequestStockLine (notes : Option String)
    (line : RequestFulfillmentLine) : InventoryTransaction Unit :=
  if line.isEmpty then return ()
  else do
    let mutation ← required (← decrementItemStock line.itemId line.quantity) exceedsOnHand
    recordStockMovement (requestMovement context request notes line mutation)

def issueRequestStockLines (lines : List RequestFulfillmentLine)
    (notes : Option String) : InventoryTransaction Unit := do
  let _ ← lines.mapM (issueRequestStockLine context request notes)
  return ()

def fulfilled (requestId : String) (reservation : InventoryReservation) : InventoryReservation :=
  if reservation.requestId = requestId ∧ reservation.status = .reserved then { reservation with status := .fulfilled }
  else reservation

/-- Refused where the request has a fulfilled reservation of one of the items from before. -/
def markRequestReservationsFulfilled : InventoryTransaction Unit := do
  let db ← current
  match db.reservations.tryModify (fulfilled requestId) with
  | some reservations => write fun db => { db with reservations }
  | none => fail (.database "uq_inventory_reservations_tenant_request_item_status")

def issueAndClose (lines : List RequestFulfillmentLine)
    (status : String) (dto : UpdateWorkflowStatus) : InventoryTransaction InventoryRequest := do
  issueRequestStockLines context request lines (nullableText dto.notes)
  markRequestReservationsFulfilled request.id
  required (← setRequestStatus context request.id status (nullableText dto.notes) none) (requestNotFound request.id)

def linesToIssue (reservedLines : List RequestFulfillmentLine) :
    List RequestFulfillmentLine :=
  if 0 < reservedLines.length then reservedLines else requestLinesToFulfillmentLines request.lines

def heldLines : List RequestFulfillmentLine :=
  (reservedRows requestId db).map fun reservation =>
    { itemId := reservation.itemId, quantity := reservation.quantity }

def fulfillRequest :
    InventorySession InventoryRequest := do
  let request ← onTables
    (requestInStatus requestId "approved" "Only approved inventory requests can be fulfilled")
  let reservedLines ← listReservedRequestLinesForUpdate requestId
  onTables (issueAndClose context request (linesToIssue request reservedLines) "fulfilled" dto)

def partiallyFulfillRequest :
    InventorySession InventoryRequest := do
  let request ← onTables
    (requestInStatus requestId "backordered" "Only backordered inventory requests can be partially fulfilled")
  let reservedLines ← listReservedRequestLinesForUpdate requestId
  onTables do
    failIf (reservedLines.length = 0) (.badRequest "No reserved stock is available for partial fulfillment")
    issueAndClose context request reservedLines "partially_fulfilled" dto

def updateRequestStatus :
    InventorySession InventoryRequest :=
  if dto.status = "approved" then approveRequest context requestId dto
  else if dto.status = "fulfilled" then fulfillRequest context requestId dto
  else if dto.status = "partially_fulfilled" then partiallyFulfillRequest context requestId dto
  else onTables do
    required (← setRequestStatus context requestId dto.status (nullableText dto.notes) none) (requestNotFound requestId)

def isOpen : Prop := backorder.status = .open
deriving Decidable

def listOpenRequestBackordersForItem : InventoryTransaction (List InventoryRequestBackorder) := do
  let db ← current
  return db.backorders.rows.filter fun backorder => backorder.itemId = itemId ∧ isOpen backorder

def resolved (backorder other : InventoryRequestBackorder) : InventoryRequestBackorder :=
  if other.requestId = backorder.requestId ∧ other.itemId = backorder.itemId ∧ isOpen other then
    { other with status := .resolved }
  else other

def markRequestBackorderResolved : InventoryTransaction Unit := do
  let db ← current
  match db.backorders.tryModify (resolved backorder) with
  | some backorders => write fun db => { db with backorders }
  | none => fail (.database "uq_inventory_backorders_tenant_request_item_status")

def openBackorders : Nat :=
  (db.backorders.rows.filter fun backorder => backorder.requestId = requestId ∧ isOpen backorder).length

def resolveBackorder : InventorySession Unit := do
  match ← reserveRequestLine backorder.requestId backorder.itemId backorder.backorderedQuantity backorder.positive.2
      context.actorUserId with
  | none => return ()
  | some _ =>
    onTables (markRequestBackorderResolved backorder)
    let remainingBackorders ← visibleTotal (openBackorders backorder.requestId)
    if remainingBackorders = 0 then
      let _ ← onTables (setRequestStatus context backorder.requestId "approved" none none)

def resolveBackordersForReceivedItem : InventorySession Unit := do
  let backorders ← onTables (listOpenRequestBackordersForItem itemId)
  let _ ← backorders.mapM (resolveBackorder context)
  return ()

end ShuleHub.Inventory
