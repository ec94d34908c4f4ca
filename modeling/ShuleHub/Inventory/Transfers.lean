import ShuleHub.Inventory.Requests

/-! Transfers of stock from one location to another. -/

namespace ShuleHub.Inventory

open Transaction Snapshots

variable (context : CallContext) (transferId : String) (dto : UpdateWorkflowStatus)

theorem InventoryTransfer.distinct (transfer : InventoryTransfer) : transfer.fromLocation ≠ transfer.toLocation :=
  fun same => transfer.apart (congrArg JsText.toUpperCase same)

structure CreateTransfer where
  fromLocation : String
  toLocation : String
  requestedBy : String
  lines : List InventoryLine
  notes : Option String

def newTransfer (dto : CreateTransfer) (fromLocation toLocation requestedBy : String)
    (apart : JsText.toUpperCase fromLocation ≠ JsText.toUpperCase toLocation) : InventoryTransfer where
  id := context.newId
  transferNumber := context.buildNumber "TRF"
  fromLocation
  toLocation
  status := "pending"
  requestedBy
  lines := dto.lines
  notes := nullableText dto.notes
  apart

def insertTransfer (transfer : InventoryTransfer) : InventoryTransaction InventoryTransfer := do
  let db ← current
  failIf (∃ other ∈ db.transfers.rows, other.transferNumber = transfer.transferNumber)
    (.database "uq_inventory_transfers_tenant_number")
  match db.transfers.tryInsert transfer with
  | some transfers =>
    write fun db => { db with transfers }
    return transfer
  | none => fail (.database "inventory_transfers_pkey")

def createTransfer (dto : CreateTransfer) : InventoryTransaction InventoryTransfer := do
  let fromLocation ← requireText dto.fromLocation "Source location is required"
  let toLocation ← requireText dto.toLocation "Destination location is required"
  if apart : JsText.toUpperCase fromLocation ≠ JsText.toUpperCase toLocation then do
    assertActiveInventoryLocation fromLocation "Source"
    assertActiveInventoryLocation toLocation "Destination"
    let requestedBy ← requireText dto.requestedBy "Requester is required"
    insertTransfer (newTransfer context dto fromLocation toLocation requestedBy apart)
  else fail (.badRequest "Source and destination locations must be different")

def transferNotFound : Exception :=
  .notFound s!"Inventory transfer \"{transferId}\" was not found"

def setTransferStatus (transferId status : String) (notes : Option String) : InventoryTransaction InventoryTransfer := do
  let db ← current
  let transfer ← required (db.transfers.find transferId) (transferNotFound transferId)
  let updated := { transfer with status, notes := notes <|> transfer.notes }
  write fun db => { db with transfers := db.transfers.put updated }
  return updated

/-- What completing a transfer and reversing a completed one differ in. -/
structure Direction where
  source : InventoryTransfer → String
  destination : InventoryTransfer → String
  movementType : String
  missing : String
  exceeded : String
  note : String

variable (direction : Direction)

def completion : Direction where
  source := (·.fromLocation)
  destination := (·.toLocation)
  movementType := "transfer"
  missing := "transfer completion"
  exceeded := "Transfer quantity exceeds source location balance"
  note := "Transferred"

def reversal : Direction where
  source := (·.toLocation)
  destination := (·.fromLocation)
  movementType := "transfer_reversal"
  missing := "transfer reversal"
  exceeded := "Transfer reversal quantity exceeds destination location balance"
  note := "Reversed transfer"

def transferMovement (context : CallContext) (transfer : InventoryTransfer)
    (notes : Option String) (line : InventoryLine) (item : InventoryItem) (moved : InventoryLocationTransfer) :
    InventoryStockMovement where
  itemId := line.itemId
  movementType := direction.movementType
  quantity := line.quantity
  unitCost := item.unitPrice
  reference := some transfer.transferNumber
  beforeQuantity := some moved.sourceBeforeQuantity
  afterQuantity := some moved.sourceAfterQuantity
  department := some (direction.source transfer)
  counterparty := some (direction.destination transfer)
  batchNumber := none
  expiryDate := none
  submissionId := none
  actorUserId := context.actorUserId
  notes := notes <|> some s!"{direction.note} from {transfer.fromLocation} to {transfer.toLocation}"

def moveLine (context : CallContext) (transfer : InventoryTransfer) (notes : Option String)
    (line : InventoryLine) : InventoryTransaction Unit :=
  if line.isEmpty then return ()
  else do
    let item ← required (← findItemById line.itemId)
      (.notFound s!"Inventory item \"{line.itemId}\" was not found for {direction.missing}")
    let moved ← required
      (← transferItemBalance line.itemId (direction.source transfer) (direction.destination transfer) line.quantity)
      (.badRequest direction.exceeded)
    recordStockMovement (transferMovement direction context transfer notes line item moved)

def moveLines (context : CallContext) (transfer : InventoryTransfer) (notes : Option String) :
    InventoryTransaction Unit := do
  assertActiveInventoryLocation transfer.fromLocation "Source"
  assertActiveInventoryLocation transfer.toLocation "Destination"
  let _ ← transfer.lines.mapM (moveLine direction context transfer notes)
  return ()

def seenTransfer : InventorySession InventoryTransfer := do
  let seen ← snapshot
  onTables (required (seen.transfers.find transferId) (transferNotFound transferId))

def completeTransfer :
    InventorySession InventoryTransfer := do
  let transfer ← seenTransfer transferId
  onTables do
    moveLines completion context transfer (nullableText dto.notes)
    setTransferStatus transferId dto.status (nullableText dto.notes)

def cancelTransfer :
    InventorySession InventoryTransfer := do
  let transfer ← seenTransfer transferId
  onTables do
    if transfer.status = "completed" then moveLines reversal context transfer (nullableText dto.notes)
    setTransferStatus transferId "cancelled" (nullableText dto.notes)

def updateTransferStatus :
    InventorySession InventoryTransfer :=
  if dto.status = "completed" then completeTransfer context transferId dto
  else if dto.status = "cancelled" then cancelTransfer context transferId dto
  else onTables (setTransferStatus transferId dto.status (nullableText dto.notes))

end ShuleHub.Inventory
