import ShuleHub.Runtime
import ShuleHub.Lib.KeyedTable
import ShuleHub.Lib.Transaction

/-! The inventory of one school: its items with what is on hand, what lies at each location, the movements, and the
orders, requests and transfers that move stock. -/

namespace ShuleHub.Inventory

open Transaction

/-- A row of `inventory_items`. The quantity is a `Nat` by the check of the table; prices are in cents. -/
structure InventoryItem where
  id : String
  itemName : String
  sku : String
  categoryId : Option String
  unit : String
  quantityOnHand : Nat
  supplierId : Option String
  unitPrice : Int
  reorderLevel : Nat
  storageLocation : Option String
  notes : Option String
  status : String
  isArchived : Bool

structure InventoryItemBalance where
  itemId : String
  locationCode : String
  quantityOnHand : Nat

structure InventoryLocation where
  code : String
  name : String
  status : String
deriving DecidableEq

structure InventoryStockMovement where
  itemId : String
  movementType : String
  quantity : Nat
  unitCost : Int
  reference : Option String
  beforeQuantity : Option Nat
  afterQuantity : Option Nat
  department : Option String
  counterparty : Option String
  batchNumber : Option String
  expiryDate : Option String
  submissionId : Option String
  actorUserId : Option String
  notes : Option String

/-- A line of an order, a request or a transfer, as the `lines` of its row keep it. -/
structure InventoryLine where
  itemId : String
  itemName : String
  quantity : Nat
  unitPrice : Int
deriving DecidableEq

structure PurchaseOrder where
  id : String
  poNumber : String
  supplierId : String
  status : String
  expectedDeliveryDate : Option String
  orderedAt : String
  receivedAt : Option Int
  totalAmount : Int
  lines : List InventoryLine
  notes : Option String
  createdByUserId : Option String
deriving DecidableEq

structure InventoryRequest where
  id : String
  requestNumber : String
  department : String
  requestedBy : String
  status : String
  neededBy : Option String
  priority : String
  lines : List InventoryLine
  notes : Option String
  approvedByUserId : Option String
  fulfilledAt : Option Int

inductive ReservationStatus where
  | reserved
  | fulfilled
  | cancelled
deriving DecidableEq

structure InventoryReservation where
  requestId : String
  itemId : String
  quantity : Nat
  status : ReservationStatus
  reservedByUserId : Option String
  positive : 0 < quantity

inductive BackorderStatus where
  | «open»
  | resolved
  | cancelled
deriving DecidableEq

/-- A row of `inventory_request_backorders`, one for each request, item and status. -/
structure InventoryRequestBackorder where
  requestId : String
  itemId : String
  requestedQuantity : Nat
  reservedQuantity : Nat
  backorderedQuantity : Nat
  status : BackorderStatus
  positive : 0 < requestedQuantity ∧ 0 < backorderedQuantity

/-- A row of `inventory_transfers`; `createTransfer`, which makes them all, compares the locations. -/
structure InventoryTransfer where
  id : String
  transferNumber : String
  fromLocation : String
  toLocation : String
  status : String
  requestedBy : String
  lines : List InventoryLine
  notes : Option String
  apart : JsText.toUpperCase fromLocation ≠ JsText.toUpperCase toLocation
deriving DecidableEq

structure InventoryIncident where
  incidentNumber : String
  itemId : String
  incidentType : String
  quantity : Nat
  reason : String
  responsibleDepartment : String
  costImpact : Int
  status : String
  notes : Option String

structure StockCountSnapshotLine where
  itemId : String
  itemName : String
  locationCode : Option String
  expectedQuantity : Nat
  countedQuantity : Nat
  varianceQuantity : Int

structure StockCountSnapshot where
  snapshotNumber : String
  locationCode : Option String
  countedAt : Option String
  countedByUserId : Option String
  status : String
  lines : List StockCountSnapshotLine
  varianceCount : Nat
  notes : Option String

structure InventoryDb where
  items : KeyedTable InventoryItem String (·.id)
  balances : KeyedTable InventoryItemBalance (String × String) fun balance => (balance.itemId, balance.locationCode)
  locations : KeyedTable InventoryLocation String (·.code)
  movements : List InventoryStockMovement
  purchaseOrders : KeyedTable PurchaseOrder String (·.id)
  requests : KeyedTable InventoryRequest String (·.id)
  reservations : KeyedTable InventoryReservation (String × String × ReservationStatus) fun reservation =>
    (reservation.requestId, reservation.itemId, reservation.status)
  backorders : KeyedTable InventoryRequestBackorder (String × String × BackorderStatus) fun backorder =>
    (backorder.requestId, backorder.itemId, backorder.status)
  transfers : KeyedTable InventoryTransfer String (·.id)
  incidents : KeyedTable InventoryIncident String (·.incidentNumber)
  stockCounts : KeyedTable StockCountSnapshot String (·.snapshotNumber)

def InventoryDb.empty : InventoryDb where
  items := .empty
  balances := .empty
  locations := .empty
  movements := []
  purchaseOrders := .empty
  requests := .empty
  reservations := .empty
  backorders := .empty
  transfers := .empty
  incidents := .empty
  stockCounts := .empty

abbrev InventoryTransaction := Transaction InventoryDb Exception

/-- What a call takes from outside: the user, the clock, the generated id and the numbers of `buildNumber`, which reads
the clock again where a call builds a second one. -/
structure CallContext where
  actorUserId : Option String
  now : Int
  today : String
  newId : String
  buildNumber : String → String
  buildSecondNumber : String → String

def nullableText (value : Option String) : Option String := readString value

def requireText (value message : String) : Except Exception String :=
  if JsText.trim value = "" then .error (.badRequest message) else .ok (JsText.trim value)

def required {A : Type} (result : Option A) (error : Exception) : InventoryTransaction A :=
  match result with
  | some value => return value
  | none => fail error

def findItemById (itemId : String) : InventoryTransaction (Option InventoryItem) := do
  let db ← current
  return db.items.find itemId

def itemNotFound (itemId : String) : Exception := .notFound s!"Inventory item \"{itemId}\" was not found"

def recordStockMovement (movement : InventoryStockMovement) : InventoryTransaction Unit :=
  write fun db => { db with movements := db.movements ++ [movement] }

def findActiveLocationByCodeOrName (location : String) : InventoryTransaction (Option InventoryLocation) := do
  let db ← current
  return db.locations.rows.find? fun row =>
    row.status = "active" && (row.code = JsText.toUpperCase (JsText.trim location) || row.name = JsText.trim location)

def assertActiveInventoryLocation (location label : String) : InventoryTransaction Unit := do
  let activeLocation ← findActiveLocationByCodeOrName location
  failIf (activeLocation = none) (.badRequest s!"{label} location must be an active inventory location")

def assertOptionalStorageLocation (storageLocation : Option String) : InventoryTransaction Unit :=
  match storageLocation with
  | none => return ()
  | some location => assertActiveInventoryLocation location "Storage"

section Reads

variable {db after : InventoryDb} {result : Unit}

@[simp] theorem required_ok {A : Type} {found : Option A} {error : Exception} {value : A} :
    (required found error).run db = .ok (value, after) ↔ found = some value ∧ db = after := by
  cases found with
  | none =>
    constructor
    · intro failed
      exact absurd failed run_fail_ok
    · rintro ⟨absent, -⟩
      cases absent
  | some found => simp [required]

@[simp] theorem findItemById_ok {itemId : String} {item : Option InventoryItem} :
    (findItemById itemId).run db = .ok (item, after) ↔ db.items.find itemId = item ∧ db = after := by
  simp [findItemById, and_comm]

@[simp] theorem recordStockMovement_ok {movement : InventoryStockMovement} :
    (recordStockMovement movement).run db = .ok (result, after) ↔
      { db with movements := db.movements ++ [movement] } = after := by
  simp [recordStockMovement]

theorem assertActiveInventoryLocation_ok {location label : String}
    (checked : (assertActiveInventoryLocation location label).run db = .ok (result, after)) : db = after := by
  simp only [assertActiveInventoryLocation, findActiveLocationByCodeOrName, run_bind_ok, run_current_ok, run_pure_ok,
    run_failIf_ok] at checked
  obtain ⟨_, _, ⟨_, _, ⟨rfl, rfl⟩, -, rfl⟩, -, rfl⟩ := checked
  rfl

theorem assertOptionalStorageLocation_ok {storageLocation : Option String}
    (checked : (assertOptionalStorageLocation storageLocation).run db = .ok (result, after)) : db = after := by
  cases storageLocation with
  | none => exact (run_pure_ok.mp checked).2
  | some location => exact assertActiveInventoryLocation_ok checked

end Reads

end ShuleHub.Inventory
