import ShuleHub.Inventory.Reconciliation
import ShuleHub.Lib.Locking
import Mathlib.Data.List.Permutation

/-! Concurrent stock operations on one item. All statements but one change the row relative to what its lock shows
them; `adjustItemStock` reads the row first and writes what it calculated from that. -/

namespace ShuleHub.Inventory

open Runs Transaction Snapshots Locking

variable {first : Nat}

/-- What a transaction does to the row of one item: the quantities of its lines for that item, in their order. -/
inductive StockOperation where
  | adjustItemStock (dto : AdjustStock)
  | issueDepartmentStock (quantities : List Nat)
  | receiveSupplierStock (quantities : List Nat)
  | receivePurchaseOrder (quantities : List Nat)
  | fulfillRequest (quantities : List Nat)
  | createIncident (quantity : Nat)
  | countItem (counts : List Nat)
  | countLocation (variances : List Int)

variable (operation : StockOperation)

def received (quantity onHand : Nat) : Option Nat := some (onHand + quantity)

def counted (quantity _onHand : Nat) : Option Nat := some quantity

def adjusted (dto : AdjustStock) (onHand : Nat) : Option Nat := (calculateNextQuantity onHand dto).toOption

def StockOperation.statements : StockOperation → List (Nat → Option Nat)
  | .adjustItemStock dto => [adjusted dto]
  | .issueDepartmentStock quantities => quantities.map withdrawn
  | .receiveSupplierStock quantities => quantities.map received
  | .receivePurchaseOrder quantities => quantities.map received
  | .fulfillRequest quantities => quantities.map withdrawn
  | .createIncident quantity => [withdrawn quantity]
  | .countItem counts => counts.map counted
  | .countLocation variances => variances.map addedVariance

def followed (statements : List (Nat → Option Nat)) (onHand : Nat) : Option Nat :=
  statements.foldlM (fun quantity next => next quantity) onHand

def StockOperation.applied (onHand : Nat) : Option Nat :=
  followed operation.statements onHand

theorem followed_cons (next : Nat → Option Nat) (rest : List (Nat → Option Nat)) (quantity : Nat) :
    followed (next :: rest) quantity = (next quantity).bind (followed rest) := rfl

@[simp] theorem followed_singleton (next : Nat → Option Nat) (quantity : Nat) :
    followed [next] quantity = next quantity := by
  rw [followed_cons]
  cases next quantity <;> rfl

section Projections

variable {Line : Type} (concerns : Line → Prop) [DecidablePred concerns] (quantity : Line → Nat)

def quantitiesOf (lines : List Line) : List Nat := (lines.filter fun line => concerns line).map quantity

variable {concerns quantity}

theorem quantitiesOf_cons (line : Line) (lines : List Line) :
    quantitiesOf concerns quantity (line :: lines) =
      if concerns line then quantity line :: quantitiesOf concerns quantity lines
      else quantitiesOf concerns quantity lines := by
  by_cases concerned : concerns line <;> simp [quantitiesOf, concerned]

/-- Where each line acts on the item as its statement or not at all, the lines together act as the statements. -/
theorem followed_lines {State Result : Type} (measure : State → Nat) {statement : Nat → Nat → Option Nat}
    {action : Line → Transaction State Exception Result} {lines : List Line} {before after : State}
    {results : List Result} (ran : (lines.mapM action).run before = .ok (results, after))
    (each : ∀ line first result last, (action line).run first = .ok (result, last) →
      if concerns line then statement (quantity line) (measure first) = some (measure last)
      else measure last = measure first) :
    followed ((quantitiesOf concerns quantity lines).map statement) (measure before) = some (measure after) := by
  have kept := mapM_induction
    (motive := fun rest other =>
      followed ((quantitiesOf concerns quantity rest).map statement) (measure other) =
        followed ((quantitiesOf concerns quantity lines).map statement) (measure before))
    ran rfl fun line rest first result last same step => by
      rw [← same]
      have own := each line first result last step
      rw [quantitiesOf_cons]
      by_cases concerned : concerns line
      · rw [if_pos concerned] at own
        rw [if_pos concerned, List.map_cons, followed_cons, own, Option.bind_some]
      · rw [if_neg concerned] at own
        rw [if_neg concerned, own]
  exact kept.symm

end Projections

section Links

variable {db after : InventoryDb} {context : CallContext} {itemId : String}
  {result : StockTransactionResponse} {notes : Option String} {session later : Session InventoryDb}
  {countedQuantity : Nat}

theorem StockChanged.statement {changedId : String} {next : Nat → Option Nat} {mutation : InventoryStockMutation}
    (changed : StockChanged db after changedId next mutation) (itemId : String) :
    if changedId = itemId then next (onHand db itemId) = some (onHand after itemId)
    else onHand after itemId = onHand db itemId := by
  rw [changed.onHand_eq]
  split
  · next same =>
    subst same
    rw [if_pos rfl, changed.before, changed.changed]
  · next differs => rw [if_neg (Ne.symm differs)]

theorem issueStock_applied {dto : CreateStockIssue}
    (ran : (issueStock context dto).run db = .ok (result, after)) :
    (StockOperation.issueDepartmentStock
      (quantitiesOf (fun line : StockIssueLine => line.itemId = itemId) (·.quantity) dto.lines)).applied
        (onHand db itemId) = some (onHand after itemId) := by
  simp only [issueStock, run_bind_ok, run_failIf_ok, run_pure_ok] at ran
  obtain ⟨_, _, ⟨-, rfl⟩, _, _, ⟨-, rfl⟩, _, _, issued, -, rfl⟩ := ran
  refine followed_lines (fun db => onHand db itemId) issued fun line first _ last step => ?_
  simp only [issueLine, run_bind_ok, run_lift_ok, findItemById_ok, required_ok, recordStockMovement_ok,
    run_pure_ok] at step
  obtain ⟨_, _, ⟨-, rfl⟩, _, _, ⟨-, rfl⟩, _, _, ⟨-, rfl⟩, _, _, written, _, _, ⟨rfl, rfl⟩, _, _, rfl, -, rfl⟩ := step
  exact (changeItemStock_ok written).statement itemId

theorem createIncident_applied {dto : CreateIncident} {result : InventoryIncident}
    (ran : (createIncident context dto).run db = .ok (result, after)) :
    (StockOperation.createIncident (if dto.itemId = itemId then dto.quantity else 0)).applied (onHand db itemId) =
      some (onHand after itemId) := by
  simp only [createIncident, insertIncident, run_bind_ok, findItemById_ok, required_ok, recordStockMovement_ok,
    run_current_ok, run_pure_ok] at ran
  obtain ⟨_, _, ⟨-, rfl⟩, _, _, ⟨-, rfl⟩, _, _, written, _, _, ⟨rfl, rfl⟩, _, _, rfl, _, _,
    ⟨_, _, ⟨rfl, rfl⟩, stored⟩, -, rfl⟩ := ran
  have taken := (changeItemStock_ok written).statement itemId
  split at stored
  · obtain rfl := run_write_ok.mp stored
    refine (followed_singleton _ _).trans ?_
    split
    · next own => rwa [if_pos own] at taken
    · next other =>
      rw [if_neg other] at taken
      exact congrArg some taken.symm
  · exact absurd stored run_fail_ok

theorem issueRequestStockLines_applied {request : InventoryRequest} {lines : List RequestFulfillmentLine}
    {result : Unit} (ran : (issueRequestStockLines context request lines notes).run db = .ok (result, after)) :
    (StockOperation.fulfillRequest
      (quantitiesOf (fun line : RequestFulfillmentLine => ¬ line.isEmpty ∧ line.itemId = itemId) (·.quantity)
        lines)).applied (onHand db itemId) = some (onHand after itemId) := by
  simp only [issueRequestStockLines, run_bind_ok, run_pure_ok] at ran
  obtain ⟨_, _, issued, -, rfl⟩ := ran
  refine followed_lines (fun db => onHand db itemId) issued fun line first _ last step => ?_
  by_cases empty : line.isEmpty
  · rw [issueRequestStockLine, if_pos empty] at step
    rw [if_neg fun concerned => concerned.1 empty, (run_pure_ok.mp step).2]
  · simp only [issueRequestStockLine, if_neg empty, run_bind_ok, required_ok, recordStockMovement_ok] at step
    obtain ⟨_, _, written, _, _, ⟨rfl, rfl⟩, rfl⟩ := step
    simp only [empty, not_false_eq_true, true_and]
    exact (changeItemStock_ok written).statement itemId

theorem received_statement {receivedId : String} {quantity : Nat} (moved : Received db after receivedId quantity) :
    if receivedId = itemId then received quantity (onHand db itemId) = some (onHand after itemId)
    else onHand after itemId = onHand db itemId := by
  rw [moved.onHand]
  split <;> rfl

theorem receiveStock_applied {dto : CreateStockReceipt}
    (ran : (receiveStock context dto).run session = .ok (result, later)) :
    (StockOperation.receiveSupplierStock
      (quantitiesOf (fun line : StockReceiptLine => line.itemId = itemId) (·.quantity) dto.lines)).applied
        (onHand session.tables itemId) = some (onHand later.tables itemId) := by
  simp only [receiveStock, run_bind_ok, run_onTables_ok, run_failIf_ok, run_pure_ok] at ran
  obtain ⟨_, _, ⟨_, ⟨-, rfl⟩, rfl⟩, _, _, ⟨_, ⟨-, rfl⟩, rfl⟩, _, _, lines, -, rfl⟩ := ran
  refine followed_lines (fun other : Session InventoryDb => onHand other.tables itemId) lines
    fun line first _ last step => ?_
  simp only [receiveLine, run_bind_ok, run_onTables_ok, run_failIf_ok, run_lift_ok, run_pure_ok] at step
  obtain ⟨_, _, ⟨_, ⟨_, _, ⟨-, rfl⟩, _, _, ⟨-, rfl⟩, stored⟩, rfl⟩, _, _, resolved, -, rfl⟩ := step
  have moved := storeReceived_received (run_bind_ok.mpr stored)
  rw [onHand_congr (resolveBackordersForReceivedItem_requestsOnly resolved).items]
  exact received_statement moved

theorem receivePurchaseOrder_applied {purchaseOrderId : String} {result : PurchaseOrder}
    (ran : (receivePurchaseOrder context purchaseOrderId notes).run session = .ok (result, later)) :
    ∃ purchaseOrder, session.tables.purchaseOrders.find purchaseOrderId = some purchaseOrder ∧
      (StockOperation.receivePurchaseOrder
        (quantitiesOf (fun line : InventoryLine => ¬ line.isEmpty ∧ line.itemId = itemId) (·.quantity)
          purchaseOrder.lines)).applied (onHand session.tables itemId) = some (onHand later.tables itemId) := by
  simp only [receivePurchaseOrder, approvedPurchaseOrder, findPurchaseOrderByIdForUpdate, run_bind_ok,
    run_onTables_ok, run_current_ok, run_pure_ok, required_ok, run_failIf_ok] at ran
  obtain ⟨_, _, ⟨_, ⟨_, _, ⟨_, _, ⟨rfl, rfl⟩, rfl, rfl⟩, purchaseOrder, _, ⟨found, rfl⟩, _, _, ⟨-, rfl⟩, rfl, rfl⟩,
    rfl⟩, _, middle, lines, tables, set, rfl⟩ := ran
  refine ⟨purchaseOrder, found, ?_⟩
  rw [onHand_congr (setPurchaseOrderStatus_sameStock set).items]
  refine followed_lines (fun other : Session InventoryDb => onHand other.tables itemId) lines
    fun line first _ last step => ?_
  by_cases empty : line.isEmpty
  · rw [receiveOrderLine, if_pos empty] at step
    rw [if_neg fun concerned => concerned.1 empty, (run_pure_ok.mp step).2]
  · simp only [receiveOrderLine, if_neg empty, run_bind_ok, run_onTables_ok] at step
    obtain ⟨_, _, ⟨_, stored, rfl⟩, resolved⟩ := step
    have moved := storeReceived_received (run_bind_ok.mpr stored)
    rw [onHand_congr (resolveBackordersForReceivedItem_requestsOnly resolved).items]
    simp only [empty, not_false_eq_true, true_and]
    exact received_statement moved

theorem applyItemStockCount_applied {result : StockCountResult}
    (ran : (applyItemStockCount itemId countedQuantity).run db = .ok (result, after)) :
    (StockOperation.countItem [countedQuantity]).applied (onHand db itemId) = some (onHand after itemId) := by
  simp only [applyItemStockCount, run_bind_ok, required_ok, run_pure_ok] at ran
  obtain ⟨_, _, written, _, _, ⟨rfl, rfl⟩, -, rfl⟩ := ran
  have set := (changeItemStock_ok written).statement itemId
  rw [if_pos rfl] at set
  exact (followed_singleton _ _).trans set

theorem applyLocationStockCount_applied {locationCode : String} {result : StockCountResult}
    (ran : (applyLocationStockCount locationCode itemId countedQuantity).run db = .ok (result, after)) :
    (StockOperation.countLocation [(countedQuantity : Int) - balanceQuantity db itemId locationCode]).applied
      (onHand db itemId) = some (onHand after itemId) := by
  simp only [applyLocationStockCount, setItemLocationBalanceFromCount, putBalance, run_bind_ok, run_current_ok,
    run_write_ok, run_pure_ok] at ran
  obtain ⟨_, _, ⟨_, _, ⟨rfl, rfl⟩, _, _, rfl, rfl, rfl⟩, ran⟩ := ran
  refine (followed_singleton _ _).trans ?_
  have kept : onHand (db.withBalance itemId locationCode countedQuantity) itemId = onHand db itemId :=
    onHand_congr rfl itemId
  split at ran
  · next unchanged =>
    simp only [run_bind_ok, findItemById_ok, required_ok, run_pure_ok] at ran
    obtain ⟨_, _, ⟨-, rfl⟩, _, _, ⟨-, rfl⟩, -, rfl⟩ := ran
    rw [unchanged, kept]
    simp [addedVariance]
  · simp only [run_bind_ok, required_ok, run_pure_ok] at ran
    obtain ⟨_, _, written, _, _, ⟨rfl, rfl⟩, -, rfl⟩ := ran
    have varied := (changeItemStock_ok written).statement itemId
    rwa [if_pos rfl, kept] at varied

theorem adjustItemStock_applied {dto : AdjustStock} {item : InventoryItem}
    (alone : Alone session) (ran : (adjustItemStock context itemId dto).run session = .ok (item, later)) :
    (StockOperation.adjustItemStock dto).applied (onHand session.tables itemId) =
      some (onHand later.tables itemId) := by
  simp only [adjustItemStock, run_bind_ok, run_onTables_ok, required_ok, run_lift_ok, recordStockMovement_ok,
    run_pure_ok] at ran
  obtain ⟨seen, _, read, _, ⟨stored, _, ⟨found, rfl⟩, next, _, ⟨calculated, rfl⟩, _, _, written, _, _,
    ⟨rfl, rfl⟩, _, _, rfl, -, rfl⟩, rfl⟩ := ran
  obtain ⟨rfl, rfl⟩ := alone.snapshot read
  have set := (changeItemStock_ok written).statement itemId
  rw [if_pos rfl] at set
  refine (followed_singleton _ _).trans (Eq.trans ?_ set)
  rw [adjusted, onHand_of_find found, calculated]
  rfl

end Links

def stockAtomic (onHand : Nat) : Nat × Bool :=
  match operation.applied onHand with
  | some quantity => (quantity, true)
  | none => (onHand, false)

def InOrder : Nat → List (StockOperation × Bool) → Nat → Prop
  | first, [], last => first = last
  | first, (operation, accepted) :: rest, last =>
    (stockAtomic operation first).2 = accepted ∧ InOrder (stockAtomic operation first).1 rest last

/-- The statements of the service that write the quantity of an item, each with what it is given. -/
inductive StockCall where
  | adjustItemStock (dto : AdjustStock)
  | issueStock (dto : CreateStockIssue)
  | receiveStock (dto : CreateStockReceipt)
  | receivePurchaseOrder (purchaseOrderId : String) (notes : Option String)
  | issueRequestStockLines (request : InventoryRequest) (lines : List RequestFulfillmentLine) (notes : Option String)
  | createIncident (dto : CreateIncident)
  | applyItemStockCount (countedQuantity : Nat)
  | applyLocationStockCount (locationCode : String) (countedQuantity : Nat)

section Refinement

variable (itemId : String)

def stockProgram (call : CallContext × StockCall) : InventorySession Unit :=
  match call.2 with
  | .adjustItemStock dto => discard (adjustItemStock call.1 itemId dto)
  | .issueStock dto => discard (onTables (issueStock call.1 dto))
  | .receiveStock dto => discard (receiveStock call.1 dto)
  | .receivePurchaseOrder purchaseOrderId notes => discard (receivePurchaseOrder call.1 purchaseOrderId notes)
  | .issueRequestStockLines request lines notes => onTables (issueRequestStockLines call.1 request lines notes)
  | .createIncident dto => discard (onTables (createIncident call.1 dto))
  | .applyItemStockCount countedQuantity => discard (onTables (applyItemStockCount itemId countedQuantity))
  | .applyLocationStockCount locationCode countedQuantity =>
    discard (onTables (applyLocationStockCount locationCode itemId countedQuantity))

@[grind =] def operationOf (db : InventoryDb) : StockCall → StockOperation
  | .adjustItemStock dto => .adjustItemStock dto
  | .issueStock dto => .issueDepartmentStock (quantitiesOf (·.itemId = itemId) StockIssueLine.quantity dto.lines)
  | .receiveStock dto => .receiveSupplierStock (quantitiesOf (·.itemId = itemId) StockReceiptLine.quantity dto.lines)
  | .receivePurchaseOrder purchaseOrderId _ => .receivePurchaseOrder
    (quantitiesOf (fun line => ¬ line.isEmpty ∧ line.itemId = itemId) InventoryLine.quantity
      ((db.purchaseOrders.find purchaseOrderId).elim [] (·.lines)))
  | .issueRequestStockLines _ lines _ => .fulfillRequest
    (quantitiesOf (fun line => ¬ line.isEmpty ∧ line.itemId = itemId) RequestFulfillmentLine.quantity lines)
  | .createIncident dto => .createIncident (if dto.itemId = itemId then dto.quantity else 0)
  | .applyItemStockCount countedQuantity => .countItem [countedQuantity]
  | .applyLocationStockCount locationCode countedQuantity =>
    .countLocation [(countedQuantity : Int) - balanceQuantity db itemId locationCode]

@[grind =] def accepted : InventoryDb → List (CallContext × StockCall) → List (StockOperation × Bool) × InventoryDb
  | db, [] => ([], db)
  | db, call :: calls =>
    match (stockProgram itemId call).run (.begun db []) with
    | .ok (_, session) =>
      let rest := accepted session.tables calls
      ((operationOf itemId db call.2, true) :: rest.1, rest.2)
    | .error _ => accepted db calls

variable {itemId}

theorem program_applied {call : CallContext × StockCall} {db : InventoryDb} {session : Session InventoryDb}
    (ran : (stockProgram itemId call).run (.begun db []) = .ok ((), session)) :
    (operationOf itemId db call.2).applied (onHand db itemId) = some (onHand session.tables itemId) := by
  obtain ⟨context, call⟩ := call
  cases call <;> simp only [stockProgram, discard_ok, run_onTables_ok] at ran
  case adjustItemStock dto =>
    obtain ⟨_, ran⟩ := ran
    exact adjustItemStock_applied ⟨rfl, rfl⟩ ran
  case issueStock dto =>
    obtain ⟨_, _, ran, rfl⟩ := ran
    exact issueStock_applied ran
  case receiveStock dto =>
    obtain ⟨_, ran⟩ := ran
    exact receiveStock_applied ran
  case receivePurchaseOrder purchaseOrderId notes =>
    obtain ⟨_, ran⟩ := ran
    obtain ⟨purchaseOrder, found, applied⟩ := receivePurchaseOrder_applied ran
    change db.purchaseOrders.find purchaseOrderId = some purchaseOrder at found
    rw [operationOf, found]
    exact applied
  case issueRequestStockLines request lines notes =>
    obtain ⟨_, ran, rfl⟩ := ran
    exact issueRequestStockLines_applied ran
  case createIncident dto =>
    obtain ⟨_, _, ran, rfl⟩ := ran
    exact createIncident_applied ran
  case applyItemStockCount countedQuantity =>
    obtain ⟨_, _, ran, rfl⟩ := ran
    exact applyItemStockCount_applied ran
  case applyLocationStockCount locationCode countedQuantity =>
    obtain ⟨_, _, ran, rfl⟩ := ran
    exact applyLocationStockCount_applied ran

end Refinement

structure StockView where
  /-- What `findItemById` returned. -/
  read : Option Nat
  /-- What the statements made of the row under its lock, seen by others from the commit on. -/
  written : Option (Option Nat)

/-- An adjustment reads first and takes the lock with its second statement; every other operation takes it with its
first one and keeps it for the rest. -/
def stockStage (stages : Nat) (view : StockView) (onHand : Nat) : StockView :=
  match operation with
  | .adjustItemStock dto =>
    if stages = 0 then { view with read := some onHand }
    else { view with written := some (view.read.bind (adjusted dto)) }
  | operation => { view with written := some (operation.applied onHand) }

def stockLocks (stages : Nat) : List Unit :=
  match operation with
  | .adjustItemStock _ => if stages ≤ 1 then [] else [()]
  | _ => if stages = 0 then [] else [()]

def stockSettle (view : StockView) (onHand : Nat) : Nat × Bool :=
  match view.written.join with
  | some quantity => (quantity, true)
  | none => (onHand, false)

def stockProtocol : Protocol Nat StockOperation Unit StockView Bool where
  start _ := ⟨none, none⟩
  stage := stockStage
  held operation stages _ := stockLocks operation stages
  ready _ _ view := view.written.isSome
  settle _ view onHand := stockSettle view onHand

abbrev StockWorld := Locking.World Nat StockOperation StockView Bool

def outcomes (world : StockWorld) : List (StockOperation × Bool) :=
  world.finished.map fun done => (done.request, done.result)

def SerialStock (first : Nat) (world : StockWorld) : Prop :=
  ∃ order : List (StockOperation × Bool), order.Perm (outcomes world) ∧ InOrder first order world.db

/-- An adjustment that is relative to the quantity writes while that quantity is still on hand. -/
def WritesCurrent (world : StockWorld) : Locking.Event StockOperation → Prop
  | .advance index =>
    match world.inFlight[index]? with
    | some transaction =>
      match transaction.request with
      | .adjustItemStock dto =>
        transaction.stages = 0 ∨ transaction.view.read = some world.db ∨
          dto.movementType ≠ "stock_in" ∧ dto.movementType ≠ "stock_out" ∧ transaction.view.read.isSome
      | _ => True
    | none => True
  | _ => True

abbrev StockTransaction := Locking.InFlight StockOperation StockView

structure StockHeld (onHand : Nat) (transaction : StockTransaction) : Prop where
  written : ∀ quantity, transaction.view.written = some quantity → quantity = transaction.request.applied onHand
  locked : transaction.view.written.isSome → () ∈ locks stockProtocol transaction

structure StockInv (first : Nat) (world : StockWorld) : Prop where
  serial : Serial stockAtomic first world.finished world.db
  held : ∀ transaction ∈ world.inFlight, StockHeld world.db transaction
  apart : world.inFlight.Pairwise fun one other => Apart stockProtocol one other ∧ Apart stockProtocol other one

theorem InOrder.of_serial {last : Nat} {history : List (Locking.Finished Nat StockOperation Bool)}
    (serial : Serial stockAtomic first history last) :
    InOrder first (history.map fun done => (done.request, done.result)) last := by
  induction history generalizing first with
  | nil => exact serial
  | cons done history ih =>
    obtain ⟨-, ran, rest⟩ := serial
    rw [List.map_cons]
    refine ⟨by rw [ran], ?_⟩
    rw [ran]
    exact ih rest

theorem StockInv.serialStock {world : StockWorld} (inv : StockInv first world) :
    SerialStock first world :=
  ⟨outcomes world, List.Perm.refl _, InOrder.of_serial inv.serial⟩

section Stages

variable (transaction : StockTransaction) (onHand : Nat)

@[simp] theorem next_request : (next stockProtocol transaction onHand).request = transaction.request := rfl

@[simp] theorem next_view : (next stockProtocol transaction onHand).view =
    stockStage transaction.request transaction.stages transaction.view onHand := rfl

@[simp] theorem locks_next : locks stockProtocol (next stockProtocol transaction onHand) =
    stockLocks transaction.request (transaction.stages + 1) := rfl

end Stages

theorem stockHeld_next {onHand : Nat} {transaction : StockTransaction}
    (unfinished : transaction.view.written.isSome = false)
    (current : ∀ dto, transaction.request = .adjustItemStock dto → transaction.stages = 0 ∨
      transaction.view.read = some onHand ∨
        dto.movementType ≠ "stock_in" ∧ dto.movementType ≠ "stock_out" ∧ transaction.view.read.isSome) :
    StockHeld onHand (next stockProtocol transaction onHand) := by
  have nothing : transaction.view.written = none := by simpa using unfinished
  cases operation : transaction.request with
  | adjustItemStock dto =>
    by_cases begins : transaction.stages = 0
    · have unwritten : (next stockProtocol transaction onHand).view.written = none := by
        simp [operation, stockStage, begins, nothing]
      refine ⟨fun quantity written => ?_, fun written => ?_⟩ <;> rw [unwritten] at written <;> cases written
    · refine ⟨fun quantity written => ?_, fun _ => ?_⟩
      · have made : quantity = transaction.view.read.bind (adjusted dto) := by
          simpa [operation, stockStage, begins] using written.symm
        rw [made, next_request, operation]
        change _ = followed [adjusted dto] onHand
        rw [followed_singleton]
        rcases current dto operation with zero | same | ⟨notIn, notOut, present⟩
        · exact absurd zero begins
        · rw [same, Option.bind_some]
        · obtain ⟨seen, found⟩ := Option.isSome_iff_exists.mp present
          rw [found, Option.bind_some]
          simp [adjusted, calculateNextQuantity, notIn, notOut]
      · simp [operation, stockLocks, begins]
  | _ =>
    refine ⟨fun quantity written => ?_, fun _ => ?_⟩
    · simpa [operation, stockStage] using written.symm
    · simp [operation, stockLocks]

theorem step_stockInv (world : StockWorld) (event : Locking.Event StockOperation)
    (inv : StockInv first world) (current : WritesCurrent world event) :
    StockInv first (Locking.step stockProtocol world event) := by
  cases event with
  | begin operation =>
    have fresh : locks stockProtocol ⟨operation, 0, stockProtocol.start operation⟩ = [] := by
      cases operation <;> rfl
    refine ⟨inv.serial, fun transaction member => ?_, ?_⟩
    · rcases List.mem_append.mp member with old | new
      · exact inv.held transaction old
      · rw [List.mem_singleton.mp new]
        exact ⟨nofun, nofun⟩
    · refine List.pairwise_append.mpr ⟨inv.apart, by simp, fun other _ new member => ?_⟩
      have free : Apart stockProtocol new other := by
        rw [List.mem_singleton.mp member]
        intro lock held
        rw [fresh] at held
        cases held
      exact ⟨apart_symm free, free⟩
  | advance index =>
    simp only [Locking.step]
    split
    · exact inv
    · next transaction found =>
      split
      · next free =>
        have advanced : StockHeld world.db (next stockProtocol transaction world.db) := by
          refine stockHeld_next free.1 fun dto same => ?_
          simp only [WritesCurrent, found, same] at current
          exact current
        refine ⟨inv.serial, List.forall_mem_cons.mpr ⟨advanced, fun other member => ?_⟩, ?_⟩
        · exact inv.held other (List.mem_of_mem_eraseIdx member)
        · refine List.pairwise_cons.mpr ⟨fun other member => ?_, inv.apart.sublist (List.eraseIdx_sublist _ _)⟩
          exact ⟨free.2 other member, apart_symm (free.2 other member)⟩
      · exact inv
  | finish index =>
    simp only [Locking.step]
    split
    · exact inv
    · next transaction found =>
      split
      · next ready =>
        have own := inv.held transaction (List.mem_of_getElem? found)
        obtain ⟨quantity, written⟩ := Option.isSome_iff_exists.mp ready
        have settled : stockProtocol.settle transaction.request transaction.view world.db =
            stockAtomic transaction.request world.db := by
          change stockSettle transaction.view world.db = _
          rw [stockSettle, written, own.written quantity written, stockAtomic]
          rfl
        have holder := own.locked ready
        have others := apart_of_getElem? inv.apart found
        rw [settled]
        refine ⟨serial_append _ inv.serial rfl rfl, fun other member => ?_,
          inv.apart.sublist (List.eraseIdx_sublist _ _)⟩
        -- Whoever has written something holds the lock, and that is the one that finishes.
        have kept := inv.held other (List.mem_of_mem_eraseIdx member)
        have unwritten : ¬ other.view.written.isSome := fun some => others other member () (kept.locked some) holder
        refine ⟨fun quantity found => ?_, fun some => absurd some unwritten⟩
        rw [found] at unwritten
        exact absurd rfl unwritten
      · exact inv
  | abort index =>
    exact ⟨inv.serial, fun other member => inv.held other (List.mem_of_mem_eraseIdx member),
      inv.apart.sublist (List.eraseIdx_sublist _ _)⟩

/-- Without a stale adjustment, every interleaving is an order of the operations: the one of their commits. -/
theorem stock_serializable (first : Nat) (events : List (Locking.Event StockOperation))
    (current : Meets (Locking.step stockProtocol) WritesCurrent (Locking.World.idle first) events) :
    Along (Locking.step stockProtocol) (SerialStock first) (Locking.World.idle first) events :=
  along_of_meets step_stockInv (fun _ inv => inv.serialStock)
    ⟨rfl, by simp [Locking.World.idle], by simp [Locking.World.idle]⟩ current

def addFive : AdjustStock where
  movementType := "stock_in"
  quantity := 5
  reference := none
  notes := none

theorem stock_serializable_adjusted :
    Along (Locking.step stockProtocol) (SerialStock 10) (Locking.World.idle 10)
      [.begin (.adjustItemStock addFive), .begin (.issueDepartmentStock [2]), .advance 0, .advance 0, .finish 0,
        .advance 0, .finish 0] :=
  stock_serializable 10 _
    ⟨trivial, trivial, .inl rfl, .inr (.inl rfl), trivial, trivial, trivial, trivial⟩

def lostIssue : List (Locking.Event StockOperation) :=
  [.begin (.adjustItemStock addFive), .begin (.issueDepartmentStock [2]), .advance 0, .advance 1, .finish 0, .advance 0,
    .finish 0]

theorem adjustment_loses_issue :
    ¬ ∀ (first : Nat) (events : List (Locking.Event StockOperation)),
      Along (Locking.step stockProtocol) (SerialStock first) (Locking.World.idle first) events := by
  intro always
  obtain ⟨order, same, inOrder⟩ := run_of_along (always 10 lostIssue)
  -- Both orders leave thirteen.
  have thirteen : (13 : Nat) = 15 := by
    rcases List.perm_pair.mp same with rfl | rfl
    · exact inOrder.2.2
    · exact inOrder.2.2
  omega

end ShuleHub.Inventory
