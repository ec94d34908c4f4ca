import ShuleHub.Inventory.Quantities

/-! The status requests on one transfer, in any interleaving: when what the transfer has moved agrees with its
status. -/

namespace ShuleHub.Inventory

open Runs Transaction Snapshots

variable (transferId : String)

structure StatusRequest where
  context : CallContext
  dto : UpdateWorkflowStatus

def transferProgram (request : StatusRequest) : InventorySession InventoryTransfer :=
  updateTransferStatus request.context transferId request.dto

abbrev TransferWorld := Snapshots.World InventoryDb StatusRequest Exception InventoryTransfer

def isCompleted (db : InventoryDb) : Prop :=
  (db.transfers.find transferId).map (·.status) = some "completed"
deriving Decidable

def Carried (start db : InventoryDb) (source destination itemId : String) (quantity : Nat) : Prop :=
  balanceQuantity db itemId destination = balanceQuantity start itemId destination + quantity ∧
    balanceQuantity db itemId source + quantity = balanceQuantity start itemId source

/-- What a completed transfer has moved of each item is the sum of its lines, and any other has moved nothing. -/
def StatusTellsMoved (start db : InventoryDb) : Prop :=
  ∀ transfer, db.transfers.find transferId = some transfer → ∀ itemId,
    Carried start db transfer.fromLocation transfer.toLocation itemId
      (if transfer.status = "completed" then lineTotal transfer.lines itemId else 0)

/-- A request that does not cancel finds the transfer not completed; one that cancels finds it completed or not as
it has read it. -/
def AgreesWithStatus (transaction : InFlight InventoryDb StatusRequest) (db : InventoryDb) :
    Prop :=
  if transaction.request.dto.status = "cancelled" then
    isCompleted transferId (transaction.snapshots.headD db) ↔ isCompleted transferId db
  else ¬ isCompleted transferId db
deriving Decidable

section Moves

variable {db middle after : InventoryDb} {context : CallContext} {itemId : String}
  {source destination : String} {quantity : Nat} {direction : Direction} {transfer : InventoryTransfer}
  {notes : Option String} {result : Unit}

theorem Carried.refl : Carried db db source destination itemId 0 := ⟨rfl, rfl⟩

theorem Carried.trans {first second : Nat}
    (before : Carried db middle source destination itemId first)
    (later : Carried middle after source destination itemId second) :
    Carried db after source destination itemId (first + second) := by
  unfold Carried at before later ⊢
  omega

theorem Carried.undo
    (before : Carried db middle source destination itemId quantity)
    (later : Carried middle after destination source itemId quantity) :
    Carried db after source destination itemId 0 := by
  unfold Carried at before later ⊢
  omega

theorem Carried.congr
    (before : Carried db middle source destination itemId quantity) (same : after.balances = middle.balances) :
    Carried db after source destination itemId quantity := by
  unfold Carried balanceQuantity at before ⊢
  rwa [same]

theorem transferItemBalance_carried (itemId : String) {movedId : String}
    {moved : InventoryLocationTransfer} (apart : source ≠ destination)
    (ran : (transferItemBalance movedId source destination quantity).run db = .ok (some moved, after)) :
    after.transfers = db.transfers ∧
      Carried db after source destination itemId (if movedId = itemId then quantity else 0) := by
  obtain ⟨enough, rfl⟩ := transferItemBalance_ok ran
  refine ⟨rfl, ?_⟩
  unfold Carried
  simp only [balanceQuantity_putBalance]
  by_cases own : itemId = movedId
  · subst own
    simp only [true_and, if_true, apart, apart.symm, if_false]
    omega
  · simp [own, Ne.symm own]

theorem moveLine_carried (itemId : String)
    {line : InventoryLine} (apart : direction.source transfer ≠ direction.destination transfer)
    (ran : (moveLine direction context transfer notes line).run db = .ok (result, after)) :
    after.transfers = db.transfers ∧
      Carried db after (direction.source transfer) (direction.destination transfer) itemId
        (if ¬ line.isEmpty ∧ line.itemId = itemId then line.quantity else 0) := by
  by_cases empty : line.isEmpty
  · rw [moveLine, if_pos empty] at ran
    obtain ⟨-, rfl⟩ := run_pure_ok.mp ran
    rw [if_neg fun counted => counted.1 empty]
    exact ⟨rfl, .refl⟩
  · simp only [moveLine, if_neg empty, run_bind_ok, findItemById_ok, required_ok, recordStockMovement_ok] at ran
    obtain ⟨_, _, ⟨-, rfl⟩, _, _, ⟨-, rfl⟩, _, _, moved, _, _, ⟨rfl, rfl⟩, rfl⟩ := ran
    obtain ⟨transfers, carried⟩ := transferItemBalance_carried itemId apart moved
    simp only [empty, not_false_eq_true, true_and]
    exact ⟨transfers, carried.congr rfl⟩

theorem moveLines_carried (apart : direction.source transfer ≠ direction.destination transfer)
    (ran : (moveLines direction context transfer notes).run db = .ok (result, after)) :
    after.transfers = db.transfers ∧ ∀ itemId,
      Carried db after (direction.source transfer) (direction.destination transfer) itemId
        (lineTotal transfer.lines itemId) := by
  simp only [moveLines, run_bind_ok, run_pure_ok] at ran
  obtain ⟨_, _, fromActive, _, _, toActive, _, _, moved, -, rfl⟩ := ran
  obtain rfl := assertActiveInventoryLocation_ok fromActive
  obtain rfl := assertActiveInventoryLocation_ok toActive
  have kept := mapM_induction
    (motive := fun rest other => other.transfers = db.transfers ∧ ∀ itemId, ∃ carried,
      Carried db other (direction.source transfer) (direction.destination transfer) itemId carried ∧
        carried + lineTotal rest itemId = lineTotal transfer.lines itemId)
    moved ⟨rfl, fun itemId => ⟨0, .refl, Nat.zero_add _⟩⟩ fun line rest first _ last before step => by
      refine ⟨(moveLine_carried "" apart step).1.trans before.1, fun itemId => ?_⟩
      obtain ⟨carried, soFar, remaining⟩ := before.2 itemId
      refine ⟨_, soFar.trans (moveLine_carried itemId apart step).2, ?_⟩
      rw [← remaining, lineTotal, lineTotal, Table.total_cons, Nat.add_assoc]
  refine ⟨kept.1, fun itemId => ?_⟩
  obtain ⟨carried, all, whole⟩ := kept.2 itemId
  have whole : carried = lineTotal transfer.lines itemId := whole
  exact whole ▸ all

end Moves

def HasTransfer (original : InventoryTransfer) (db : InventoryDb) : Prop :=
  ∃ transfer, db.transfers.find transferId = some transfer ∧ transfer.fromLocation = original.fromLocation ∧
    transfer.toLocation = original.toLocation ∧ transfer.lines = original.lines

structure TransferInv (start : InventoryDb) (original : InventoryTransfer)
    (db : InventoryDb) : Prop where
  row : HasTransfer transferId original db
  carried : ∀ itemId, Carried start db original.fromLocation original.toLocation itemId
    (if isCompleted transferId db then lineTotal original.lines itemId else 0)

section Steps

variable {db after start : InventoryDb} {context : CallContext} {transferId : String} {original : InventoryTransfer}
  {session later : Session InventoryDb} {result : InventoryTransfer}

theorem TransferInv.statusTellsMoved (inv : TransferInv transferId start original db) :
    StatusTellsMoved transferId start db := by
  intro transfer found itemId
  obtain ⟨row, same, fromSame, toSame, linesSame⟩ := inv.row
  obtain rfl : row = transfer := Option.some.inj (same.symm.trans found)
  have carried := inv.carried itemId
  rw [← fromSame, ← toSame, ← linesSame] at carried
  simpa [isCompleted, found] using carried

theorem setTransferStatus_row {status : String} {notes : Option String}
    (ran : (setTransferStatus transferId status notes).run db = .ok (result, after))
    (row : HasTransfer transferId original db) :
    HasTransfer transferId original after ∧ after.balances = db.balances ∧
      (isCompleted transferId after ↔ status = "completed") := by
  simp only [setTransferStatus, run_bind_ok, run_current_ok, required_ok, run_write_ok, run_pure_ok] at ran
  obtain ⟨_, _, ⟨rfl, rfl⟩, transfer, _, ⟨found, rfl⟩, _, _, rfl, -, rfl⟩ := ran
  obtain ⟨same, sameFound, locations⟩ := row
  obtain rfl : same = transfer := Option.some.inj (sameFound.symm.trans found)
  have own : same.id = transferId := (KeyedTable.find_eq_some _ |>.mp found).2
  have stored (notes : Option String) :
      (db.transfers.put { same with status, notes }).find transferId = some { same with status, notes } := by
    rw [KeyedTable.find_put, if_pos own.symm]
  refine ⟨⟨_, stored _, locations⟩, rfl, ?_⟩
  simp only [isCompleted, stored, Option.map_some, Option.some.injEq]

theorem seenTransfer_ok (ran : (seenTransfer transferId).run session = .ok (result, later))
    (stable : ∀ seen ∈ session.snapshots, HasTransfer transferId original seen)
    (current : HasTransfer transferId original session.committed) :
    later.tables = session.tables ∧ result.fromLocation = original.fromLocation ∧
      result.toLocation = original.toLocation ∧ result.lines = original.lines ∧
      (result.status = "completed" ↔ isCompleted transferId (session.snapshots.headD session.committed)) := by
  simp only [seenTransfer, run_bind_ok, run_onTables_ok, required_ok] at ran
  obtain ⟨seen, middle, read, _, ⟨found, rfl⟩, rfl⟩ := ran
  have shown : seen = session.snapshots.headD session.committed ∧ HasTransfer transferId original seen := by
    simp only [snapshot, Transaction.run] at read
    cases snapshots : session.snapshots with
    | nil =>
      rw [snapshots] at read
      cases read
      exact ⟨rfl, current⟩
    | cons first rest =>
      rw [snapshots] at read
      cases read
      exact ⟨rfl, stable _ (by simp [snapshots])⟩
  obtain ⟨transfer, same, fromSame, toSame, linesSame⟩ := shown.2
  obtain rfl : transfer = result := Option.some.inj (same.symm.trans found)
  refine ⟨(run_snapshot_ok read).1, fromSame, toSame, linesSame, ?_⟩
  rw [← shown.1]
  simp [isCompleted, found]

theorem transfer_kept (transaction : InFlight InventoryDb StatusRequest) (db : InventoryDb)
    (inv : TransferInv transferId start original db)
    (seen : ∀ seen ∈ transaction.snapshots, HasTransfer transferId original seen)
    (agrees : AgreesWithStatus transferId transaction db) :
    TransferInv transferId start original (settle (transferProgram transferId) transaction db).1 := by
  refine settle_preserves inv fun result later ran => ?_
  obtain ⟨⟨context, dto⟩, snapshots⟩ := transaction
  simp only [transferProgram, updateTransferStatus] at ran
  split at ran
  · next completing =>
    have fresh : ¬ isCompleted transferId db := by
      have notCancelled : dto.status ≠ "cancelled" := by simp [completing]
      simpa [AgreesWithStatus, notCancelled] using agrees
    simp only [completeTransfer, run_bind_ok, run_onTables_ok] at ran
    obtain ⟨transfer, middle, read, tables, ⟨_, moved, lines, set⟩, rfl⟩ := ran
    obtain ⟨same, fromSame, toSame, linesSame, -⟩ := seenTransfer_ok read seen inv.row
    rw [same] at lines
    obtain ⟨transfers, carried⟩ := moveLines_carried transfer.distinct lines
    have row : HasTransfer transferId original moved := by
      unfold HasTransfer
      rw [transfers]
      exact inv.row
    obtain ⟨rowAfter, balances, completed⟩ := setTransferStatus_row set row
    refine ⟨rowAfter, fun itemId => ?_⟩
    have before := inv.carried itemId
    have moving := (carried itemId).congr balances
    rw [if_neg fresh] at before
    rw [if_pos (completed.mpr completing), ← linesSame, ← fromSame, ← toSame]
    rw [← fromSame, ← toSame] at before
    have both := before.trans moving
    rwa [Nat.zero_add] at both
  · next notCompleting =>
    split at ran
    · next cancelling =>
      simp only [AgreesWithStatus, cancelling, if_true] at agrees
      simp only [cancelTransfer, run_bind_ok, run_onTables_ok] at ran
      obtain ⟨transfer, middle, read, tables, ran, rfl⟩ := ran
      obtain ⟨same, fromSame, toSame, linesSame, shown⟩ := seenTransfer_ok read seen inv.row
      have current : transfer.status = "completed" ↔ isCompleted transferId db := shown.trans agrees
      rw [same] at ran
      split at ran
      · next completed =>
        obtain ⟨_, moved, lines, set⟩ := run_bind_ok.mp ran
        obtain ⟨transfers, carried⟩ := moveLines_carried transfer.distinct.symm lines
        have row : HasTransfer transferId original moved := by
          unfold HasTransfer
          rw [transfers]
          exact inv.row
        obtain ⟨rowAfter, balances, completedAfter⟩ := setTransferStatus_row set row
        refine ⟨rowAfter, fun itemId => ?_⟩
        have before := inv.carried itemId
        have back := (carried itemId).congr balances
        rw [if_pos (current.mp completed), ← linesSame, ← fromSame, ← toSame] at before
        rw [if_neg fun done => absurd (completedAfter.mp done) (by decide), ← fromSame, ← toSame]
        exact before.undo back
      · next notCompleted =>
        obtain ⟨rowAfter, balances, completedAfter⟩ := setTransferStatus_row ran inv.row
        refine ⟨rowAfter, fun itemId => ?_⟩
        have before := inv.carried itemId
        rw [if_neg fun done => notCompleted (current.mpr done)] at before
        rw [if_neg fun done => absurd (completedAfter.mp done) (by decide)]
        exact before.congr balances
    · next notCancelling =>
      have fresh : ¬ isCompleted transferId db := by
        simpa [AgreesWithStatus, notCancelling] using agrees
      obtain ⟨tables, set, rfl⟩ := run_onTables_ok.mp ran
      obtain ⟨rowAfter, balances, completedAfter⟩ := setTransferStatus_row set inv.row
      refine ⟨rowAfter, fun itemId => ?_⟩
      have before := inv.carried itemId
      rw [if_neg fresh] at before
      rw [if_neg fun done => notCompleting (completedAfter.mp done)]
      exact before.congr balances

end Steps

/-- A transfer that is not completed yet, and requests on it that each agree with its status at their commit. -/
theorem transfer_status_tells_moved {start : InventoryDb} (transfer : InventoryTransfer) {transferId : String}
    {events : List (Snapshots.Event StatusRequest)} (found : start.transfers.find transferId = some transfer)
    (pending : transfer.status = "pending")
    (agree : Meets (step (transferProgram transferId)) (Committing (AgreesWithStatus transferId))
      (World.idle start) events) :
    Along (step (transferProgram transferId)) (fun world => StatusTellsMoved transferId start world.db)
      (World.idle start) events := by
  have open' : ¬ isCompleted transferId start := by simp [isCompleted, found, pending]
  have initial : TransferInv transferId start transfer start :=
    ⟨⟨transfer, found, rfl, rfl, rfl⟩, fun itemId => by rw [if_neg open']; exact .refl⟩
  exact along_of_commits (fun db _ => TransferInv transferId start transfer db)
    (fun db _ => StatusTellsMoved transferId start db) (fun _ _ inv => inv.row)
    (fun transaction db _ inv seen agrees => transfer_kept transaction db inv seen agrees)
    (fun _ _ inv => inv.statusTellsMoved) initial agree

def chalkItem : InventoryItem where
  id := "item-1"
  itemName := "Chalk"
  sku := "CHK"
  categoryId := none
  unit := "box"
  quantityOnHand := 10
  supplierId := none
  unitPrice := 25000
  reorderLevel := 2
  storageLocation := some "MAIN"
  notes := none
  status := "active"
  isArchived := false

def chalkTransfer : InventoryTransfer where
  id := "transfer-1"
  transferNumber := "TRF-1"
  fromLocation := "MAIN"
  toLocation := "LAB"
  status := "pending"
  requestedBy := "Achieng"
  lines := [{ itemId := "item-1", itemName := "Chalk", quantity := 2, unitPrice := 25000 }]
  notes := none
  apart := by decide

def twoRooms : InventoryDb :=
  { InventoryDb.empty with
    items := InventoryDb.empty.items.put chalkItem
    balances := InventoryDb.empty.balances.put { itemId := "item-1", locationCode := "MAIN", quantityOnHand := 10 }
    locations := (InventoryDb.empty.locations.put { code := "MAIN", name := "Main store", status := "active" }).put
      { code := "LAB", name := "Laboratory", status := "active" }
    transfers := InventoryDb.empty.transfers.put chalkTransfer }

def clerk : CallContext where
  actorUserId := some "clerk"
  now := 0
  today := "2026-01-05"
  newId := "new-id"
  buildNumber := fun kind => kind ++ "-20260105-00001"
  buildSecondNumber := fun kind => kind ++ "-20260105-00002"

def toStatus (status : String) : StatusRequest := ⟨clerk, { status, notes := none }⟩

theorem transfer_status_tells_moved_completed :
    Along (step (transferProgram "transfer-1")) (fun world => StatusTellsMoved "transfer-1" twoRooms world.db)
      (World.idle twoRooms)
      [.begin (toStatus "in_transit"), .begin (toStatus "completed"), .commit 0, .read 0, .commit 0] :=
  transfer_status_tells_moved chalkTransfer (by decide) (by decide) (by decide +kernel)

/-- Two requests to complete one transfer move its lines twice. -/
theorem completed_twice_moves_twice :
    ¬ ∀ events : List (Snapshots.Event StatusRequest),
      Along (step (transferProgram "transfer-1")) (fun world => StatusTellsMoved "transfer-1" twoRooms world.db)
        (World.idle twoRooms) events := by
  intro always
  let events : List (Snapshots.Event StatusRequest) :=
    [.begin (toStatus "completed"), .begin (toStatus "completed"), .commit 0, .commit 0]
  let last := (run (step (transferProgram "transfer-1")) (World.idle twoRooms) events).db
  have law : StatusTellsMoved "transfer-1" twoRooms last := run_of_along (always events)
  obtain ⟨arrived, -⟩ := law { chalkTransfer with status := "completed" } (by decide +kernel) "item-1"
  exact absurd arrived (by decide +kernel)

end ShuleHub.Inventory
