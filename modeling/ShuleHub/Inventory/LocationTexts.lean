import ShuleHub.Inventory.Reconciliation
import ShuleHub.Inventory.TransferRuns
import Mathlib.Data.Fintype.EquivFin

/-! The texts by which a location is called, and the balances that the operations keep under them. -/

namespace ShuleHub.Inventory

open Transaction Snapshots JsText KeyedTable

variable (db : InventoryDb) (location : InventoryLocation) (text : String) (first second : String)

def locationOf : Option InventoryLocation :=
  db.locations.rows.find? fun row =>
    row.status = "active" && (row.code = JsText.toUpperCase (JsText.trim text) || row.name = JsText.trim text)

inductive LocationUse where
  | createItem (dto : CreateInventoryItem)
  | updateItem (itemId : String) (dto : UpdateInventoryItem)
  | postStockCount (dto : PostStockCount)
  | transferFrom (dto : CreateTransfer)
  | transferTo (dto : CreateTransfer)

@[grind =] def LocationUse.operation : LocationUse → InventoryOperation
  | .createItem dto => .createItem { dto with storageLocation := some text }
  | .updateItem itemId dto => .updateItem itemId { dto with storageLocation := some text }
  | .postStockCount dto => .postStockCount { dto with locationCode := some text }
  | .transferFrom dto => .createTransfer { dto with fromLocation := text }
  | .transferTo dto => .createTransfer { dto with toLocation := text }

/-- The same call, or one that names its location by the other of two texts. -/
inductive Respelled (first second : String) : InventoryCall → InventoryCall → Prop
  | same (call : InventoryCall) : Respelled first second call call
  | forth (context : CallContext) (use : LocationUse) :
    Respelled first second ⟨context, use.operation first⟩ ⟨context, use.operation second⟩
  | back (context : CallContext) (use : LocationUse) :
    Respelled first second ⟨context, use.operation second⟩ ⟨context, use.operation first⟩

/-- Calls that differ only in which of the two texts they use leave the same balances. Receipts of stock are among the
calls: they go to the location that the item was given. -/
def SameBalances : Prop :=
  ∀ calls respelled : List InventoryCall, List.Forall₂ (Respelled first second) calls respelled →
    (calls.foldl applyCall db).balances = (respelled.foldl applyCall db).balances

def RejectsTransfer : Prop :=
  ∀ context dto, dto.fromLocation = first → dto.toLocation = second →
    ∃ error, (createTransfer context dto).run db = .error error

def stockAt (itemId : String) : Nat :=
  Table.total (fun balance : InventoryItemBalance =>
    balance.itemId = itemId ∧ locationOf db balance.locationCode = some location) (·.quantityOnHand) db.balances.rows

def Completes (context : CallContext) (transferId : String) (notes : Option String) : Prop :=
  ∃ answer, (updateTransferStatus context transferId ⟨"completed", notes⟩).run (.begun db []) = .ok answer

/-- A transfer of known items from the location, called `text`, to another one completes exactly when the location has
of each item what the transfer moves. -/
def CompletesByStock : Prop :=
  ∀ context dto transfer made, dto.fromLocation = text → locationOf db dto.toLocation ≠ some location →
    (createTransfer context dto).run db = .ok (transfer, made) →
    (∀ line ∈ transfer.lines, ¬ line.isEmpty → (db.items.find line.itemId).isSome) →
    ∀ completing notes, Completes made completing transfer.id notes ↔
      ∀ itemId, lineTotal transfer.lines itemId ≤ stockAt db location itemId

/-- The location has one balance of each item, under whichever of two texts it is called. -/
structure OneBalance : Prop where
  same : SameBalances db first second
  rejects : RejectsTransfer db first second
  completes : ∀ text ∈ [first, second], CompletesByStock db location text

def HasDestination : Prop :=
  JsText.trim text ≠ "" ∧ ∃ destination, JsText.trim destination ≠ "" ∧
    JsText.toUpperCase (JsText.trim text) ≠ JsText.toUpperCase (JsText.trim destination) ∧
    (locationOf db destination).isSome ∧ locationOf db destination ≠ some location

def KeptUnder : Prop :=
  ∀ itemId, itemId ≠ "" → (db.items.find itemId).isSome →
    stockAt db location itemId = balanceQuantity db itemId (JsText.trim text)

section Resolving

variable {db after : InventoryDb} {location : String}

@[simp] theorem findActiveLocationByCodeOrName_ok {found : Option InventoryLocation} :
    (findActiveLocationByCodeOrName location).run db = .ok (found, after) ↔
      locationOf db location = found ∧ db = after := by
  simp [findActiveLocationByCodeOrName, locationOf, and_comm]

theorem assertActiveInventoryLocation_iff {label : String} {result : Unit} :
    (assertActiveInventoryLocation location label).run db = .ok (result, after) ↔
      (locationOf db location).isSome ∧ db = after := by
  simp only [assertActiveInventoryLocation, run_bind_ok, findActiveLocationByCodeOrName_ok, run_failIf_ok]
  constructor
  · rintro ⟨_, _, ⟨rfl, rfl⟩, there, same⟩
    exact ⟨Option.isSome_iff_ne_none.mpr there, same⟩
  · rintro ⟨there, same⟩
    exact ⟨_, _, ⟨rfl, rfl⟩, Option.isSome_iff_ne_none.mp there, same⟩

theorem locationOf_trim (db : InventoryDb) (text : String) : locationOf db (trim text) = locationOf db text := by
  simp only [locationOf, trim_trim]

theorem locationOf_congr (same : after.locations = db.locations) (text : String) :
    locationOf after text = locationOf db text := by
  simp only [locationOf, same]

end Resolving

section OneText

variable {first second : String} (same : JsText.trim first = JsText.trim second)

include same

theorem nullableText_congr : nullableText (some first) = nullableText (some second) := by
  simp only [nullableText, readString, Option.map_some, same]

theorem requireText_congr (message : String) : requireText first message = requireText second message := by
  simp only [requireText, same]

theorem updatedItem_congr (dto : UpdateInventoryItem) :
    updatedItem { dto with storageLocation := some first } =
      updatedItem { dto with storageLocation := some second } := by
  funext itemName sku unit item
  simp only [updatedItem, replaced, nullableText_congr same]

theorem perform_congr (context : CallContext) (use : LocationUse) :
    perform ⟨context, use.operation first⟩ = perform ⟨context, use.operation second⟩ := by
  have nullable := nullableText_congr same
  have required := requireText_congr same
  cases use with
  | createItem dto => simp only [LocationUse.operation, perform, createItem, newItem, nullable]
  | updateItem itemId dto => simp only [LocationUse.operation, perform, updateItem, updatedItem_congr same, nullable]
  | postStockCount dto => simp only [LocationUse.operation, perform, postStockCount, nullable]
  | transferFrom dto => simp only [LocationUse.operation, perform, createTransfer, required, newTransfer]
  | transferTo dto => simp only [LocationUse.operation, perform, createTransfer, required, newTransfer]

theorem applyCall_respelled {call other : InventoryCall} (respelled : Respelled first second call other)
    (db : InventoryDb) : applyCall db call = applyCall db other := by
  cases respelled with
  | same call => rfl
  | forth context use => simp only [applyCall, settle, perform_congr same]
  | back context use => simp only [applyCall, settle, perform_congr same]

theorem sameBalances_of_trim (db : InventoryDb) : SameBalances db first second := by
  intro calls respelled spelled
  induction spelled generalizing db with
  | nil => rfl
  | cons head _ ih =>
    rw [List.foldl_cons, List.foldl_cons, applyCall_respelled same head]
    exact ih _

theorem rejectsTransfer_of_trim (db : InventoryDb) : RejectsTransfer db first second := by
  rintro context dto rfl rfl
  cases ran : (createTransfer context dto).run db with
  | error error => exact ⟨error, rfl⟩
  | ok answer =>
    obtain ⟨transfer, after⟩ := answer
    simp only [createTransfer, run_bind_ok, run_lift_ok, requireText, same] at ran
    obtain ⟨fromLocation, _, ⟨from_ok, rfl⟩, toLocation, _, ⟨to_ok, rfl⟩, ran⟩ := ran
    obtain rfl : fromLocation = toLocation := by
      split_ifs at from_ok to_ok
      exact (Except.ok.inj from_ok).symm.trans (Except.ok.inj to_ok)
    rw [dif_neg (not_not_intro rfl)] at ran
    exact absurd ran run_fail_ok

end OneText

section Completing

variable {db made after : InventoryDb} {context : CallContext} {transfer : InventoryTransfer} {notes : Option String}
  {itemId : String} {line : InventoryLine}

theorem balanceQuantity_of_find {location : String} {balance : InventoryItemBalance}
    (found : db.balances.find (itemId, location) = some balance) :
    balanceQuantity db itemId location = balance.quantityOnHand := by
  simp only [balanceQuantity, found, Option.map_some, Option.getD_some]

theorem transferItemBalance_runs {source destination : String} {quantity : Nat} (positive : quantity ≠ 0)
    (enough : quantity ≤ balanceQuantity db itemId source) :
    ∃ moved after, (transferItemBalance itemId source destination quantity).run db = .ok (some moved, after) := by
  cases found : db.balances.find (itemId, source) with
  | none =>
    simp only [balanceQuantity, found, Option.map_none, Option.getD_none] at enough
    omega
  | some balance =>
    rw [balanceQuantity_of_find found] at enough
    simp only [transferItemBalance, run_bind, run_current, found, enough, if_true, putBalance, run_write, run_pure]
    exact ⟨_, _, rfl⟩

theorem moveLine_runs_iff (known : ¬ line.isEmpty → (db.items.find line.itemId).isSome) :
    (∃ answer, (moveLine completion context transfer notes line).run db = .ok answer) ↔
      (¬ line.isEmpty → line.quantity ≤ balanceQuantity db line.itemId transfer.fromLocation) := by
  by_cases empty : line.isEmpty
  · rw [moveLine, if_pos empty]
    exact ⟨fun _ counted => absurd empty counted, fun _ => ⟨_, rfl⟩⟩
  · obtain ⟨item, found⟩ := Option.isSome_iff_exists.mp (known empty)
    have positive : line.quantity ≠ 0 := fun none => empty (.inr none)
    rw [moveLine, if_neg empty]
    constructor
    · rintro ⟨⟨result, after⟩, ran⟩ -
      simp only [run_bind_ok, findItemById_ok, required_ok] at ran
      obtain ⟨_, _, ⟨-, rfl⟩, _, _, ⟨-, rfl⟩, _, _, moved, _, _, ⟨rfl, rfl⟩, -⟩ := ran
      exact (transferItemBalance_ok moved).1
    · intro enough
      obtain ⟨moved, after, ran⟩ :=
        @transferItemBalance_runs db line.itemId transfer.fromLocation transfer.toLocation _ positive (enough empty)
      refine ⟨((), { after with
        movements := after.movements ++ [transferMovement completion context transfer notes line item moved] }), ?_⟩
      simp only [run_bind_ok, findItemById_ok, required_ok, recordStockMovement_ok]
      exact ⟨_, _, ⟨found, rfl⟩, _, _, ⟨rfl, rfl⟩, _, _, ran, _, _, ⟨rfl, rfl⟩, rfl⟩

theorem moveLine_items {result : Unit}
    (ran : (moveLine completion context transfer notes line).run db = .ok (result, after)) :
    after.items = db.items := by
  by_cases empty : line.isEmpty
  · rw [moveLine, if_pos empty] at ran
    rw [(run_pure_ok.mp ran).2]
  · simp only [moveLine, if_neg empty, run_bind_ok, findItemById_ok, required_ok, recordStockMovement_ok] at ran
    obtain ⟨_, _, ⟨-, rfl⟩, _, _, ⟨-, rfl⟩, _, _, moved, _, _, ⟨rfl, rfl⟩, rfl⟩ := ran
    rw [(transferItemBalance_ok moved).2]
    rfl

theorem mapM_moveLine_runs_iff (lines : List InventoryLine)
    (known : ∀ line ∈ lines, ¬ line.isEmpty → (db.items.find line.itemId).isSome) :
    (∃ answer, (lines.mapM (moveLine completion context transfer notes)).run db = .ok answer) ↔
      ∀ itemId, lineTotal lines itemId ≤ balanceQuantity db itemId transfer.fromLocation := by
  induction lines generalizing db with
  | nil => exact ⟨fun _ _ => Nat.zero_le _, fun _ => ⟨_, rfl⟩⟩
  | cons line lines ih =>
    obtain ⟨own, others⟩ := List.forall_mem_cons.mp known
    have rest {middle : InventoryDb} {result : Unit}
        (ran : (moveLine completion context transfer notes line).run db = .ok (result, middle)) :
        (∃ answer, (lines.mapM (moveLine completion context transfer notes)).run middle = .ok answer) ↔
          ∀ itemId, lineTotal (line :: lines) itemId ≤ balanceQuantity db itemId transfer.fromLocation := by
      rw [ih (by rw [moveLine_items ran]; exact others)]
      apply forall_congr'
      intro itemId
      have taken : balanceQuantity middle itemId transfer.fromLocation +
          (if ¬ line.isEmpty ∧ line.itemId = itemId then line.quantity else 0) =
            balanceQuantity db itemId transfer.fromLocation :=
        (moveLine_carried itemId transfer.distinct ran).2.2
      rw [lineTotal, lineTotal, Table.total_cons]
      omega
    rw [mapM_cons_runs_iff]
    constructor
    · rintro ⟨_, middle, head, tail⟩
      exact (rest head).mp tail
    · intro enough
      have covered : ¬ line.isEmpty → line.quantity ≤ balanceQuantity db line.itemId transfer.fromLocation := by
        intro counted
        have whole := enough line.itemId
        rw [lineTotal, Table.total_cons, if_pos ⟨counted, rfl⟩] at whole
        omega
      obtain ⟨⟨result, middle⟩, head⟩ := (moveLine_runs_iff own).mpr covered
      exact ⟨result, middle, head, (rest head).mpr enough⟩

theorem moveLines_runs_iff (source : (locationOf db transfer.fromLocation).isSome)
    (destination : (locationOf db transfer.toLocation).isSome) :
    (∃ answer, (moveLines completion context transfer notes).run db = .ok answer) ↔
      ∃ answer, (transfer.lines.mapM (moveLine completion context transfer notes)).run db = .ok answer := by
  simp only [moveLines]
  constructor
  · rintro ⟨⟨_, after⟩, ran⟩
    simp only [run_bind_ok, assertActiveInventoryLocation_iff] at ran
    obtain ⟨_, _, ⟨-, rfl⟩, _, _, ⟨-, rfl⟩, _, _, moved, -⟩ := ran
    exact ⟨_, moved⟩
  · rintro ⟨⟨results, after⟩, moved⟩
    refine ⟨((), after), ?_⟩
    simp only [run_bind_ok, assertActiveInventoryLocation_iff, run_pure_ok]
    exact ⟨(), _, ⟨source, rfl⟩, (), _, ⟨destination, rfl⟩, _, _, moved, trivial, rfl⟩

theorem completes_iff {transferId : String} (stored : db.transfers.find transferId = some transfer)
    (source : (locationOf db transfer.fromLocation).isSome) (destination : (locationOf db transfer.toLocation).isSome)
    (known : ∀ line ∈ transfer.lines, ¬ line.isEmpty → (db.items.find line.itemId).isSome) :
    Completes db context transferId notes ↔
      ∀ itemId, lineTotal transfer.lines itemId ≤ balanceQuantity db itemId transfer.fromLocation := by
  rw [← @mapM_moveLine_runs_iff db context transfer (nullableText notes) transfer.lines known,
    ← moveLines_runs_iff source destination]
  simp only [Completes, updateTransferStatus, if_true, completeTransfer, seenTransfer]
  constructor
  · rintro ⟨⟨_, later⟩, ran⟩
    simp only [run_bind_ok, snapshot_ok, run_onTables_ok, required_ok] at ran
    obtain ⟨found, _, ⟨_, _, ⟨rfl, rfl⟩, _, ⟨found_eq, rfl⟩, rfl⟩, _, ⟨_, _, moved, -⟩, -⟩ := ran
    obtain rfl : transfer = found := Option.some.inj (stored.symm.trans found_eq)
    exact ⟨_, moved⟩
  · rintro ⟨⟨_, after⟩, moved⟩
    have kept : after.transfers = db.transfers := (moveLines_carried transfer.distinct moved).1
    let completed := { transfer with status := "completed", notes := nullableText notes <|> transfer.notes }
    let tables := { after with transfers := after.transfers.put completed }
    refine ⟨(completed, { Session.begun db [] with tables }), ?_⟩
    simp only [run_bind_ok, snapshot_ok, run_onTables_ok, required_ok, setTransferStatus, run_current_ok, run_write_ok,
      run_pure_ok]
    exact ⟨transfer, _, ⟨_, _, ⟨rfl, rfl⟩, _, ⟨stored, rfl⟩, rfl⟩, _, ⟨_, _, moved, _, _, ⟨rfl, rfl⟩, _, _,
      ⟨by rw [kept]; exact stored, rfl⟩, (), _, rfl, rfl, rfl⟩, rfl⟩

structure Created (db made : InventoryDb) (dto : CreateTransfer) (transfer : InventoryTransfer) : Prop where
  source : transfer.fromLocation = JsText.trim dto.fromLocation
  destination : transfer.toLocation = JsText.trim dto.toLocation
  present : JsText.trim dto.fromLocation ≠ "" ∧ JsText.trim dto.toLocation ≠ ""
  lines : transfer.lines = dto.lines
  active : (locationOf db dto.fromLocation).isSome ∧ (locationOf db dto.toLocation).isSome
  stored : made.transfers.find transfer.id = some transfer
  only : made = { db with transfers := made.transfers }

theorem requireText_ok {value message text : String} :
    requireText value message = .ok text ↔ trim value ≠ "" ∧ trim value = text := by
  unfold requireText
  split <;> simp [*]

theorem createTransfer_created {dto : CreateTransfer}
    (ran : (createTransfer context dto).run db = .ok (transfer, made)) : Created db made dto transfer := by
  have only := createTransfer_only ran
  simp only [createTransfer, run_bind_ok, run_lift_ok, requireText_ok] at ran
  obtain ⟨_, _, ⟨⟨fromText, rfl⟩, rfl⟩, _, _, ⟨⟨toText, rfl⟩, rfl⟩, ran⟩ := ran
  split at ran
  · simp only [insertTransfer, run_bind_ok, run_lift_ok, run_current_ok, run_failIf_ok,
      assertActiveInventoryLocation_iff, locationOf_trim] at ran
    obtain ⟨_, _, ⟨source, rfl⟩, _, _, ⟨destination, rfl⟩, _, _, ⟨-, rfl⟩, _, _, ⟨rfl, rfl⟩, _, _, ⟨-, rfl⟩, ran⟩ := ran
    split at ran
    · next inserted =>
      obtain ⟨fresh, rfl⟩ := tryInsert_eq_some _ |>.mp inserted
      simp only [run_bind_ok, run_write_ok, run_pure_ok] at ran
      obtain ⟨_, _, rfl, rfl, rfl⟩ := ran
      exact ⟨rfl, rfl, ⟨fromText, toText⟩, rfl, ⟨source, destination⟩,
        @find_insert _ _ _ _ db.transfers _ fresh, only⟩
    · exact absurd ran run_fail_ok
  · exact absurd ran run_fail_ok

end Completing

section Counting

variable {db after : InventoryDb} {context : CallContext} {item : InventoryItem} {itemId code text other : String}
  {countedQuantity : Nat} {result : StockCountResult} {locationCode : Option String}

theorem exists_fresh (texts : List String) : ∃ number : Nat, toString number ∉ texts := by
  obtain ⟨number, fresh⟩ := Infinite.exists_notMem_finset (texts.map decimalValue).toFinset
  refine ⟨number, fun member => fresh ?_⟩
  rw [List.mem_toFinset, List.mem_map]
  exact ⟨_, member, decimalValue_toString number⟩

theorem applyLocationStockCount_balance
    (ran : (applyLocationStockCount code itemId countedQuantity).run db = .ok (result, after))
    (wanted location : String) :
    balanceQuantity after wanted location =
      if wanted = itemId ∧ location = code then countedQuantity else balanceQuantity db wanted location := by
  simp only [applyLocationStockCount, setItemLocationBalanceFromCount, putBalance, run_bind_ok, run_current_ok,
    run_write_ok, run_pure_ok] at ran
  obtain ⟨⟨_, _⟩, _, ⟨_, _, ⟨rfl, rfl⟩, _, _, rfl, counts, rfl⟩, ran⟩ := ran
  cases counts
  rw [← balanceQuantity_putBalance]
  split at ran
  · simp only [run_bind_ok, findItemById_ok, required_ok, run_pure_ok] at ran
    obtain ⟨_, _, ⟨-, rfl⟩, _, _, ⟨-, rfl⟩, -, rfl⟩ := ran
    rfl
  · simp only [run_bind_ok, required_ok, run_pure_ok] at ran
    obtain ⟨_, _, adjusted, mutation, _, ⟨rfl, rfl⟩, -, rfl⟩ := ran
    exact balanceQuantity_congr (changeItemStock_ok adjusted).balances_eq _ _

theorem applyLocationStockCount_runs (known : db.items.find itemId = some item)
    (grown : balanceQuantity db itemId code ≤ countedQuantity) :
    ∃ result after, (applyLocationStockCount code itemId countedQuantity).run db = .ok (result, after) ∧
      after.stockCounts = db.stockCounts := by
  have more : (0 : Int) ≤ item.quantityOnHand + ((countedQuantity : Int) - balanceQuantity db itemId code) := by
    omega
  simp only [applyLocationStockCount, setItemLocationBalanceFromCount, putBalance, run_bind, run_current, run_write,
    run_pure]
  split
  · simp only [findItemById, run_bind, run_current, run_pure, InventoryDb.withBalance, known, required]
    exact ⟨_, _, rfl, rfl⟩
  · simp only [adjustItemStockByVariance, changeItemStock, run_bind, run_current, InventoryDb.withBalance, known,
      addedVariance, if_pos more, run_write, run_pure, required]
    exact ⟨_, _, rfl, rfl⟩

theorem applyStockCount_balance
    (ran : (applyStockCount locationCode itemId countedQuantity).run db = .ok (result, after))
    (wanted location : String) :
    balanceQuantity after wanted location =
      if wanted = itemId ∧ locationCode = some location then countedQuantity
      else balanceQuantity db wanted location := by
  cases locationCode with
  | none =>
    simp only [applyStockCount, applyItemStockCount, run_bind_ok, required_ok, run_pure_ok] at ran
    obtain ⟨_, _, written, mutation, _, ⟨rfl, rfl⟩, -, rfl⟩ := ran
    rw [if_neg fun named => by cases named.2]
    exact balanceQuantity_congr (changeItemStock_ok written).balances_eq _ _
  | some code =>
    rw [applyLocationStockCount_balance ran]
    simp only [Option.some.injEq, eq_comm]

def countOf (itemId : String) (countedQuantity : Nat) (locationCode : Option String) : PostStockCount where
  locationCode
  countedAt := none
  lines := [⟨itemId, countedQuantity⟩]
  notes := none

theorem postStockCount_balance {result : StockCountSnapshot}
    (ran : (postStockCount context (countOf itemId countedQuantity locationCode)).run db = .ok (result, after))
    (wanted location : String) :
    balanceQuantity after wanted location =
      if wanted = itemId ∧ nullableText locationCode = some location then countedQuantity
      else balanceQuantity db wanted location := by
  have lawful : LawfulMonad InventoryTransaction := lawfulMonad
  obtain ⟨_, _, counted, -, balances, -⟩ := postStockCount_ok ran
  simp only [countOf, List.mapM_cons, List.mapM_nil, run_bind_ok, run_pure_ok] at counted
  obtain ⟨_, _, line, _, _, ⟨-, rfl⟩, -, rfl⟩ := counted
  obtain ⟨_, _, applied, -, kept, -⟩ := countLine_ok line
  rw [balanceQuantity_congr balances, balanceQuantity_congr kept, applyStockCount_balance applied]

theorem nullableText_of_present (present : trim text ≠ "") :
    nullableText (some text) = some (trim text) := by
  simp [nullableText, readString, Option.filter, present]

theorem trim_of_nullableText {value : String} (named : nullableText (some text) = some value) :
    trim text = value := by
  simp only [nullableText, readString, Option.map_some, Option.filter_eq_some_iff, Option.some.injEq] at named
  exact named.1

theorem countLine_runs {notes : Option String} (known : db.items.find itemId = some item)
    (grown : balanceQuantity db itemId code ≤ countedQuantity) :
    ∃ line after, (countLine context (some code) notes ⟨itemId, countedQuantity⟩).run db = .ok (line, after) ∧
      after.stockCounts = db.stockCounts := by
  obtain ⟨result, middle, counted, kept⟩ := applyLocationStockCount_runs known grown
  simp only [countLine, applyStockCount, run_bind, run_current, run_pure, findItemById, known, required, counted]
  split
  · exact ⟨_, _, rfl, kept⟩
  · exact ⟨_, _, rfl, kept⟩

theorem postStockCount_runs (present : trim text ≠ "") (active : (locationOf db text).isSome)
    (known : db.items.find itemId = some item) (grown : balanceQuantity db itemId (trim text) ≤ countedQuantity)
    (fresh : ∀ other ∈ db.stockCounts.rows, other.snapshotNumber ≠ context.buildNumber "CNT") :
    ∃ answer, (postStockCount context (countOf itemId countedQuantity (some text))).run db = .ok answer := by
  have lawful : LawfulMonad InventoryTransaction := lawfulMonad
  obtain ⟨line, middle, counted, same⟩ := @countLine_runs db context item itemId (trim text) countedQuantity none known grown
  have located : (assertCountLocation (some (trim text))).run db = .ok ((), db) :=
    assertActiveInventoryLocation_iff.mpr ⟨by rw [locationOf_trim]; exact active, rfl⟩
  let snapshot : StockCountSnapshot :=
    { snapshotNumber := context.buildNumber "CNT"
      locationCode := some (trim text)
      countedAt := nullableText none
      countedByUserId := context.actorUserId
      status := "posted"
      lines := [line]
      varianceCount := ([line].filter fun line => line.varianceQuantity ≠ 0).length
      notes := nullableText none }
  have inserted : middle.stockCounts.tryInsert snapshot = some (middle.stockCounts.insert snapshot (same ▸ fresh)) :=
    tryInsert_eq_some _ |>.mpr ⟨_, rfl⟩
  refine ⟨(snapshot, { middle with stockCounts := middle.stockCounts.insert snapshot (same ▸ fresh) }), ?_⟩
  simp only [postStockCount, countOf, nullableText_of_present present, run_bind, located, List.mapM_cons, List.mapM_nil,
    counted, run_pure, insertStockCount, run_current, inserted, run_write, snapshot]

end Counting

section Distinguishing

variable {db : InventoryDb} {first second : String} {call : InventoryCall} {context : CallContext}

def calledWith (newId number : String) : CallContext where
  actorUserId := none
  now := 0
  today := ""
  newId
  buildNumber := fun _ => number
  buildSecondNumber := fun _ => number

theorem applyCall_of_ok {later : Session InventoryDb}
    (ran : (perform call).run (.begun db []) = .ok ((), later)) : applyCall db call = later.tables :=
  congrArg Prod.fst (@settle_of_ok _ _ _ _ perform ⟨call, []⟩ db _ _ ran)

theorem applyCall_cases (motive : InventoryDb → Prop) (fails : motive db)
    (succeeds : ∀ later, (perform call).run (.begun db []) = .ok ((), later) → motive later.tables) :
    motive (applyCall db call) :=
  @settle_preserves _ _ _ _ perform ⟨call, []⟩ db motive fails fun _ later ran => succeeds later ran

def emptyItem (sku : String) : CreateInventoryItem where
  itemName := "Chalk"
  sku
  categoryId := none
  unit := "box"
  quantity := 0
  supplierId := none
  unitPrice := 0
  reorderLevel := 0
  storageLocation := none
  notes := none

theorem emptyItem_made {number : Nat} (present : toString number ≠ "") :
    ∃ item, newItem context (emptyItem (toString number)) = .ok item ∧ item.id = context.newId ∧
      item.sku = toString number := by
  have named : requireText (toString number) "SKU is required" = .ok (toString number) :=
    requireText_ok.mpr ⟨by rw [trim_toString]; exact present, trim_toString number⟩
  have others : requireText "Chalk" "Item name is required" = .ok "Chalk" ∧
      requireText "box" "Unit is required" = .ok "box" := by
    decide +kernel
  simp only [newItem, emptyItem, named, others]
  exact ⟨_, rfl, rfl, rfl⟩

theorem createItem_runs {sku : String} {item : InventoryItem}
    (made : newItem context (emptyItem sku) = .ok item) (unknown : ∀ other ∈ db.items.rows, other.id ≠ item.id)
    (free : ¬ ∃ other ∈ db.items.rows, other.sku = item.sku) :
    applyCall db ⟨context, .createItem (emptyItem sku)⟩ = { db with items := db.items.insert item unknown } := by
  have unlocated : assertOptionalStorageLocation (nullableText none) = pure () := rfl
  have inserted : db.items.tryInsert item = some (db.items.insert item unknown) :=
    tryInsert_eq_some _ |>.mpr ⟨_, rfl⟩
  have ran : (createItem context (emptyItem sku)).run db =
      .ok (item, { db with items := db.items.insert item unknown }) := by
    simp only [createItem]
    rw [made]
    simp only [emptyItem, unlocated, insertItem, run_bind, run_pure, run_lift, Except.map, run_current, run_failIf,
      if_neg free, inserted, run_write, Nat.lt_irrefl, if_false]
  have performed : (perform ⟨context, .createItem (emptyItem sku)⟩).run (.begun db []) =
      .ok ((), ⟨{ db with items := db.items.insert item unknown }, db, []⟩) :=
    discard_ok.mpr ⟨item, run_onTables_ok.mpr ⟨_, ran, rfl⟩⟩
  exact applyCall_of_ok performed

theorem exists_createItem (db : InventoryDb) :
    ∃ call itemId, (∃ item, (applyCall db call).items.find itemId = some item) ∧
      (applyCall db call).locations = db.locations := by
  obtain ⟨id, freshId⟩ := exists_fresh (db.items.rows.map (·.id))
  obtain ⟨sku, freshSku⟩ := exists_fresh ("" :: db.items.rows.map (·.sku))
  have present : toString sku ≠ "" := fun empty => freshSku (empty ▸ List.mem_cons_self)
  obtain ⟨item, made, ownId, ownSku⟩ := @emptyItem_made (calledWith (toString id) "") sku present
  have unknown : ∀ other ∈ db.items.rows, other.id ≠ item.id := fun other member same =>
    freshId (List.mem_map.mpr ⟨other, member, same.trans ownId⟩)
  have free : ¬ ∃ other ∈ db.items.rows, other.sku = item.sku := fun ⟨other, member, same⟩ =>
    freshSku (List.mem_cons_of_mem _ (List.mem_map.mpr ⟨other, member, same.trans ownSku⟩))
  refine ⟨⟨calledWith (toString id) "", .createItem (emptyItem (toString sku))⟩, item.id, ?_⟩
  rw [createItem_runs made unknown free]
  exact ⟨⟨item, @find_insert _ _ _ _ db.items _ unknown⟩, rfl⟩

theorem exists_count (present : trim first ≠ "") (active : (locationOf db first).isSome)
    (differs : trim second ≠ trim first) :
    ∃ calls : String → List InventoryCall, List.Forall₂ (Respelled first second) (calls first) (calls second) ∧
      ((calls first).foldl applyCall db).balances ≠ ((calls second).foldl applyCall db).balances := by
  obtain ⟨creating, itemId, ⟨item, known⟩, located⟩ := exists_createItem db
  let middle := applyCall db creating
  obtain ⟨number, fresh⟩ := exists_fresh (middle.stockCounts.rows.map (·.snapshotNumber))
  let context := calledWith "" (toString number)
  let countedQuantity := balanceQuantity middle itemId (trim first) + 1
  let use := LocationUse.postStockCount (countOf itemId countedQuantity none)
  refine ⟨fun text => [creating, ⟨context, use.operation text⟩],
    .cons (.same creating) (.cons (.forth context use) .nil), fun same => ?_⟩
  have balances (wanted location : String) :
      balanceQuantity (applyCall middle ⟨context, use.operation first⟩) wanted location =
        balanceQuantity (applyCall middle ⟨context, use.operation second⟩) wanted location :=
    balanceQuantity_congr same wanted location
  have counted : balanceQuantity (applyCall middle ⟨context, use.operation first⟩) itemId (trim first) =
      countedQuantity := by
    have unused : ∀ other ∈ middle.stockCounts.rows, other.snapshotNumber ≠ context.buildNumber "CNT" :=
      fun other member same => fresh (List.mem_map.mpr ⟨other, member, same⟩)
    obtain ⟨⟨snapshot, after⟩, ran⟩ := postStockCount_runs present
      (by rw [locationOf_congr located]; exact active) known (Nat.le_succ _) unused
    have performed : (perform ⟨context, use.operation first⟩).run (.begun middle []) = .ok ((), ⟨after, middle, []⟩) :=
      discard_ok.mpr ⟨snapshot, run_onTables_ok.mpr ⟨_, ran, rfl⟩⟩
    rw [applyCall_of_ok performed]
    exact (postStockCount_balance ran _ _).trans (if_pos ⟨rfl, nullableText_of_present present⟩)
  have kept : balanceQuantity (applyCall middle ⟨context, use.operation second⟩) itemId (trim first) =
      balanceQuantity middle itemId (trim first) := by
    apply applyCall_cases (fun after => balanceQuantity after itemId (trim first) = _) rfl
    intro later performed
    obtain ⟨snapshot, posted⟩ := discard_ok.mp performed
    obtain ⟨after, ran, rfl⟩ := run_onTables_ok.mp posted
    have counted : (postStockCount context (countOf itemId countedQuantity (some second))).run middle =
        .ok (snapshot, after) := ran
    exact (postStockCount_balance counted _ _).trans (if_neg fun ⟨_, named⟩ => differs (trim_of_nullableText named))
  have equal := balances itemId (trim first)
  rw [counted, kept] at equal
  exact absurd equal (Nat.succ_ne_self _)

theorem Respelled.swap {other : InventoryCall} (respelled : Respelled first second call other) :
    Respelled second first call other := by
  cases respelled with
  | same call => exact .same call
  | forth context use => exact .back context use
  | back context use => exact .forth context use

theorem SameBalances.swap (same : SameBalances db first second) : SameBalances db second first :=
  fun calls respelled spelled => same calls respelled (spelled.imp fun _ _ => Respelled.swap)

theorem trim_eq_of_sameBalances (same : SameBalances db first second) (firstActive : (locationOf db first).isSome)
    (secondActive : (locationOf db second).isSome) : trim first = trim second := by
  by_contra differs
  by_cases present : trim first = ""
  · have other : trim second ≠ "" := fun empty => differs (present.trans empty.symm)
    obtain ⟨calls, spelled, apart⟩ := exists_count other secondActive differs
    exact apart (same.swap _ _ spelled)
  · obtain ⟨calls, spelled, apart⟩ := exists_count present firstActive (Ne.symm differs)
    exact apart (same _ _ spelled)

end Distinguishing

section Stock

variable {db made : InventoryDb} {location : InventoryLocation} {text : String}

theorem balanceQuantity_le_stockAt (called : locationOf db text = some location) (itemId : String) :
    balanceQuantity db itemId (trim text) ≤ stockAt db location itemId := by
  unfold balanceQuantity stockAt
  cases found : db.balances.find (itemId, trim text) with
  | none => exact Nat.zero_le _
  | some balance =>
    obtain ⟨member, own⟩ := find_eq_some _ |>.mp found
    obtain ⟨rfl, named⟩ := Prod.mk.inj own
    have here : locationOf db balance.locationCode = some location := by
      rw [named, locationOf_trim, called]
    apply Table.le_total member
    exact ⟨rfl, here⟩

theorem lineTotal_le_iff {lines : List InventoryLine} {first second : String → Nat}
    (known : ∀ line ∈ lines, ¬ line.isEmpty → (db.items.find line.itemId).isSome)
    (same : ∀ itemId, itemId ≠ "" → (db.items.find itemId).isSome → first itemId = second itemId) :
    (∀ itemId, lineTotal lines itemId ≤ first itemId) ↔ ∀ itemId, lineTotal lines itemId ≤ second itemId := by
  apply forall_congr'
  intro itemId
  by_cases there : itemId ≠ "" ∧ (db.items.find itemId).isSome
  · rw [same itemId there.1 there.2]
  · have none : lineTotal lines itemId = 0 := by
      apply Table.total_eq_zero
      rintro line member ⟨counted, rfl⟩
      exact there ⟨fun empty => counted (.inl empty), known line member counted⟩
    simp only [none, Nat.zero_le]

theorem created_completes_iff {context completing : CallContext} {dto : CreateTransfer} {transfer : InventoryTransfer}
    {notes : Option String} (ran : (createTransfer context dto).run db = .ok (transfer, made))
    (known : ∀ line ∈ transfer.lines, ¬ line.isEmpty → (db.items.find line.itemId).isSome) :
    Completes made completing transfer.id notes ↔
      ∀ itemId, lineTotal transfer.lines itemId ≤ balanceQuantity db itemId (trim dto.fromLocation) := by
  have created := createTransfer_created ran
  have locations : made.locations = db.locations := by rw [created.only]
  have items : made.items = db.items := by rw [created.only]
  have balances : made.balances = db.balances := by rw [created.only]
  have source : (locationOf made transfer.fromLocation).isSome := by
    rw [created.source, locationOf_trim, locationOf_congr locations]
    exact created.active.1
  have destination : (locationOf made transfer.toLocation).isSome := by
    rw [created.destination, locationOf_trim, locationOf_congr locations]
    exact created.active.2
  rw [completes_iff created.stored source destination (by rw [items]; exact known), created.source]
  simp only [balanceQuantity_congr balances]

theorem completes_byStock (kept : HasDestination db location text → KeptUnder db location text) :
    CompletesByStock db location text := by
  rintro context dto transfer made rfl elsewhere ran known completing notes
  have created := createTransfer_created ran
  have away : HasDestination db location dto.fromLocation := by
    refine ⟨created.present.1, dto.toLocation, created.present.2, ?_, created.active.2, elsewhere⟩
    rw [← created.source, ← created.destination]
    exact transfer.apart
  rw [created_completes_iff ran known]
  apply lineTotal_le_iff known
  intro itemId named there
  exact (kept away itemId named there).symm

theorem createTransfer_runs (called : locationOf db text = some location)
    (destination : HasDestination db location text) (lines : List InventoryLine) :
    ∃ context dto transfer made, dto.fromLocation = text ∧ locationOf db dto.toLocation ≠ some location ∧
      transfer.lines = lines ∧ (createTransfer context dto).run db = .ok (transfer, made) := by
  obtain ⟨present, other, otherPresent, apart, active, elsewhere⟩ := destination
  obtain ⟨id, freshId⟩ := exists_fresh (db.transfers.rows.map (·.id))
  obtain ⟨number, freshNumber⟩ := exists_fresh (db.transfers.rows.map (·.transferNumber))
  let context := calledWith (toString id) (toString number)
  let dto : CreateTransfer := ⟨text, other, "Clerk", lines, none⟩
  let transfer := newTransfer context dto (trim text) (trim other) "Clerk" apart
  have unknown : ∀ stored ∈ db.transfers.rows, stored.id ≠ transfer.id := fun stored member same =>
    freshId (List.mem_map.mpr ⟨stored, member, same⟩)
  have free : ¬ ∃ stored ∈ db.transfers.rows, stored.transferNumber = transfer.transferNumber :=
    fun ⟨stored, member, same⟩ => freshNumber (List.mem_map.mpr ⟨stored, member, same⟩)
  have inserted : db.transfers.tryInsert transfer = some (db.transfers.insert transfer unknown) :=
    tryInsert_eq_some _ |>.mpr ⟨_, rfl⟩
  let made := { db with transfers := db.transfers.insert transfer unknown }
  refine ⟨context, dto, transfer, made, rfl, elsewhere, rfl, ?_⟩
  have requester : requireText "Clerk" "Requester is required" = .ok "Clerk" := by decide +kernel
  simp only [createTransfer, run_bind_ok, run_lift_ok]
  refine ⟨_, _, ⟨requireText_ok.mpr ⟨present, rfl⟩, rfl⟩, _, _, ⟨requireText_ok.mpr ⟨otherPresent, rfl⟩, rfl⟩, ?_⟩
  rw [dif_pos apart]
  simp only [run_bind_ok, run_lift_ok, assertActiveInventoryLocation_iff, locationOf_trim]
  refine ⟨(), _, ⟨by rw [called]; rfl, rfl⟩, (), _, ⟨active, rfl⟩, _, _, ⟨requester, rfl⟩, ?_⟩
  simp only [insertTransfer, run_bind, run_current, run_failIf]
  rw [if_neg free, inserted]
  rfl

theorem keptUnder_of_completes (called : locationOf db text = some location)
    (completes : CompletesByStock db location text) (destination : HasDestination db location text) :
    KeptUnder db location text := by
  intro itemId named known
  apply le_antisymm _ (balanceQuantity_le_stockAt called itemId)
  by_contra less
  let line : InventoryLine := ⟨itemId, "", stockAt db location itemId, 0⟩
  have counted : ¬ line.isEmpty := by
    rintro (empty | empty)
    · exact named empty
    · have nothing : stockAt db location itemId = 0 := empty
      omega
  have total (wanted : String) :
      lineTotal [line] wanted = if itemId = wanted then stockAt db location itemId else 0 := by
    rw [lineTotal, Table.total_cons, Table.total_nil, Nat.add_zero]
    simp only [counted, not_false_eq_true, true_and, line]
  obtain ⟨context, dto, transfer, made, rfl, elsewhere, lines, ran⟩ := createTransfer_runs called destination [line]
  have listed : ∀ line ∈ transfer.lines, ¬ line.isEmpty → (db.items.find line.itemId).isSome := by
    rw [lines]
    intro other member _
    rw [List.mem_singleton.mp member]
    exact known
  have moved : Completes made context transfer.id none := by
    apply (completes context dto transfer made rfl elsewhere ran listed context none).mpr
    intro wanted
    rw [lines, total]
    split
    · next own => rw [own]
    · exact Nat.zero_le _
  have enough := (created_completes_iff ran listed).mp moved itemId
  rw [lines, total, if_pos rfl] at enough
  exact less enough

end Stock

def mainStore : InventoryLocation := ⟨"STORE-A", "Main store", "active"⟩

def twoStores : InventoryDb :=
  { InventoryDb.empty with locations := (KeyedTable.empty.put mainStore).put ⟨"STORE-B", "Kitchen store", "active"⟩ }

def betweenNames : CreateTransfer := ⟨"STORE-A", "Main store", "Clerk", [⟨"item-1", "Chalk", 5, 0⟩], none⟩

end ShuleHub.Inventory
