import ShuleHub.Inventory.Reconciliation

/-! What the statements on requests do to the sums over the reservations, the backorders and the issues. -/

namespace ShuleHub.Inventory

open Transaction Snapshots KeyedTable Table

variable {db after : InventoryDb} {requestId : String}

abbrev ReservationKey := String × String × ReservationStatus

def reservationTotal (db : InventoryDb) (requestId itemId : String) (status : ReservationStatus) : Nat :=
  db.reservations.sum (· = (requestId, itemId, status)) (·.quantity)

def backorderTotal (db : InventoryDb) (requestId itemId : String) : Nat :=
  db.backorders.sum (· = (requestId, itemId, .open)) (·.backorderedQuantity)

def issuedFor (db : InventoryDb) (requestNumber itemId : String) : Nat :=
  Table.total (fun movement : InventoryStockMovement =>
    movement.movementType = "stock_issue" ∧ movement.reference = some requestNumber ∧ movement.itemId = itemId)
    (·.quantity) db.movements

def fulfillmentTotal (lines : List RequestFulfillmentLine) (itemId : String) : Nat :=
  Table.total (fun line : RequestFulfillmentLine => ¬ line.isEmpty ∧ line.itemId = itemId) (·.quantity) lines

theorem backorderTotal_eq_zero_iff :
    (∀ itemId, backorderTotal db requestId itemId = 0) ↔ openBackorders requestId db = 0 := by
  have each (itemId : String) : backorderTotal db requestId itemId = 0 ↔
      ∀ row ∈ db.backorders.rows, ¬ (row.requestId, row.itemId, row.status) = (requestId, itemId, .open) :=
    sum_eq_zero_iff fun row _ => row.positive.2
  simp only [each, openBackorders, List.length_eq_zero_iff, List.filter_eq_nil_iff, decide_eq_true_eq, Prod.mk.injEq]
  constructor
  · intro none row member held
    exact none row.itemId row member ⟨held.1, rfl, held.2⟩
  · intro none itemId row member held
    exact none row member ⟨held.1, held.2.2⟩

theorem reservedTotal_eq_zero_iff :
    (∀ itemId, reservationTotal db requestId itemId .reserved = 0) ↔ reservedRows requestId db = [] := by
  have each (itemId : String) : reservationTotal db requestId itemId .reserved = 0 ↔
      ∀ row ∈ db.reservations.rows, ¬ (row.requestId, row.itemId, row.status) = (requestId, itemId, .reserved) :=
    sum_eq_zero_iff fun row _ => row.positive
  simp only [each, reservedRows, List.filter_eq_nil_iff, decide_eq_true_eq, Prod.mk.injEq]
  constructor
  · intro none row member held
    exact none row.itemId row member ⟨held.1, rfl, held.2⟩
  · intro none itemId row member held
    exact none row member ⟨held.1, held.2.2⟩

theorem fulfillmentTotal_heldLines
    (named : reservationTotal db requestId "" .reserved = 0) (itemId : String) :
    fulfillmentTotal (heldLines requestId db) itemId = reservationTotal db requestId itemId .reserved := by
  have held : fulfillmentTotal (heldLines requestId db) itemId =
      total (fun row => (row.requestId = requestId ∧ row.status = .reserved) ∧
        ¬ (row.itemId = "" ∨ row.quantity = 0) ∧ row.itemId = itemId) (·.quantity) db.reservations.rows := by
    rw [fulfillmentTotal, heldLines, total_map, reservedRows, total_filter]
    rfl
  rw [held]
  by_cases blank : itemId = ""
  · rw [blank, named]
    exact total_eq_zero fun row _ counted => counted.2.1 (.inl counted.2.2)
  · refine total_congr fun row _ => ?_
    have positive : row.quantity ≠ 0 := Nat.ne_of_gt row.positive
    simp only [Prod.mk.injEq]
    constructor
    · exact fun counted => ⟨counted.1.1, counted.2.2, counted.1.2⟩
    · rintro ⟨request, rfl, reserved⟩
      exact ⟨⟨request, reserved⟩, fun empty => empty.elim blank positive, rfl⟩

theorem fulfillmentTotal_requestLines (lines : List InventoryLine) (itemId : String) :
    fulfillmentTotal (requestLinesToFulfillmentLines lines) itemId = lineTotal lines itemId := by
  rw [fulfillmentTotal, requestLinesToFulfillmentLines, total_map]
  rfl

structure Reserved (requestId itemId : String) (quantity : Nat) (db after : InventoryDb) : Prop where
  only : after = { db with reservations := after.reservations }
  sum : ∀ (counts : ReservationKey → Prop) [DecidablePred counts],
    after.reservations.sum counts (·.quantity) =
      db.reservations.sum counts (·.quantity) + if counts (requestId, itemId, .reserved) then quantity else 0

/-- The open backorder of the request and the item is for the quantity now, whatever it was for before. -/
structure Backordered (requestId itemId : String) (quantity : Nat) (db after : InventoryDb) : Prop where
  known : db.items.find itemId ≠ none
  only : after = { db with backorders := after.backorders }
  totals : ∀ request item, backorderTotal after request item =
    if request = requestId ∧ item = itemId then quantity else backorderTotal db request item

/-- What became of a line for which `reserved` was reserved already. -/
def ReservationOutcome (requestId itemId : String) (quantity reserved : Nat) (db after : InventoryDb) :
    Option InventoryReservation → Prop
  | none => after = db ∧ onHand db itemId < reserved + quantity
  | some _ => reserved + quantity ≤ onHand db itemId ∧ Reserved requestId itemId quantity db after

section Reservations

variable {requestId itemId : String} {quantity : Nat} {positive : 0 < quantity} {actorUserId : Option String}
  {db after : InventoryDb} {reservation : Option InventoryReservation} {session later : Session InventoryDb}
  {backorder : InventoryRequestBackorder} {done : Unit}

theorem upsertReservation_ok {reservation : InventoryReservation}
    (ran : (upsertReservation requestId itemId quantity positive actorUserId).run db = .ok (reservation, after)) :
    Reserved requestId itemId quantity db after := by
  simp only [upsertReservation, run_bind_ok, run_current_ok, run_write_ok, run_pure_ok] at ran
  obtain ⟨_, _, ⟨rfl, rfl⟩, _, _, rfl, rfl, rfl⟩ := ran
  refine ⟨rfl, fun counts _ => ?_⟩
  have quantityOf (held : Option InventoryReservation) : (held.map (·.quantity)).getD 0 = held.elim 0 (·.quantity) := by
    cases held <;> rfl
  exact sum_put_grown (congrArg (· + quantity) (quantityOf _))

theorem reserveRequestLine_ok
    (ran : (reserveRequestLine requestId itemId quantity positive actorUserId).run session =
      .ok (reservation, later)) :
    ∃ reserved middle,
      (visibleTotal (reservedQuantity itemId) : InventorySession Nat).run session = .ok (reserved, middle) ∧
      later = { middle with tables := later.tables } ∧
      ReservationOutcome requestId itemId quantity reserved session.tables later.tables reservation := by
  simp only [reserveRequestLine, run_bind_ok, run_onTables_ok, findItemById_ok] at ran
  obtain ⟨reserved, middle, read, tables, ⟨_, _, ⟨found, rfl⟩, ran⟩, rfl⟩ := ran
  refine ⟨reserved, middle, read, rfl, ?_⟩
  rw [(run_visibleTotal_ok read).1] at found ran
  split at ran
  · obtain ⟨rfl, rfl⟩ := run_pure_ok.mp ran
    refine ⟨rfl, ?_⟩
    rw [onHand, found]
    exact Nat.add_pos_right reserved positive
  · next item =>
    have shown := onHand_of_find found
    split at ran
    · next fits =>
      simp only [run_bind_ok, run_pure_ok] at ran
      obtain ⟨_, _, stored, rfl, rfl⟩ := ran
      exact ⟨shown.symm ▸ fits, upsertReservation_ok stored⟩
    · next exceeds =>
      obtain ⟨rfl, rfl⟩ := run_pure_ok.mp ran
      exact ⟨rfl, shown.symm ▸ Nat.lt_of_not_le exceeds⟩

theorem reserveRequestLine_alone
    (alone : session.snapshots = [])
    (ran : (reserveRequestLine requestId itemId quantity positive actorUserId).run session =
      .ok (reservation, later)) :
    later.snapshots = [] ∧ ReservationOutcome requestId itemId quantity (reservedQuantity itemId session.tables)
      session.tables later.tables reservation := by
  obtain ⟨reserved, middle, read, same, result⟩ := reserveRequestLine_ok ran
  obtain ⟨rfl, rfl⟩ := visibleTotal_of_alone read alone
  refine ⟨?_, result⟩
  rw [same]
  exact alone

theorem recordRequestBackorder_ok {requestedQuantity reservedQuantity : Nat}
    {positive : 0 < requestedQuantity ∧ 0 < requestedQuantity - reservedQuantity}
    (ran : (recordRequestBackorder requestId itemId requestedQuantity reservedQuantity positive).run db =
      .ok (backorder, after)) :
    Backordered requestId itemId (requestedQuantity - reservedQuantity) db after := by
  simp only [recordRequestBackorder, run_bind_ok, run_current_ok, run_failIf_ok, run_write_ok, run_pure_ok] at ran
  obtain ⟨_, _, ⟨rfl, rfl⟩, _, _, ⟨known, rfl⟩, _, _, rfl, -, rfl⟩ := ran
  refine ⟨known, rfl, fun request item => ?_⟩
  rw [backorderTotal, sum_key_put]
  simp [backorderTotal]

theorem markRequestReservationsFulfilled_totals
    (ran : (markRequestReservationsFulfilled requestId).run db = .ok (done, after)) :
    after = { db with reservations := after.reservations } ∧ ∀ request item,
      reservationTotal after request item .reserved =
          (if request = requestId then 0 else reservationTotal db request item .reserved) ∧
        reservationTotal after request item .fulfilled = reservationTotal db request item .fulfilled +
          if request = requestId then reservationTotal db request item .reserved else 0 := by
  obtain ⟨reservations, changed, rfl⟩ := markRequestReservationsFulfilled_ok ran
  refine ⟨rfl, fun request item => ?_⟩
  have after (status : ReservationStatus) : reservationTotal { db with reservations } request item status =
      total (fun row => (row.requestId, row.itemId, (fulfilled requestId row).status) = (request, item, status))
        (·.quantity) db.reservations.rows := by
    have same (row : InventoryReservation) : (fulfilled requestId row).requestId = row.requestId ∧
        (fulfilled requestId row).itemId = row.itemId ∧ (fulfilled requestId row).quantity = row.quantity := by
      unfold fulfilled
      split <;> exact ⟨rfl, rfl, rfl⟩
    simp only [reservationTotal, sum, ← changed, total_map, same]
  have moved (row : InventoryReservation) : (fulfilled requestId row).status =
      if row.requestId = requestId ∧ row.status = .reserved then .fulfilled else row.status := by
    unfold fulfilled
    split <;> rfl
  rw [after, after]
  by_cases own : request = requestId
  · subst own
    rw [if_pos rfl, if_pos rfl]
    constructor
    · refine total_eq_zero fun row _ same => ?_
      simp only [moved, Prod.mk.injEq] at same
      obtain ⟨held, -, still⟩ := same
      split at still
      · cases still
      · next other => exact other ⟨held, still⟩
    · have apart (row : InventoryReservation) (same : (row.requestId, row.itemId, row.status) = (request, item, .fulfilled)) :
          ¬ (row.requestId, row.itemId, row.status) = (request, item, .reserved) := by
        rw [same]
        simp
      refine Eq.trans (total_congr fun row _ => ?_) (total_or apart)
      simp only [moved, Prod.mk.injEq]
      cases row.status <;> simp +contextual
  · rw [if_neg own, if_neg own, Nat.add_zero]
    have kept (status : ReservationStatus) (row : InventoryReservation) :
        (row.requestId, row.itemId, (fulfilled requestId row).status) = (request, item, status) ↔
          (row.requestId, row.itemId, row.status) = (request, item, status) := by
      simp only [moved, Prod.mk.injEq]
      refine and_congr_right fun held => ?_
      rw [if_neg fun other => own (held.symm.trans other.1)]
    exact ⟨total_congr fun row _ => kept _ row, total_congr fun row _ => kept _ row⟩

theorem markRequestBackorderResolved_totals (ran : (markRequestBackorderResolved backorder).run db = .ok (done, after)) :
    after = { db with backorders := after.backorders } ∧
      (∀ other ∈ db.backorders.rows,
        (other.requestId = backorder.requestId → other.itemId ≠ backorder.itemId) → other ∈ after.backorders.rows) ∧
      ∀ request item, backorderTotal after request item =
        if request = backorder.requestId ∧ item = backorder.itemId then 0 else backorderTotal db request item := by
  simp only [markRequestBackorderResolved, run_bind_ok, run_current_ok] at ran
  obtain ⟨_, _, ⟨rfl, rfl⟩, ran⟩ := ran
  split at ran
  · next backorders changed =>
    obtain rfl := run_write_ok.mp ran
    have changed := (tryModify_eq_some _).mp changed
    have same (row : InventoryRequestBackorder) : (resolved backorder row).requestId = row.requestId ∧
        (resolved backorder row).itemId = row.itemId ∧
          (resolved backorder row).backorderedQuantity = row.backorderedQuantity := by
      unfold resolved
      split <;> exact ⟨rfl, rfl, rfl⟩
    refine ⟨rfl, fun other member apart => ?_, fun request item => ?_⟩
    · have unchanged : resolved backorder other = other := if_neg fun own => apart own.1 own.2.1
      have listed := List.mem_map_of_mem (f := resolved backorder) member
      rwa [unchanged, changed] at listed
    · have after : backorderTotal { db with backorders } request item =
          total (fun row => (row.requestId, row.itemId, (resolved backorder row).status) = (request, item, .open))
            (·.backorderedQuantity) db.backorders.rows := by
        simp only [backorderTotal, sum, ← changed, total_map, same]
      rw [after]
      split
      · next own =>
        refine total_eq_zero fun row _ same => ?_
        simp only [Prod.mk.injEq] at same
        obtain ⟨request, item, still⟩ := same
        by_cases open' : isOpen row
        · have closed : (resolved backorder row).status = .resolved := by
            rw [resolved, if_pos ⟨request.trans own.1, item.trans own.2, open'⟩]
          rw [closed] at still
          cases still
        · have unchanged : resolved backorder row = row := if_neg fun held => open' held.2.2
          rw [unchanged] at still
          exact open' still
      · next other =>
        refine total_congr fun row _ => ?_
        simp only [Prod.mk.injEq]
        refine and_congr_right fun request => and_congr_right fun item => ?_
        have unchanged : resolved backorder row = row :=
          if_neg fun held => other ⟨request.symm.trans held.1, item.symm.trans held.2.1⟩
        rw [unchanged]
  · exact absurd ran run_fail_ok

theorem markRequestReservationsFulfilled_reserved
    (ran : (markRequestReservationsFulfilled requestId).run db = .ok (done, after)) (itemId : String) :
    reservedQuantity itemId after + reservationTotal db requestId itemId .reserved = reservedQuantity itemId db := by
  obtain ⟨reservations, changed, rfl⟩ := markRequestReservationsFulfilled_ok ran
  have left : reservedQuantity itemId { db with reservations } =
      total (fun row => (row.itemId = itemId ∧ row.status = .reserved) ∧ row.requestId ≠ requestId) (·.quantity)
        db.reservations.rows := by
    have same (row : InventoryReservation) : (fulfilled requestId row).quantity = row.quantity := by
      unfold fulfilled
      split <;> rfl
    rw [reservedQuantity, ← changed, total_map]
    simp only [same]
    refine total_congr fun row _ => ?_
    unfold fulfilled
    split
    · next own => simp [own.1]
    · next other =>
      constructor
      · exact fun counted => ⟨counted, fun held => other ⟨held, counted.2⟩⟩
      · exact fun counted => counted.1
  have own : reservationTotal db requestId itemId .reserved =
      total (fun row => (row.itemId = itemId ∧ row.status = .reserved) ∧ row.requestId = requestId) (·.quantity)
        db.reservations.rows := by
    refine total_congr fun row _ => ?_
    simp only [Prod.mk.injEq]
    tauto
  rw [left, own, ← total_or fun row other own => other.2 own.2]
  refine total_congr fun row _ => ?_
  tauto

end Reservations

theorem StockChanged.withdrew {itemId : String} {quantity : Nat}
    {mutation : InventoryStockMutation} (changed : StockChanged db after itemId (withdrawn quantity) mutation)
    (wanted : String) : onHand after wanted + (if itemId = wanted then quantity else 0) = onHand db wanted := by
  have left := changed.changed
  rw [withdrawn] at left
  split at left
  · have left := Option.some.inj left
    rw [changed.onHand_eq]
    by_cases own : itemId = wanted
    · rw [if_pos own.symm, if_pos own, ← own, changed.before]
      omega
    · rw [if_neg (Ne.symm own), if_neg own, Nat.add_zero]
  · cases left

theorem setRequestStatus_only {context : CallContext} {status : String} {notes actorUserId : Option String} {request : Option InventoryRequest}
    (ran : (setRequestStatus context requestId status notes actorUserId).run db = .ok (request, after)) :
    after = { db with requests := after.requests } := by
  simp only [setRequestStatus, run_bind_ok, run_current_ok] at ran
  obtain ⟨_, _, ⟨rfl, rfl⟩, ran⟩ := ran
  split at ran
  · obtain ⟨-, rfl⟩ := run_pure_ok.mp ran
    rfl
  · simp only [run_bind_ok, run_write_ok, run_pure_ok] at ran
    obtain ⟨_, _, rfl, -, rfl⟩ := ran
    rfl

section Issues

variable {context : CallContext} {request : InventoryRequest} {notes : Option String} {db after : InventoryDb}
  {done : Unit}

/-- What issuing lines for a request did: it took them from the stock and recorded them under its number. -/
structure Issued (requestNumber : String) (lines : List RequestFulfillmentLine) (db after : InventoryDb) : Prop where
  only : after = { db with items := after.items, movements := after.movements }
  onHand : ∀ itemId, onHand after itemId + fulfillmentTotal lines itemId = onHand db itemId
  issued : ∀ number itemId, issuedFor after number itemId =
    issuedFor db number itemId + if number = requestNumber then fulfillmentTotal lines itemId else 0

theorem issueRequestStockLine_issued {line : RequestFulfillmentLine}
    (ran : (issueRequestStockLine context request notes line).run db = .ok (done, after)) :
    Issued request.requestNumber [line] db after := by
  by_cases empty : line.isEmpty
  · rw [issueRequestStockLine, if_pos empty] at ran
    obtain ⟨-, rfl⟩ := run_pure_ok.mp ran
    refine ⟨rfl, fun itemId => ?_, fun number itemId => ?_⟩ <;> simp [fulfillmentTotal, total_cons, empty]
  · simp only [issueRequestStockLine, if_neg empty, run_bind_ok, required_ok, recordStockMovement_ok] at ran
    obtain ⟨_, middle, written, mutation, _, ⟨rfl, rfl⟩, rfl⟩ := ran
    have changed := changeItemStock_ok written
    have total (itemId : String) :
        fulfillmentTotal [line] itemId = if line.itemId = itemId then line.quantity else 0 := by
      simp [fulfillmentTotal, total_cons, empty]
    refine ⟨by rw [changed.stored], fun itemId => ?_, fun number itemId => ?_⟩
    · rw [total]
      exact changed.withdrew itemId
    · have movements : middle.movements = db.movements := by rw [changed.stored]
      simp only [issuedFor, total_append, total_cons, total_nil, movements, total, requestMovement]
      by_cases own : request.requestNumber = number
      · simp [own]
      · simp [own, Ne.symm own]

theorem Issued.trans {requestNumber : String} {first second : List RequestFulfillmentLine} {middle : InventoryDb}
    (before : Issued requestNumber first db middle) (later : Issued requestNumber second middle after) :
    Issued requestNumber (first ++ second) db after := by
  have total (itemId : String) : fulfillmentTotal (first ++ second) itemId =
      fulfillmentTotal first itemId + fulfillmentTotal second itemId := total_append _ _ first second
  refine ⟨later.only.trans ?_, fun itemId => ?_, fun number itemId => ?_⟩
  · rw [before.only]
  · rw [total, ← before.onHand, ← later.onHand]
    omega
  · rw [total, later.issued, before.issued]
    split <;> omega

theorem issueRequestStockLines_issued {lines : List RequestFulfillmentLine}
    (ran : (issueRequestStockLines context request lines notes).run db = .ok (done, after)) :
    Issued request.requestNumber lines db after := by
  simp only [issueRequestStockLines, run_bind_ok, run_pure_ok] at ran
  obtain ⟨_, _, issued, -, rfl⟩ := ran
  have kept := mapM_induction
    (motive := fun rest other => ∃ first, first ++ rest = lines ∧ Issued request.requestNumber first db other)
    issued ⟨[], rfl, ⟨rfl, fun _ => rfl, fun _ _ => by simp [fulfillmentTotal]⟩⟩ fun line rest other _ last before step => by
      obtain ⟨first, whole, sofar⟩ := before
      exact ⟨first ++ [line], by simp [whole], sofar.trans (issueRequestStockLine_issued step)⟩
  obtain ⟨first, whole, all⟩ := kept
  rw [List.append_nil] at whole
  exact whole ▸ all

end Issues

end ShuleHub.Inventory
