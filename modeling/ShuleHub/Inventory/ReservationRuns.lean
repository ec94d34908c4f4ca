import ShuleHub.Inventory.ReservationCover
import ShuleHub.Inventory.RequestRuns

/-! The interleavings in which the stock on hand covers what is reserved, and with it every fulfilment of a request
that has reserved all it asks for. -/

namespace ShuleHub.Inventory

open Runs Transaction Snapshots

def fulfilledRequest (call : InventoryCall) : Option String :=
  match call.operation with
  | .updateRequestStatus requestId dto => if dto.status = "fulfilled" then some requestId else none
  | _ => none

def HoldsAll (requestId : String) (db : InventoryDb) : Prop :=
  ∃ request, db.requests.find requestId = some request ∧ request.status = "approved" ∧
    ∀ itemId, lineTotal request.lines itemId ≤ reservationTotal db requestId itemId .reserved

abbrev FinishedInventoryCall := Snapshots.Finished InventoryDb InventoryCall Exception Unit

structure CoverLaw (db : InventoryDb) (finished : List FinishedInventoryCall) : Prop where
  covered : Covered db
  fulfils : ∀ done ∈ finished, ∀ requestId ∈ fulfilledRequest done.request, HoldsAll requestId done.before →
    done.outcome ≠ .error exceedsOnHand

section Fulfilment

variable {db : InventoryDb} {context : CallContext} {request : InventoryRequest} {notes : Option String}
  {lines : List RequestFulfillmentLine} {dto : UpdateWorkflowStatus}

theorem issueRequestStockLine_runs {line : RequestFulfillmentLine}
    (enough : ¬ line.isEmpty → line.quantity ≤ onHand db line.itemId) :
    ∃ after, (issueRequestStockLine context request notes line).run db = .ok ((), after) := by
  by_cases empty : line.isEmpty
  · rw [issueRequestStockLine, if_pos empty]
    exact ⟨db, rfl⟩
  · have enough := enough empty
    have positive : 0 < line.quantity := Nat.pos_of_ne_zero fun zero => empty (.inr zero)
    cases found : db.items.find line.itemId with
    | none =>
      have absent : onHand db line.itemId = 0 := by simp [onHand, found]
      omega
    | some item =>
      rw [onHand_of_find found] at enough
      simp [issueRequestStockLine, if_neg empty, decrementItemStock, changeItemStock, found, withdrawn, enough]

theorem issueRequestStockLines_runs
    (enough : ∀ itemId, fulfillmentTotal lines itemId ≤ onHand db itemId) :
    ∃ after, (issueRequestStockLines context request lines notes).run db = .ok ((), after) := by
  have each : ∃ results after,
      (lines.mapM (issueRequestStockLine context request notes)).run db = .ok (results, after) := by
    have lawful : LawfulMonad InventoryTransaction := lawfulMonad
    induction lines generalizing db with
    | nil => exact ⟨[], db, rfl⟩
    | cons line rest ih =>
      have total (itemId : String) : fulfillmentTotal (line :: rest) itemId =
          fulfillmentTotal [line] itemId + fulfillmentTotal rest itemId := Table.total_append _ _ [line] rest
      have own (asked : ¬ line.isEmpty) : line.quantity ≤ onHand db line.itemId := by
        have fits := enough line.itemId
        simp only [fulfillmentTotal, Table.total_cons, asked, not_false_eq_true, and_self, if_true] at fits
        omega
      obtain ⟨middle, head⟩ :
          ∃ middle, (issueRequestStockLine context request notes line).run db = .ok ((), middle) :=
        issueRequestStockLine_runs own
      have others (itemId : String) : fulfillmentTotal rest itemId ≤ onHand middle itemId := by
        have fits := enough itemId
        have left := (issueRequestStockLine_issued head).onHand itemId
        rw [total] at fits
        omega
      obtain ⟨results, after, tail⟩ := ih others
      refine ⟨() :: results, after, ?_⟩
      simp only [List.mapM_cons, run_bind_ok, run_pure_ok]
      exact ⟨(), middle, head, results, after, tail, rfl, rfl⟩
  obtain ⟨results, after, ran⟩ := each
  exact ⟨after, run_bind_ok.mpr ⟨results, after, ran, run_pure_ok.mpr ⟨rfl, rfl⟩⟩⟩

/-- What closing a request is refused for, once its lines are issued: the reservations, never the stock. -/
theorem issueAndClose_enough {status : String}
    (enough : ∀ itemId, fulfillmentTotal lines itemId ≤ onHand db itemId) :
    (issueAndClose context request lines status dto).run db ≠ .error exceedsOnHand := by
  obtain ⟨issued, issuing⟩ :
      ∃ after, (issueRequestStockLines context request lines (nullableText dto.notes)).run db = .ok ((), after) :=
    issueRequestStockLines_runs enough
  intro failed
  rw [issueAndClose, run_bind, issuing] at failed
  simp only [run_bind, markRequestReservationsFulfilled, run_current] at failed
  cases marked : issued.reservations.tryModify (fulfilled request.id) with
  | none => simp [marked, run_fail, exceedsOnHand] at failed
  | some reservations =>
    simp only [marked, run_write, setRequestStatus, run_bind, run_current] at failed
    cases found : issued.requests.find request.id with
    | none => simp [found, run_pure, required, run_fail, requestNotFound, exceedsOnHand] at failed
    | some stored => simp [found, run_bind, run_write, run_pure, required] at failed

theorem snapshot_runs (session : Session InventoryDb) :
    ∃ seen later, (snapshot : InventorySession InventoryDb).run session = .ok (seen, later) := by
  simp only [snapshot, Transaction.run]
  split <;> exact ⟨_, _, rfl⟩

theorem listReserved_runs (requestId : String) (session : Session InventoryDb) :
    ∃ lines later, (listReservedRequestLinesForUpdate requestId).run session = .ok (lines, later) := by
  obtain ⟨seen, later, read⟩ := snapshot_runs session
  simp only [listReservedRequestLinesForUpdate, run_bind_ok, run_current_ok, run_pure_ok]
  exact ⟨_, later, session, session, ⟨rfl, rfl⟩, seen, later, read, rfl, rfl⟩

theorem reservationTotal_le (requestId itemId : String) :
    reservationTotal db requestId itemId .reserved ≤ reservedQuantity itemId db :=
  Table.total_le fun row _ same => by
    simp only [Prod.mk.injEq] at same
    exact same.2

theorem fulfillRequest_enough {requestId : String} {session : Session InventoryDb}
    (covered : Covered session.tables) (holds : HoldsAll requestId session.tables) :
    (fulfillRequest context requestId dto).run session ≠ .error exceedsOnHand := by
  obtain ⟨request, found, approved, all⟩ := holds
  have checked : (onTables (requestInStatus requestId "approved" "Only approved inventory requests can be fulfilled") :
      InventorySession InventoryRequest).run session = .ok (request, session) := by
    simp [requestInStatus, findRequestByIdForUpdate, found, approved]
  obtain ⟨lines, later, listed⟩ := listReserved_runs requestId session
  obtain ⟨same, seen, -, rfl⟩ := listReserved_locked listed
  rw [fulfillRequest, run_bind, checked]
  simp only
  rw [run_bind, listed]
  simp only
  intro failed
  refine issueAndClose_enough (fun itemId => ?_) (run_onTables_error.mp failed)
  rw [same]
  have reserved := (reservationTotal_le requestId itemId).trans (covered itemId)
  unfold linesToIssue
  split
  · exact (fulfillmentTotal_locked requestId itemId seen _).trans reserved
  · rw [fulfillmentTotal_requestLines]
    exact (all itemId).trans reserved

end Fulfilment

section Decisions

variable (db : InventoryDb)

instance (snapshots : List InventoryDb) : Decidable (SeesReservations snapshots db) :=
  inferInstanceAs (Decidable (∀ seen ∈ snapshots, ∀ item ∈ db.items.rows, _ ≤ _))

instance (withdrawn : String → Nat) : Decidable (LeavesReserved db withdrawn) :=
  inferInstanceAs (Decidable ((∀ item ∈ db.items.rows, _ ≤ _) → ∀ item ∈ db.items.rows, _ ≤ _))

instance (locationCode : Option String) (line : StockCountLine) : Decidable (CountsReserved db locationCode line) :=
  match locationCode with
  | none => inferInstanceAs (Decidable (_ ≤ _))
  | some _ => inferInstanceAs (Decidable (_ ≤ _))

instance (requestId status : String) (snapshots : List InventoryDb) :
    Decidable (StatusKeepsCover requestId status snapshots db) :=
  inferInstanceAs (Decidable ((_ → SeesReservations snapshots db) ∧ (_ → ∀ request ∈ db.requests.find requestId,
    _ → _ → LeavesReserved db (lineTotal request.lines))))

instance (transaction : InFlight InventoryDb InventoryCall) : Decidable (KeepsCover transaction db) := by
  unfold KeepsCover
  split <;> infer_instance

end Decisions

theorem discard_error {A : Type} {action : InventorySession A} {session : Session InventoryDb} {error : Exception} :
    (discard action).run session = .error error ↔ action.run session = .error error := by
  rw [discard, run_bind]
  cases action.run session with
  | ok value => simp [run_pure]
  | error other => simp

theorem coverLaw_kept (transaction : InFlight InventoryDb InventoryCall) (db : InventoryDb)
    (finished : List FinishedInventoryCall) (law : CoverLaw db finished) (keeps : KeepsCover transaction db) :
    CoverLaw (settle perform transaction db).1 (finished ++
      [⟨transaction.request, db, (settle perform transaction db).1, (settle perform transaction db).2⟩]) := by
  refine ⟨perform_covered law.covered keeps, fun done member requestId fulfils holds => ?_⟩
  rcases List.mem_append.mp member with old | new
  · exact law.fulfils done old requestId fulfils holds
  · rw [List.mem_singleton.mp new] at fulfils holds ⊢
    obtain ⟨⟨context, operation⟩, snapshots⟩ := transaction
    simp only [fulfilledRequest, Option.mem_def] at fulfils
    split at fulfils
    · next wanted dto =>
      split at fulfils
      · next fulfilling =>
        obtain rfl := Option.some.inj fulfils
        have enough : (fulfillRequest context wanted dto).run (.begun db snapshots) ≠ .error exceedsOnHand :=
          fulfillRequest_enough law.covered holds
        unfold settle
        split
        · exact nofun
        · next error failed =>
          have failed := discard_error.mp failed
          rw [updateRequestStatus, if_neg (by simp [fulfilling]), if_pos fulfilling] at failed
          exact fun same => enough (failed.trans (congrArg _ (Except.error.inj same)))
      · cases fulfils
    · cases fulfils

/-- The calls that see what is reserved, or withdraw no more than the rest, keep all reservations covered. -/
theorem reservations_covered {start : InventoryDb} {events : List (Snapshots.Event InventoryCall)}
    (covered : Covered start) (keep : Meets (step perform) (Committing KeepsCover) (World.idle start) events) :
    Along (step perform) (fun world => CoverLaw world.db world.finished) (World.idle start) events :=
  along_of_commits CoverLaw CoverLaw (fun _ _ _ => trivial)
    (fun transaction db finished law _ keeps => coverLaw_kept transaction db finished law keeps)
    (fun _ _ => id) ⟨covered, by simp⟩ keep

def inventoryTo (status : String) : InventoryCall :=
  ⟨clerk, .updateRequestStatus "new-id" { status, notes := none }⟩

def chalkTaken (quantity : Nat) : InventoryCall where
  context := clerk
  operation := .issueDepartmentStock
    { department := "Science"
      receivedBy := "Achieng"
      submissionId := none
      lines := [{ itemId := "item-1", quantity, notes := none }]
      notes := none }

theorem requested_covered (quantities : List Nat) : Covered (requested quantities) := fun _ => Nat.zero_le _

theorem reservations_covered_fulfilled :
    Along (step perform) (fun world => CoverLaw world.db world.finished) (World.idle (requested [4, 3]))
      [.begin (inventoryTo "approved"), .read 0, .commit 0, .begin (chalkTaken 3), .commit 0,
        .begin (inventoryTo "fulfilled"), .commit 0] :=
  reservations_covered (requested_covered [4, 3]) (by decide +kernel)

/-- A direct issue takes what a request has reserved. -/
theorem issue_takes_reserved :
    ¬ ∀ (start : InventoryDb) (events : List (Snapshots.Event InventoryCall)), Covered start →
      Along (step perform) (fun world => CoverLaw world.db world.finished) (World.idle start) events := by
  intro always
  let events : List (Snapshots.Event InventoryCall) :=
    [.begin (inventoryTo "approved"), .commit 0, .begin (chalkTaken 7), .commit 0]
  let last := (run (step perform) (World.idle (requested [10])) events).db
  have law := run_of_along (always (requested [10]) events (requested_covered [10]))
  have reserved : reservedQuantity "item-1" last = 10 := by decide +kernel
  have left : onHand last "item-1" = 3 := by decide +kernel
  have covered : reservedQuantity "item-1" last ≤ onHand last "item-1" := law.covered "item-1"
  omega

end ShuleHub.Inventory
