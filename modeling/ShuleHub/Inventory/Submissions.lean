import ShuleHub.Inventory.PurchaseOrderRuns

/-! Stock that is issued and received in requests under one submission id. -/

namespace ShuleHub.Inventory

open Runs Transaction Snapshots

inductive StockSubmission where
  | issueDepartmentStock (context : CallContext) (dto : CreateStockIssue)
  | receiveSupplierStock (context : CallContext) (dto : CreateStockReceipt)

def StockSubmission.submissionId : StockSubmission → Option String
  | .issueDepartmentStock _ dto => nullableText dto.submissionId
  | .receiveSupplierStock _ dto => nullableText dto.submissionId

def StockSubmission.lineCount : StockSubmission → Nat
  | .issueDepartmentStock _ dto => dto.lines.length
  | .receiveSupplierStock _ dto => dto.lines.length

variable {submissionId : String}

abbrev Carrying (submissionId : String) := { request : StockSubmission // request.submissionId = some submissionId }

abbrev FinishedSubmission (submissionId : String) :=
  Finished InventoryDb (Carrying submissionId) Exception StockTransactionResponse

def submit (request : Carrying submissionId) : InventorySession StockTransactionResponse :=
  match request.val with
  | .issueDepartmentStock context dto => issueDepartmentStock context dto
  | .receiveSupplierStock context dto => receiveSupplierStock context dto

def MovesStock (done : FinishedSubmission submissionId) : Prop :=
  ∃ itemId, onHand done.before itemId ≠ onHand done.after itemId

def SameAnswer (first answer : StockTransactionResponse) : Prop :=
  answer.reference = first.reference ∧ answer.transactionType = first.transactionType ∧ answer.lines = first.lines

def answers (finished : List (FinishedSubmission submissionId)) : List StockTransactionResponse :=
  finished.filterMap (·.outcome.toOption)

structure ActsOnce (finished : List (FinishedSubmission submissionId)) : Prop where
  moved : finished.Pairwise fun first second => ¬ (MovesStock first ∧ MovesStock second)
  answered : ∀ first ∈ (answers finished).head?, ∀ answer ∈ answers finished, SameAnswer first answer

def recorded (submissionId : String) (db : InventoryDb) : List InventoryStockMovement :=
  db.movements.filter fun movement => movement.submissionId = some submissionId

/-- The read for a replay finds the movements that are there, and these are of an issue. Where there are none, the
request has a line that leaves one. -/
def FindsSubmission (transaction : InFlight InventoryDb (Carrying submissionId)) (db : InventoryDb) : Prop :=
  recorded submissionId (transaction.snapshots.headD db) = recorded submissionId db ∧
    match recorded submissionId db with
    | [] => transaction.request.val.lineCount ≠ 0
    | first :: _ => first.movementType = "stock_issue"

def SameNames (db after : InventoryDb) : Prop := ∀ itemId, itemNameOf after itemId = itemNameOf db itemId

/-- What a request does that finds no movement of its submission. -/
structure Submitted (submissionId : String) (lineCount : Nat) (db after : InventoryDb)
    (answer : StockTransactionResponse) (added : List InventoryStockMovement) : Prop where
  movements : after.movements = db.movements ++ added
  each : added.length = lineCount
  own : ∀ movement ∈ added, movement.submissionId = some submissionId
  kind : (∀ movement ∈ added, movement.movementType ≠ "stock_issue") ∨
    (∀ movement ∈ added, movement.movementType = "stock_issue" ∧ movement.reference = some answer.reference) ∧
      answer.transactionType = "stock_issue" ∧ answer.lines = added.map (repeatedLine db) ∧ SameNames db after

section Steps

variable {context : CallContext} {db after : InventoryDb} {session later : Session InventoryDb}
  {answer : StockTransactionResponse}

theorem repeatedLine_congr (names : SameNames db after) : repeatedLine after = repeatedLine db := by
  funext movement
  rw [repeatedLine, repeatedLine, names]

theorem issueLine_moves {dto : CreateStockIssue} {line : StockIssueLine} {result : StockTransactionLine}
    (ran : (issueLine context dto line).run db = .ok (result, after)) :
    ∃ movement, after.movements = db.movements ++ [movement] ∧ movement.submissionId = nullableText dto.submissionId ∧
      (movement.movementType = "stock_issue" ∧ movement.reference = some (context.buildNumber "ISS")) ∧
      result = repeatedLine db movement ∧ SameNames db after := by
  simp only [issueLine, run_bind_ok, run_lift_ok, findItemById_ok, required_ok, recordStockMovement_ok,
    run_pure_ok] at ran
  obtain ⟨_, _, ⟨-, rfl⟩, _, _, ⟨-, rfl⟩, _, _, ⟨-, rfl⟩, _, _, written, mutation, _, ⟨rfl, rfl⟩, _, _, rfl, rfl,
    rfl⟩ := ran
  have changed := changeItemStock_ok written
  refine ⟨_, by rw [changed.stored], rfl, ⟨rfl, rfl⟩, ?_, fun itemId => ?_⟩
  · simp [buildStockTransactionLine, repeatedLine, issueMovement, changed.item.1, changed.named]
  · simp only [itemNameOf, changed.stored, KeyedTable.find_put, changed.item.1]
    split
    · next own =>
      rw [own]
      exact changed.named
    · rfl

theorem issueStock_submitted {dto : CreateStockIssue} (carries : nullableText dto.submissionId = some submissionId)
    (ran : (issueStock context dto).run db = .ok (answer, after)) :
    ∃ added, Submitted submissionId dto.lines.length db after answer added := by
  simp only [issueStock, run_bind_ok, run_failIf_ok, run_pure_ok] at ran
  obtain ⟨_, _, ⟨-, rfl⟩, _, _, ⟨-, rfl⟩, all, _, issued, rfl, rfl⟩ := ran
  have kept := mapM_induction_results
    (motive := fun rest results other => ∃ added, other.movements = db.movements ++ added ∧
      added.length + rest.length = dto.lines.length ∧ (∀ movement ∈ added, movement.submissionId = some submissionId) ∧
      (∀ movement ∈ added, movement.movementType = "stock_issue" ∧
        movement.reference = some (context.buildNumber "ISS")) ∧
      all = added.map (repeatedLine db) ++ results ∧ SameNames db other)
    issued ⟨[], by simp [SameNames]⟩ fun line rest first result results last before step => by
      obtain ⟨added, movements, each, own, kind, lines, names⟩ := before
      obtain ⟨movement, moved, carried, issue, rfl, same⟩ := issueLine_moves step
      refine ⟨added ++ [movement], ?_, ?_, ?_, ?_, ?_, fun itemId => (same itemId).trans (names itemId)⟩
      · rw [moved, movements, List.append_assoc]
      · rw [List.length_append, List.length_singleton, ← each, List.length_cons]
        omega
      · exact List.forall_mem_append.mpr ⟨own, List.forall_mem_singleton.mpr (carried.trans carries)⟩
      · exact List.forall_mem_append.mpr ⟨kind, List.forall_mem_singleton.mpr issue⟩
      · rw [lines, repeatedLine_congr names, List.map_append, List.append_assoc]
        rfl
  obtain ⟨added, movements, each, own, kind, lines, names⟩ := kept
  exact ⟨added, movements, each, own, .inr ⟨kind, rfl, lines.trans (List.append_nil _), names⟩⟩

theorem receiveLine_moves {dto : CreateStockReceipt} {line : StockReceiptLine} {result : StockTransactionLine}
    (ran : (receiveLine context dto line).run session = .ok (result, later)) :
    ∃ mutation, later.tables.movements = session.tables.movements ++ [receiptMovement context dto line mutation] := by
  simp only [receiveLine, storeReceived, incrementItemLocationBalance, putBalance, run_bind_ok, run_onTables_ok,
    run_failIf_ok, run_lift_ok, run_pure_ok, required_ok, recordStockMovement_ok, run_current_ok, run_write_ok] at ran
  obtain ⟨_, _, ⟨_, ⟨_, _, ⟨-, rfl⟩, _, _, ⟨-, rfl⟩, _, _, changed, mutation, _, ⟨rfl, rfl⟩, _, _, rfl, _, _,
    ⟨_, _, ⟨rfl, rfl⟩, rfl⟩, rfl, rfl⟩, rfl⟩, _, _, resolved, -, rfl⟩ := ran
  refine ⟨mutation, (resolveBackordersForReceivedItem_requestsOnly resolved).movements.trans ?_⟩
  rw [(changeItemStock_ok changed).stored]
  rfl

theorem receiveStock_submitted {dto : CreateStockReceipt} (carries : nullableText dto.submissionId = some submissionId)
    (ran : (receiveStock context dto).run session = .ok (answer, later)) :
    ∃ added, Submitted submissionId dto.lines.length session.tables later.tables answer added := by
  simp only [receiveStock, run_bind_ok, run_onTables_ok, run_failIf_ok, run_pure_ok] at ran
  obtain ⟨_, _, ⟨_, ⟨-, rfl⟩, rfl⟩, _, _, ⟨_, ⟨-, rfl⟩, rfl⟩, _, _, lines, -, rfl⟩ := ran
  have kept := mapM_induction
    (motive := fun rest other => ∃ added, other.tables.movements = session.tables.movements ++ added ∧
      added.length + rest.length = dto.lines.length ∧
      (∀ movement ∈ added, movement.submissionId = some submissionId) ∧
      ∀ movement ∈ added, movement.movementType ≠ "stock_issue")
    lines ⟨[], by simp⟩ fun line rest first _ last before step => by
      obtain ⟨added, movements, each, own, kind⟩ := before
      obtain ⟨mutation, moved⟩ := receiveLine_moves step
      refine ⟨added ++ [receiptMovement context dto line mutation], ?_, ?_, ?_, ?_⟩
      · rw [moved, movements, List.append_assoc]
      · rw [List.length_append, List.length_singleton, ← each, List.length_cons]
        omega
      · exact List.forall_mem_append.mpr ⟨own, List.forall_mem_singleton.mpr carries⟩
      · exact List.forall_mem_append.mpr ⟨kind, List.forall_mem_singleton.mpr (by simp [receiptMovement])⟩
  obtain ⟨added, movements, each, own, kind⟩ := kept
  exact ⟨added, movements, each, own, .inl kind⟩

theorem submit_ok {request : Carrying submissionId} (ran : (submit request).run session = .ok (answer, later)) :
    (getIdempotentStockTransaction (session.snapshots.headD session.committed) (some submissionId) = some answer ∧
      later.tables = session.tables) ∨
    getIdempotentStockTransaction (session.snapshots.headD session.committed) (some submissionId) = none ∧
      ∃ added, Submitted submissionId request.val.lineCount session.tables later.tables answer added := by
  obtain ⟨request, carries⟩ := request
  cases request with
  | issueDepartmentStock context dto =>
    change nullableText dto.submissionId = some submissionId at carries
    simp only [submit, issueDepartmentStock, run_bind_ok, snapshot_ok, carries] at ran
    obtain ⟨_, _, ⟨rfl, rfl⟩, ran⟩ := ran
    split at ran
    · next found =>
      obtain ⟨rfl, rfl⟩ := run_pure_ok.mp ran
      exact .inl ⟨found, rfl⟩
    · next absent =>
      obtain ⟨tables, issued, rfl⟩ := run_onTables_ok.mp ran
      exact .inr ⟨absent, issueStock_submitted carries issued⟩
  | receiveSupplierStock context dto =>
    change nullableText dto.submissionId = some submissionId at carries
    simp only [submit, receiveSupplierStock, run_bind_ok, snapshot_ok, carries] at ran
    obtain ⟨_, _, ⟨rfl, rfl⟩, ran⟩ := ran
    split at ran
    · next found =>
      obtain ⟨rfl, rfl⟩ := run_pure_ok.mp ran
      exact .inl ⟨found, rfl⟩
    · next absent =>
      have moved := receiveStock_submitted carries ran
      exact .inr ⟨absent, moved⟩

theorem getIdempotentStockTransaction_congr (same : recorded submissionId after = recorded submissionId db)
    (names : SameNames db after) : getIdempotentStockTransaction after (some submissionId) =
      getIdempotentStockTransaction db (some submissionId) := by
  unfold recorded at same
  simp only [getIdempotentStockTransaction, same, repeatedLine_congr names]

theorem getIdempotentStockTransaction_some
    (found : getIdempotentStockTransaction db (some submissionId) = some answer) :
    ∃ first ∈ recorded submissionId db, answer.reference = first.reference.getD submissionId ∧
      answer.transactionType = first.movementType ∧
      answer.lines = (recorded submissionId db).map (repeatedLine db) := by
  simp only [getIdempotentStockTransaction] at found
  split at found
  · cases found
  · next first shown =>
    obtain rfl := Option.some.inj found
    exact ⟨first, List.mem_of_mem_head? shown, rfl, rfl, rfl⟩

end Steps

/-- Nothing has come of the requests yet, or one of them has been answered and every later answer repeats its. -/
inductive SubmissionInv (start : InventoryDb) : InventoryDb → List (FinishedSubmission submissionId) → Prop
  | refused {finished : List (FinishedSubmission submissionId)} (unused : recorded submissionId start = [])
      (refusals : ∀ done ∈ finished, done.before = done.after ∧ done.outcome.toOption = none) :
      SubmissionInv start start finished
  | answered {db : InventoryDb} {early late : List (FinishedSubmission submissionId)}
      {done : FinishedSubmission submissionId} {answer : StockTransactionResponse}
      (outcome : done.outcome = .ok answer) (known : recorded submissionId db ≠ [])
      (refusals : ∀ done ∈ early, done.before = done.after ∧ done.outcome.toOption = none)
      (repeats : ∀ done ∈ late, done.before = done.after ∧ ∀ other ∈ done.outcome.toOption, SameAnswer answer other)
      (issue : ∀ first ∈ (recorded submissionId db).head?, first.movementType = "stock_issue" → SameNames start db ∧
        ∀ other, getIdempotentStockTransaction db (some submissionId) = some other → SameAnswer answer other) :
      SubmissionInv start db (early ++ done :: late)

section Runs

variable {start db after : InventoryDb} {finished : List (FinishedSubmission submissionId)}

theorem answers_of_refused (refusals : ∀ done ∈ finished, done.before = done.after ∧ done.outcome.toOption = none) :
    answers finished = [] :=
  List.filterMap_eq_nil_iff.mpr fun done member => (refusals done member).2

theorem moves_of_same {done : FinishedSubmission submissionId} (same : done.before = done.after) :
    ¬ MovesStock done := by
  rintro ⟨itemId, changed⟩
  exact changed (congrArg (onHand · itemId) same)

theorem SubmissionInv.actsOnce (inv : SubmissionInv start db finished) : ActsOnce finished := by
  cases inv with
  | refused unused refusals =>
    refine ⟨List.pairwise_of_forall_mem_list fun first member _ _ both => ?_, by simp [answers_of_refused refusals]⟩
    exact moves_of_same (refusals first member).1 both.1
  | @answered _ early late done answer outcome known refusals repeats issue =>
    have unmoved : ∀ other ∈ early, ¬ MovesStock other := fun other member => moves_of_same (refusals other member).1
    have repeated : ∀ other ∈ late, ¬ MovesStock other := fun other member => moves_of_same (repeats other member).1
    constructor
    · apply List.pairwise_append.mpr
      refine ⟨List.pairwise_of_forall_mem_list fun first member _ _ both => unmoved first member both.1,
        List.pairwise_cons.mpr ⟨fun other member both => repeated other member both.2,
          List.pairwise_of_forall_mem_list fun first member _ _ both => repeated first member both.1⟩,
        fun first member _ _ both => unmoved first member both.1⟩
    · have all : answers (early ++ done :: late) = answer :: answers late := by
        rw [answers, List.filterMap_append, List.filterMap_cons, outcome]
        exact congrArg (· ++ _) (answers_of_refused refusals)
      rw [all]
      intro first head
      obtain rfl := Option.some.inj head
      intro other member
      rcases List.mem_cons.mp member with rfl | repeated
      · exact ⟨rfl, rfl, rfl⟩
      · obtain ⟨later, among, answered⟩ := List.mem_filterMap.mp repeated
        exact (repeats later among).2 other answered

def IssueNames (submissionId : String) (start seen : InventoryDb) : Prop :=
  ∀ first ∈ (recorded submissionId seen).head?, first.movementType = "stock_issue" → SameNames start seen

theorem SubmissionInv.issueNames (inv : SubmissionInv start db finished) : IssueNames submissionId start db := by
  cases inv with
  | refused => exact fun _ _ _ _ => rfl
  | answered _ _ _ _ issue => exact fun first head kind => (issue first head kind).1

variable {transaction : InFlight InventoryDb (Carrying submissionId)}

theorem submission_first (unused : recorded submissionId start = []) (finds : FindsSubmission transaction start)
    (refusals : ∀ done ∈ finished, done.before = done.after ∧ done.outcome.toOption = none) :
    SubmissionInv start (settle submit transaction start).1 (finished ++
      [⟨transaction.request, start, (settle submit transaction start).1, (settle submit transaction start).2⟩]) := by
  obtain ⟨same, lines⟩ := finds
  rw [unused] at same lines
  change transaction.request.val.lineCount ≠ 0 at lines
  refine settle_cases (fun settled => SubmissionInv start settled.1 (finished ++
    [⟨transaction.request, start, settled.1, settled.2⟩])) (fun error => ?_) (fun answer session ran => ?_)
  · exact .refused unused (List.forall_mem_append.mpr ⟨refusals, List.forall_mem_singleton.mpr ⟨rfl, rfl⟩⟩)
  · rcases submit_ok ran with ⟨found, -⟩ | ⟨-, added, moved⟩
    · obtain ⟨first, member, -⟩ := getIdempotentStockTransaction_some found
      exact absurd (same ▸ member) List.not_mem_nil
    · have own : recorded submissionId session.tables = added := by
        have movements : session.tables.movements = start.movements ++ added := moved.movements
        rw [recorded, movements, List.filter_append, ← recorded, unused, List.nil_append]
        exact List.filter_eq_self.mpr fun movement member => decide_eq_true (moved.own movement member)
      have last : ∀ done ∈ ([] : List (FinishedSubmission submissionId)), done.before = done.after ∧
          ∀ other ∈ done.outcome.toOption, SameAnswer answer other := fun _ member => absurd member List.not_mem_nil
      refine .answered rfl ?_ refusals last ?_
      · rw [own]
        rintro rfl
        exact lines moved.each.symm
      · rw [own]
        intro first head kind
        have member := List.mem_of_mem_head? head
        rcases moved.kind with receipts | ⟨issues, type, answered, names⟩
        · exact absurd kind (receipts first member)
        · refine ⟨names, fun other found => ?_⟩
          obtain ⟨shown, among, reference, otherType, repeated⟩ := getIdempotentStockTransaction_some found
          rw [own] at among repeated
          refine ⟨?_, ?_, ?_⟩
          · rw [reference, (issues shown among).2]
            rfl
          · rw [otherType, (issues shown among).1, type]
          · rw [repeated, answered, repeatedLine_congr names]

theorem submission_kept (transaction : InFlight InventoryDb (Carrying submissionId)) (db : InventoryDb)
    (finished : List (FinishedSubmission submissionId)) (inv : SubmissionInv start db finished)
    (seen : ∀ seen ∈ transaction.snapshots, IssueNames submissionId start seen)
    (finds : FindsSubmission transaction db) :
    SubmissionInv start (settle submit transaction db).1 (finished ++
      [⟨transaction.request, db, (settle submit transaction db).1, (settle submit transaction db).2⟩]) := by
  cases inv with
  | refused unused refusals => exact submission_first unused finds refusals
  | @answered _ early late done answer outcome known refusals repeats issue =>
    have next (after : InventoryDb) (reply : Except Exception StockTransactionResponse) (same : db = after)
        (repeated : ∀ other ∈ reply.toOption, SameAnswer answer other) :
        SubmissionInv start after (early ++ done :: late ++ [⟨transaction.request, db, after, reply⟩]) := by
      subst same
      rw [List.append_assoc, List.cons_append]
      exact .answered outcome known refusals
        (List.forall_mem_append.mpr ⟨repeats, List.forall_mem_singleton.mpr ⟨rfl, repeated⟩⟩) issue
    obtain ⟨same, kind⟩ := finds
    obtain ⟨first, rest, shown⟩ := List.exists_cons_of_ne_nil known
    rw [shown] at kind
    obtain ⟨names, replay⟩ := issue first (by rw [shown]; rfl) kind
    have seenNames : SameNames start (transaction.snapshots.headD db) := by
      rcases (Session.begun db transaction.snapshots).head_source with source | member
      · exact source.symm ▸ names
      · exact seen _ member first (by rw [same, shown]; rfl) kind
    have repeated : getIdempotentStockTransaction (transaction.snapshots.headD db) (some submissionId) =
        getIdempotentStockTransaction db (some submissionId) :=
      getIdempotentStockTransaction_congr same fun itemId => (seenNames itemId).trans (names itemId).symm
    refine settle_cases (fun settled => SubmissionInv start settled.1 (early ++ done :: late ++
      [⟨transaction.request, db, settled.1, settled.2⟩])) (fun error => next db (.error error) rfl (by rintro _ ⟨⟩))
      (fun other session ran => ?_)
    rcases submit_ok ran with ⟨found, unchanged⟩ | ⟨absent, -⟩
    · refine next _ _ unchanged.symm fun reply answered => ?_
      obtain rfl := Option.some.inj answered
      exact replay other (repeated.symm.trans found)
    · change getIdempotentStockTransaction (transaction.snapshots.headD db) _ = none at absent
      rw [repeated] at absent
      simp only [getIdempotentStockTransaction] at absent
      split at absent
      · next unrecorded => cases (congrArg List.head? shown).symm.trans unrecorded
      · cases absent

/-- Where each read for a replay finds what is there, and that is of an issue, the requests under one submission id move
stock once and are answered alike. -/
theorem submission_acts_once (start : InventoryDb) (events : List (Snapshots.Event (Carrying submissionId)))
    (unused : recorded submissionId start = [])
    (finds : Meets (step submit) (Committing FindsSubmission) (World.idle start) events) :
    Along (step submit) (fun world => ActsOnce world.finished) (World.idle start) events :=
  along_of_commits (fun db finished => SubmissionInv start db finished) (fun _ finished => ActsOnce finished)
    (fun _ _ inv => inv.issueNames) submission_kept (fun _ _ inv => inv.actsOnce)
    (.refused unused fun _ member => absurd member List.not_mem_nil)
    finds

end Runs

def chalkForm : Carrying "form-7" :=
  ⟨.issueDepartmentStock clerk { chalkIssue with submissionId := some "form-7" }, by decide +kernel⟩

theorem issue_is_replayed : Along (step submit) (fun world => ActsOnce world.finished) (World.idle twoRooms)
    [.begin chalkForm, .commit 0, .begin chalkForm, .commit 0] := by
  apply submission_acts_once twoRooms _ rfl
  exact ⟨trivial, ⟨rfl, Nat.one_ne_zero⟩, trivial, ⟨rfl, rfl⟩, trivial⟩

/-- Two requests of one form at once both find no movement of it. -/
theorem issue_moves_twice : ¬ ∀ events : List (Snapshots.Event (Carrying "form-7")),
    Along (step submit) (fun world => ActsOnce world.finished) (World.idle twoRooms) events := by
  intro always
  let events : List (Snapshots.Event (Carrying "form-7")) :=
    [.begin chalkForm, .begin chalkForm, .read 0, .read 1, .commit 0, .commit 0]
  have acts := run_of_along (always events)
  have apart := List.pairwise_iff_getElem.mp acts.moved 0 1 (by decide +kernel) (by decide +kernel) Nat.one_pos
  exact apart ⟨⟨"item-1", by decide +kernel⟩, ⟨"item-1", by decide +kernel⟩⟩

end ShuleHub.Inventory
