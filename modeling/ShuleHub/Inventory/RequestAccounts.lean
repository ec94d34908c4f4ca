import ShuleHub.Inventory.Reservations

/-! What a request asks for, against what is reserved, backordered and issued for it, over runs of status requests
and receipts. -/

namespace ShuleHub.Inventory

open Runs Transaction Snapshots KeyedTable Table

/-- Where a request stands: what it has of each item reserved, issued from its reservations, and backordered. -/
structure Account where
  status : String
  reserved : String → Nat
  fulfilled : String → Nat
  backordered : String → Nat

namespace Account

def reserve (account : Account) (itemId : String) (quantity : Nat) : Account :=
  { account with reserved := fun item => account.reserved item + if item = itemId then quantity else 0 }

def backorder (account : Account) (itemId : String) (quantity : Nat) : Account :=
  { account with backordered := fun item => if item = itemId then quantity else account.backordered item }

def fulfil (account : Account) : Account :=
  { account with
    reserved := fun _ => 0
    fulfilled := fun item => account.fulfilled item + account.reserved item }

def withStatus (account : Account) (status : String) : Account :=
  { account with status }

def Untouched (account : Account) : Prop :=
  ∀ item, account.reserved item = 0 ∧ account.fulfilled item = 0 ∧ account.backordered item = 0

def Covers (account : Account) (asked : String → Nat) : Prop :=
  ∀ item, account.reserved item + account.fulfilled item + account.backordered item = asked item

structure Valid (asked : String → Nat) (account : Account) : Prop where
  accounted : account.Untouched ∨ account.Covers asked
  pending : account.status = "pending" → account.Untouched
  approved : account.status = "approved" → account.Covers asked ∧ (∀ item, account.backordered item = 0) ∧
    ((∀ item, account.reserved item = 0) → ∀ item, asked item = 0)
  fulfilled : account.status = "fulfilled" → ∀ item, account.fulfilled item = asked item
  cancelled : account.status = "cancelled" → ∀ item, account.reserved item = 0 ∧ account.backordered item = 0

structure Lasts (asked : String → Nat) (before after : Account) : Prop where
  covers : before.Covers asked → after.Covers asked
  cancelled : before.status = "cancelled" → after.status = "cancelled"

variable {asked : String → Nat} {account : Account}

theorem Lasts.refl : Lasts asked account account := ⟨id, id⟩

theorem Lasts.trans {first second third : Account} (before : Lasts asked first second)
    (later : Lasts asked second third) : Lasts asked first third :=
  ⟨fun covers => later.covers (before.covers covers), fun cancelled => later.cancelled (before.cancelled cancelled)⟩

namespace Valid

variable {item : String}

theorem fulfilled_le (valid : account.Valid asked) (item : String) : account.fulfilled item ≤ asked item := by
  rcases valid.accounted with untouched | covers
  · rw [(untouched item).2.1]
    exact Nat.zero_le _
  · have whole := covers item
    omega

theorem of_backordered (valid : account.Valid asked) (backordered : 0 < account.backordered item) :
    account.Covers asked ∧ account.status ≠ "pending" ∧ account.status ≠ "approved" ∧
      account.status ≠ "fulfilled" ∧ account.status ≠ "cancelled" := by
  have touched : ¬ account.Untouched := fun untouched => Nat.ne_of_gt backordered (untouched item).2.2
  have covers : account.Covers asked := valid.accounted.resolve_left touched
  refine ⟨covers, fun pending => touched (valid.pending pending), fun approved => ?_, fun fulfilled => ?_,
    fun cancelled => ?_⟩
  · exact Nat.ne_of_gt backordered ((valid.approved approved).2.1 item)
  · have all := valid.fulfilled fulfilled item
    have whole := covers item
    omega
  · exact Nat.ne_of_gt backordered (valid.cancelled cancelled item).2

theorem resolve (valid : account.Valid asked) {quantity : Nat} (positive : 0 < quantity)
    (backordered : account.backordered item = quantity) :
    ((account.reserve item quantity).backorder item 0).Valid asked ∧
      Lasts asked account ((account.reserve item quantity).backorder item 0) := by
  have some : 0 < account.backordered item := backordered ▸ positive
  obtain ⟨covers, notPending, notApproved, notFulfilled, notCancelled⟩ := valid.of_backordered some
  have stillCovers : ((account.reserve item quantity).backorder item 0).Covers asked := by
    intro other
    have whole := covers other
    by_cases own : other = item
    · subst own
      simp only [reserve, backorder, if_true]
      omega
    · simpa [reserve, backorder, own] using whole
  refine ⟨⟨.inr stillCovers, ?_, ?_, ?_, ?_⟩, fun _ => stillCovers, fun cancelled => absurd cancelled notCancelled⟩
  · exact fun pending => absurd pending notPending
  · exact fun approved => absurd approved notApproved
  · exact fun fulfilled => absurd fulfilled notFulfilled
  · exact fun cancelled => absurd cancelled notCancelled

end Valid

theorem Valid.of_accounted {status : String} (accounted : account.Untouched ∨ account.Covers asked)
    (pending : status = "pending" → account.Untouched) (notApproved : status ≠ "approved")
    (notFulfilled : status ≠ "fulfilled")
    (cancelled : status = "cancelled" → ∀ item, account.reserved item = 0 ∧ account.backordered item = 0) :
    (account.withStatus status).Valid asked where
  accounted := accounted
  pending := pending
  approved same := absurd same notApproved
  fulfilled same := absurd same notFulfilled
  cancelled := cancelled

theorem Valid.of_reserved (covers : account.Covers asked) (none : ∀ item, account.backordered item = 0)
    (held : (∀ item, account.reserved item = 0) → ∀ item, asked item = 0) :
    (account.withStatus "approved").Valid asked where
  accounted := .inr covers
  pending same := absurd same (by simp [withStatus])
  approved _ := ⟨covers, none, held⟩
  fulfilled same := absurd same (by simp [withStatus])
  cancelled same := absurd same (by simp [withStatus])

theorem Covers.fulfil (covers : account.Covers asked) : account.fulfil.Covers asked := by
  intro item
  rw [← covers item]
  change 0 + (account.fulfilled item + account.reserved item) + account.backordered item = _
  omega

theorem Valid.fulfil (valid : account.Valid asked) (approved : account.status = "approved") :
    (account.fulfil.withStatus "fulfilled").Valid asked ∧
      Lasts asked account (account.fulfil.withStatus "fulfilled") := by
  obtain ⟨covers, none, -⟩ := valid.approved approved
  have all (item : String) : account.fulfilled item + account.reserved item = asked item := by
    rw [← covers item, none item]
    omega
  refine ⟨⟨.inr covers.fulfil, fun same => ?_, fun same => ?_, fun _ => all, fun same => ?_⟩,
    fun _ => covers.fulfil, fun cancelled => ?_⟩
  · exact absurd same (by simp [withStatus])
  · exact absurd same (by simp [withStatus])
  · exact absurd same (by simp [withStatus])
  · rw [approved] at cancelled
    exact absurd cancelled (by decide)

theorem Valid.fulfilPartially (valid : account.Valid asked) (backordered : account.status = "backordered") :
    (account.fulfil.withStatus "partially_fulfilled").Valid asked ∧
      Lasts asked account (account.fulfil.withStatus "partially_fulfilled") := by
  refine ⟨.of_accounted ?_ ?_ (by decide) (by decide) ?_, fun covers => covers.fulfil, fun cancelled => ?_⟩
  · refine valid.accounted.imp (fun untouched item => ?_) Covers.fulfil
    obtain ⟨reserved, fulfilled, none⟩ := untouched item
    exact ⟨rfl, by simp [Account.fulfil, reserved, fulfilled], none⟩
  · exact fun same => absurd same (by decide)
  · exact fun same => absurd same (by decide)
  · rw [backordered] at cancelled
    exact absurd cancelled (by decide)

end Account

def accountOf (db : InventoryDb) (requestId : String) : Account where
  status := ((db.requests.find requestId).map (·.status)).getD ""
  reserved item := reservationTotal db requestId item .reserved
  fulfilled item := reservationTotal db requestId item .fulfilled
  backordered item := backorderTotal db requestId item

section Statements

variable {db after : InventoryDb} {wanted requestId itemId : String} {quantity : Nat}
  {done : Unit} {original : InventoryRequest}

theorem accountOf_congr (requests : after.requests = db.requests) (reservations : after.reservations = db.reservations)
    (backorders : after.backorders = db.backorders) : accountOf after wanted = accountOf db wanted := by
  simp only [accountOf, reservationTotal, backorderTotal, requests, reservations, backorders]

theorem Reserved.account (reserved : Reserved requestId itemId quantity db after) :
    accountOf after wanted =
      if wanted = requestId then (accountOf db wanted).reserve itemId quantity else accountOf db wanted := by
  have each (item : String) (status : ReservationStatus) : reservationTotal after wanted item status =
      reservationTotal db wanted item status +
        if requestId = wanted ∧ itemId = item ∧ .reserved = status then quantity else 0 := by
    have sum := reserved.sum (· = (wanted, item, status))
    simp only [Prod.mk.injEq] at sum
    exact sum
  have requests : after.requests = db.requests := by rw [reserved.only]
  have backorders : after.backorders = db.backorders := by rw [reserved.only]
  simp only [accountOf, each, backorderTotal, requests, backorders]
  by_cases own : wanted = requestId
  · simp [own, Account.reserve, eq_comm]
  · simp [own, Ne.symm own]

theorem Backordered.account (backordered : Backordered requestId itemId quantity db after) :
    accountOf after wanted =
      if wanted = requestId then (accountOf db wanted).backorder itemId quantity else accountOf db wanted := by
  have requests : after.requests = db.requests := by rw [backordered.only]
  have reservations : after.reservations = db.reservations := by rw [backordered.only]
  simp only [accountOf, backordered.totals, reservationTotal, requests, reservations]
  by_cases own : wanted = requestId
  · simp [own, Account.backorder]
  · simp [own]

theorem markRequestReservationsFulfilled_account
    (ran : (markRequestReservationsFulfilled requestId).run db = .ok (done, after)) :
    accountOf after wanted = if wanted = requestId then (accountOf db wanted).fulfil else accountOf db wanted := by
  obtain ⟨only, totals⟩ := markRequestReservationsFulfilled_totals ran
  have requests : after.requests = db.requests := by rw [only]
  have backorders : after.backorders = db.backorders := by rw [only]
  simp only [accountOf, totals, backorderTotal, requests, backorders]
  by_cases own : wanted = requestId
  · simp [own, Account.fulfil]
  · simp [own]

theorem markRequestBackorderResolved_account {backorder : InventoryRequestBackorder}
    (ran : (markRequestBackorderResolved backorder).run db = .ok (done, after)) :
    accountOf after wanted =
      if wanted = backorder.requestId then (accountOf db wanted).backorder backorder.itemId 0
      else accountOf db wanted := by
  obtain ⟨only, -, totals⟩ := markRequestBackorderResolved_totals ran
  have requests : after.requests = db.requests := by rw [only]
  have reservations : after.reservations = db.reservations := by rw [only]
  simp only [accountOf, totals, reservationTotal, requests, reservations]
  by_cases own : wanted = backorder.requestId
  · simp [own, Account.backorder]
  · simp [own]

structure Asks (original : InventoryRequest) (db : InventoryDb) : Prop where
  row : ∃ request, db.requests.find original.id = some request ∧ request.lines = original.lines ∧
    request.requestNumber = original.requestNumber
  alone : ∀ id request, db.requests.find id = some request → request.requestNumber = original.requestNumber →
    id = original.id

theorem Asks.congr (asks : Asks original db) (same : after.requests = db.requests) :
    Asks original after := by
  obtain ⟨row, alone⟩ := asks
  rw [← same] at row alone
  exact ⟨row, alone⟩

theorem setRequestStatus_account {context : CallContext} {status : String} {notes actorUserId : Option String}
    {request : Option InventoryRequest} (asks : Asks original db)
    (ran : (setRequestStatus context requestId status notes actorUserId).run db = .ok (request, after)) :
    Asks original after ∧ accountOf after original.id =
      if original.id = requestId then (accountOf db original.id).withStatus status else accountOf db original.id := by
  obtain ⟨⟨row, found, same⟩, alone⟩ := asks
  simp only [setRequestStatus, run_bind_ok, run_current_ok] at ran
  obtain ⟨_, _, ⟨rfl, rfl⟩, ran⟩ := ran
  split at ran
  · next absent =>
    obtain ⟨-, rfl⟩ := run_pure_ok.mp ran
    have differs : original.id ≠ requestId := fun own => by simp [own ▸ found] at absent
    exact ⟨⟨⟨row, found, same⟩, alone⟩, by rw [if_neg differs]⟩
  · next request present =>
    simp only [run_bind_ok, run_write_ok, run_pure_ok] at ran
    obtain ⟨_, _, rfl, -, rfl⟩ := ran
    have key : request.id = requestId := (find_eq_some _ |>.mp present).2
    have stored (id : String) :
        (db.requests.put (withStatus status notes actorUserId context.now request)).find id =
          if id = requestId then some (withStatus status notes actorUserId context.now request)
          else db.requests.find id := by
      rw [find_put]
      exact if_congr (by rw [← key]; rfl) rfl rfl
    refine ⟨⟨?_, fun id other held number => ?_⟩, ?_⟩
    · by_cases own : original.id = requestId
      · rw [own, present] at found
        obtain rfl := Option.some.inj found
        exact ⟨withStatus status notes actorUserId context.now request, by rw [stored, if_pos own], same⟩
      · exact ⟨row, by rw [stored, if_neg own, found], same⟩
    · rw [stored] at held
      split at held
      · next own =>
        obtain rfl := Option.some.inj held
        exact alone id request (own ▸ present) number
      · exact alone id other held number
    · simp only [accountOf, reservationTotal, backorderTotal, stored]
      by_cases own : original.id = requestId
      · simp [own, Account.withStatus, withStatus]
      · simp [own]

end Statements

/-- How many lines of an item an approval refuses: those that exceed what the lines before them leave available. -/
@[grind =] def refusals (itemId : String) : Nat → List InventoryLine → Nat
  | _, [] => 0
  | available, line :: rest =>
    if line.isEmpty ∨ line.itemId ≠ itemId then refusals itemId available rest
    else if line.quantity ≤ available then refusals itemId (available - line.quantity) rest
    else refusals itemId available rest + 1

def available (db : InventoryDb) (itemId : String) : Nat := onHand db itemId - reservedQuantity itemId db

/-- A request keeps its lines, its account is in order, and what was issued for it is what its reservations say. -/
structure Accounted (original : InventoryRequest) (start db : InventoryDb) : Prop where
  asks : Asks original db
  valid : (accountOf db original.id).Valid (lineTotal original.lines)
  issued : ∀ item, issuedFor db original.requestNumber item =
    issuedFor start original.requestNumber item + (accountOf db original.id).fulfilled item

structure Keeps (original : InventoryRequest) (start db after : InventoryDb) : Prop where
  accounted : Accounted original start after
  lasts : (accountOf db original.id).Lasts (lineTotal original.lines) (accountOf after original.id)

section Approval

variable {context : CallContext} {requestId : String} {session later : Session InventoryDb}
  {db after : InventoryDb} {line : InventoryLine} {backordered : Bool}

theorem Reserved.reservedQuantity {itemId : String} {quantity : Nat}
    (reserved : Reserved requestId itemId quantity db after) (wanted : String) :
    reservedQuantity wanted after = reservedQuantity wanted db + if itemId = wanted then quantity else 0 := by
  have sum := reserved.sum fun key => key.2.1 = wanted ∧ key.2.2 = .reserved
  simp only [and_true] at sum
  exact sum

inductive LineApproved (requestId : String) (line : InventoryLine) (db after : InventoryDb) : Bool → Prop
  | skipped (empty : line.isEmpty) (same : after = db) : LineApproved requestId line db after false
  | reserved (asked : ¬ line.isEmpty) (fits : line.quantity ≤ available db line.itemId)
      (reserved : Reserved requestId line.itemId line.quantity db after) : LineApproved requestId line db after false
  | backordered (asked : ¬ line.isEmpty) (exceeds : available db line.itemId < line.quantity)
      (backordered : Backordered requestId line.itemId line.quantity db after) :
      LineApproved requestId line db after true

theorem approveLine_ok (alone : session.snapshots = [])
    (ran : (approveLine context requestId line).run session = .ok (backordered, later)) :
    later.snapshots = [] ∧ LineApproved requestId line session.tables later.tables backordered := by
  unfold approveLine at ran
  split at ran
  · next empty =>
    obtain ⟨rfl, rfl⟩ := run_pure_ok.mp ran
    exact ⟨alone, .skipped empty rfl⟩
  · next asked =>
    obtain ⟨reservation, middle, reserved, ran⟩ := run_bind_ok.mp ran
    obtain ⟨still, outcome⟩ := reserveRequestLine_alone alone reserved
    have positive : 0 < line.quantity := Nat.pos_of_ne_zero fun zero => asked (.inr zero)
    split at ran
    · obtain ⟨rfl, rfl⟩ := run_pure_ok.mp ran
      obtain ⟨fits, reserved⟩ := outcome
      exact ⟨still, .reserved asked (by unfold available; omega) reserved⟩
    · obtain ⟨same, exceeds⟩ := outcome
      simp only [run_bind_ok, run_onTables_ok, run_pure_ok] at ran
      obtain ⟨_, _, ⟨tables, recorded, rfl⟩, rfl, rfl⟩ := ran
      rw [same] at recorded
      exact ⟨still, .backordered asked (by unfold available; omega) (recordRequestBackorder_ok recorded)⟩

/-- Half way through the lines of an approval: `rest` is still to come, with `results`. -/
structure Approving (requestId : String) (asked : String → Nat) (flag : Bool) (rest : List InventoryLine)
    (results : List Bool) (db : InventoryDb) : Prop where
  counted : ∀ item, (accountOf db requestId).reserved item + (accountOf db requestId).backordered item +
    lineTotal rest item = asked item
  unissued : ∀ item, (accountOf db requestId).fulfilled item = 0
  once : ∀ item, db.items.find item ≠ none →
    (if (accountOf db requestId).backordered item = 0 then 0 else 1) + refusals item (available db item) rest ≤ 1
  flagged : flag = true ↔ (∃ item, (accountOf db requestId).backordered item ≠ 0) ∨ results.any id = true

theorem lineTotal_cons (line : InventoryLine) (rest : List InventoryLine) (itemId : String) :
    lineTotal (line :: rest) itemId =
      (if ¬ line.isEmpty ∧ line.itemId = itemId then line.quantity else 0) + lineTotal rest itemId :=
  total_cons _ _ line rest

theorem LineApproved.next {asked : String → Nat} {flag : Bool}
    {rest : List InventoryLine} {results : List Bool}
    (before : Approving requestId asked flag (line :: rest) (backordered :: results) db)
    (approved : LineApproved requestId line db after backordered) :
    Approving requestId asked flag rest results after := by
  obtain ⟨counted, unissued, once, flagged⟩ := before
  simp only [lineTotal_cons] at counted
  cases approved with
  | skipped empty same =>
    subst same
    refine ⟨fun item => ?_, unissued, fun item known => ?_, by simpa using flagged⟩
    · simpa [empty] using counted item
    · simpa [refusals, empty] using once item known
  | reserved asks fits reserved =>
    have account : accountOf after requestId = (accountOf db requestId).reserve line.itemId line.quantity := by
      rw [reserved.account, if_pos rfl]
    have items : after.items = db.items := by rw [reserved.only]
    have left (item : String) :
        available after item = available db item - if line.itemId = item then line.quantity else 0 := by
      rw [available, available, onHand_congr items, reserved.reservedQuantity, Nat.sub_add_eq]
    refine ⟨fun item => ?_, fun item => ?_, fun item known => ?_, ?_⟩
    · rw [account, ← counted item]
      by_cases own : line.itemId = item
      · simp only [Account.reserve, own, if_true, asks, not_false_eq_true, and_self]
        omega
      · simp only [Account.reserve, own, Ne.symm own, if_false, and_false]
        omega
    · rw [account]
      exact unissued item
    · rw [items] at known
      have before := once item known
      have kept : (accountOf after requestId).backordered item = (accountOf db requestId).backordered item := by
        rw [account]
        rfl
      rw [kept, left]
      by_cases own : line.itemId = item
      · subst own
        simpa [refusals, asks, fits] using before
      · simpa [refusals, own] using before
    · rw [account]
      simpa [Account.reserve] using flagged
  | backordered asks exceeds backordered =>
    have account : accountOf after requestId = (accountOf db requestId).backorder line.itemId line.quantity := by
      rw [backordered.account, if_pos rfl]
    have items : after.items = db.items := by rw [backordered.only]
    have reservations : after.reservations = db.reservations := by rw [backordered.only]
    have left (item : String) : available after item = available db item := by
      rw [available, available, onHand_congr items, reservedQuantity, reservedQuantity, reservations]
    have positive : line.quantity ≠ 0 := fun zero => asks (.inr zero)
    -- The line is the one that may be refused, so there was no backorder to lose.
    have first := once line.itemId backordered.known
    simp only [refusals, asks, ne_eq, not_true_eq_false, or_self, if_false, Nat.not_le_of_lt exceeds] at first
    have fresh : (accountOf db requestId).backordered line.itemId = 0 := by
      by_contra old
      rw [if_neg old] at first
      omega
    refine ⟨fun item => ?_, fun item => ?_, fun item known => ?_, ?_⟩
    · rw [account, ← counted item]
      by_cases own : line.itemId = item
      · subst own
        simp only [Account.backorder, fresh, if_true, asks, not_false_eq_true, and_self]
        omega
      · simp only [Account.backorder, own, Ne.symm own, if_false, and_false]
        omega
    · rw [account]
      exact unissued item
    · rw [items] at known
      have before := once item known
      by_cases own : line.itemId = item
      · subst own
        have opened : (accountOf after requestId).backordered line.itemId = line.quantity := by
          rw [account]
          exact if_pos rfl
        rw [opened, left, if_neg positive]
        omega
      · have kept : (accountOf after requestId).backordered item = (accountOf db requestId).backordered item := by
          rw [account]
          exact if_neg (Ne.symm own)
        rw [kept, left]
        simpa [refusals, own] using before
    · refine flagged.trans ⟨fun _ => .inl ⟨line.itemId, ?_⟩, fun _ => .inr (by simp)⟩
      rw [account]
      simpa [Account.backorder] using positive

theorem LineApproved.same
    (approved : LineApproved requestId line db after backordered) :
    after.requests = db.requests ∧ after.movements = db.movements ∧
      ∀ wanted, wanted ≠ requestId → accountOf after wanted = accountOf db wanted := by
  cases approved with
  | skipped empty same =>
    subst same
    exact ⟨rfl, rfl, fun _ _ => rfl⟩
  | reserved asks fits reserved =>
    exact ⟨by rw [reserved.only], by rw [reserved.only], fun _ other => by rw [reserved.account, if_neg other]⟩
  | backordered asks exceeds backordered =>
    exact ⟨by rw [backordered.only], by rw [backordered.only],
      fun _ other => by rw [backordered.account, if_neg other]⟩

end Approval

section Calls

variable {original : InventoryRequest} {start db after : InventoryDb} {context : CallContext} {requestId : String}
  {session later : Session InventoryDb} {result : InventoryRequest} {dto : UpdateWorkflowStatus}
  {request : InventoryRequest} {lines : List RequestFulfillmentLine} {status : String}

theorem issuedFor_congr (same : after.movements = db.movements) (number itemId : String) :
    issuedFor after number itemId = issuedFor db number itemId := by
  rw [issuedFor, issuedFor, same]

theorem Accounted.keeps_of_same (accounted : Accounted original start db) (asks : Asks original after)
    (account : accountOf after original.id = accountOf db original.id)
    (issued : ∀ item, issuedFor after original.requestNumber item = issuedFor db original.requestNumber item) :
    Keeps original start db after := by
  refine ⟨⟨asks, ?_, fun item => ?_⟩, ?_⟩
  · rw [account]
    exact accounted.valid
  · rw [issued, account]
    exact accounted.issued item
  · rw [account]
    exact .refl

theorem Keeps.trans {middle : InventoryDb} (before : Keeps original start db middle)
    (next : Keeps original start middle after) : Keeps original start db after :=
  ⟨next.accounted, before.lasts.trans next.lasts⟩

theorem accountOf_status (found : db.requests.find requestId = some request) :
    (accountOf db requestId).status = request.status := by
  simp [accountOf, found]

theorem approveRequest_keeps (accounted : Accounted original start session.tables) (alone : session.snapshots = [])
    (once : ∀ request, session.tables.requests.find original.id = some request → request.status = "pending" →
      ∀ item, session.tables.items.find item ≠ none →
        refusals item (available session.tables item) request.lines ≤ 1)
    (ran : (approveRequest context original.id dto).run session = .ok (result, later)) :
    Keeps original start session.tables later.tables ∧
      (accountOf later.tables original.id).Covers (lineTotal original.lines) := by
  simp only [approveRequest, run_bind_ok, run_onTables_ok, required_ok] at ran
  obtain ⟨request, _, ⟨_, checked, rfl⟩, results, middle, approved, _, ⟨_, last, set, -, rfl⟩, rfl⟩ := ran
  obtain ⟨found, pending, rfl⟩ := requestInStatus_ok checked
  obtain ⟨row, sameFound, lines, -⟩ := accounted.asks.row
  obtain rfl : request = row := Option.some.inj (found.symm.trans sameFound)
  have status : (accountOf session.tables original.id).status = "pending" :=
    (accountOf_status found).trans pending
  have untouched := accounted.valid.pending status
  have start' : Approving original.id (lineTotal original.lines) (results.any id) request.lines results
      session.tables := by
    refine ⟨fun item => ?_, fun item => (untouched item).2.1, fun item known => ?_, ?_⟩
    · rw [(untouched item).1, (untouched item).2.2, lines, Nat.zero_add]
    · rw [if_pos (untouched item).2.2, Nat.zero_add]
      exact once request found pending item known
    · simp [(untouched _).2.2]
  have loop := mapM_induction_results
    (motive := fun rest left other => other.snapshots = [] ∧ other.tables.requests = session.tables.requests ∧
      other.tables.movements = session.tables.movements ∧
        Approving original.id (lineTotal original.lines) (results.any id) rest left other.tables)
    approved ⟨alone, rfl, rfl, start'⟩ fun line rest first result left last before step => by
      obtain ⟨still, lineApproved⟩ := approveLine_ok before.1 step
      obtain ⟨requests, movements, -⟩ := lineApproved.same
      exact ⟨still, requests.trans before.2.1, movements.trans before.2.2.1, lineApproved.next before.2.2.2⟩
  obtain ⟨-, requests, movements, counted, unissued, -, flagged⟩ := loop
  obtain ⟨asks, account⟩ := setRequestStatus_account (accounted.asks.congr requests) set
  rw [if_pos rfl] at account
  have covers : (accountOf middle.tables original.id).Covers (lineTotal original.lines) := by
    intro item
    rw [unissued item, Nat.add_zero]
    exact counted item
  have valid : (accountOf last original.id).Valid (lineTotal original.lines) := by
    rw [account]
    by_cases flag : results.any id = true
    · rw [if_pos flag]
      exact .of_accounted (.inr covers) (by simp) (by decide) (by decide) (by simp)
    · rw [if_neg flag]
      have none (item : String) : (accountOf middle.tables original.id).backordered item = 0 := by
        by_contra backordered
        exact flag (flagged.mpr (.inl ⟨item, backordered⟩))
      refine .of_reserved covers none fun free item => ?_
      rw [← covers item, free, unissued, none]
  refine ⟨⟨⟨asks, valid, fun item => ?_⟩, fun _ => ?_, fun cancelled => ?_⟩, ?_⟩
  · rw [issuedFor_congr ((setRequestStatus_requestsOnly set).movements.trans movements), accounted.issued, account,
      (untouched item).2.1]
    exact (congrArg _ (unissued item)).symm
  · rw [account]
    exact covers
  · rw [status] at cancelled
    exact absurd cancelled (by decide)
  · rw [account]
    exact covers

theorem approveRequest_other (other : original.id ≠ requestId) (accounted : Accounted original start session.tables)
    (alone : session.snapshots = [])
    (ran : (approveRequest context requestId dto).run session = .ok (result, later)) :
    Keeps original start session.tables later.tables := by
  simp only [approveRequest, run_bind_ok, run_onTables_ok, required_ok] at ran
  obtain ⟨request, _, ⟨_, checked, rfl⟩, results, middle, approved, _, ⟨_, last, set, -, rfl⟩, rfl⟩ := ran
  obtain ⟨-, -, rfl⟩ := requestInStatus_ok checked
  have loop := mapM_induction
    (motive := fun _ others => others.snapshots = [] ∧ others.tables.requests = session.tables.requests ∧
      others.tables.movements = session.tables.movements ∧
        accountOf others.tables original.id = accountOf session.tables original.id)
    approved ⟨alone, rfl, rfl, rfl⟩ fun line rest first result last before step => by
      obtain ⟨still, lineApproved⟩ := approveLine_ok before.1 step
      obtain ⟨requests, movements, account⟩ := lineApproved.same
      exact ⟨still, requests.trans before.2.1, movements.trans before.2.2.1,
        (account original.id other).trans before.2.2.2⟩
  obtain ⟨-, requests, movements, same⟩ := loop
  obtain ⟨asks, account⟩ := setRequestStatus_account (accounted.asks.congr requests) set
  rw [if_neg other, same] at account
  exact accounted.keeps_of_same asks account fun item =>
    issuedFor_congr ((setRequestStatus_requestsOnly set).movements.trans movements) _ item

theorem issueAndClose_account
    (asks : Asks original db) (found : db.requests.find request.id = some request)
    (ran : (issueAndClose context request lines status dto).run db = .ok (result, after)) :
    Asks original after ∧
      (accountOf after original.id =
        if original.id = request.id then (accountOf db original.id).fulfil.withStatus status
        else accountOf db original.id) ∧
      ∀ item, issuedFor after original.requestNumber item = issuedFor db original.requestNumber item +
        if original.id = request.id then fulfillmentTotal lines item else 0 := by
  simp only [issueAndClose, run_bind_ok, required_ok] at ran
  obtain ⟨_, first, issuing, _, second, marked, _, _, set, -, rfl⟩ := ran
  have issued := issueRequestStockLines_issued issuing
  have requests : first.requests = db.requests := by rw [issued.only]
  have same : accountOf first original.id = accountOf db original.id :=
    accountOf_congr requests (by rw [issued.only]) (by rw [issued.only])
  have marking := (markRequestReservationsFulfilled_totals marked).1
  have secondRequests : second.requests = first.requests := by rw [marking]
  have movements : second.movements = first.movements := by rw [marking]
  obtain ⟨asksAfter, account⟩ := setRequestStatus_account (asks.congr (secondRequests.trans requests)) set
  refine ⟨asksAfter, ?_, fun item => ?_⟩
  · rw [account, markRequestReservationsFulfilled_account marked, same]
    by_cases own : original.id = request.id
    · rw [if_pos own, if_pos own, if_pos own]
    · rw [if_neg own, if_neg own, if_neg own]
  · rw [issuedFor_congr ((setRequestStatus_requestsOnly set).movements.trans movements), issued.issued]
    congr 1
    refine if_congr ⟨fun number => ?_, fun own => ?_⟩ rfl rfl
    · exact (asks.alone request.id request found number.symm).symm
    · obtain ⟨row, sameFound, -, number⟩ := asks.row
      rw [own, found] at sameFound
      rw [Option.some.inj sameFound, number]

theorem Accounted.unnamed (accounted : Accounted original start db) :
    reservationTotal db original.id "" .reserved = 0 := by
  have none : lineTotal original.lines "" = 0 :=
    total_eq_zero fun line _ counted => counted.1 (.inl counted.2)
  rcases accounted.valid.accounted with untouched | covers
  · exact (untouched "").1
  · have whole := covers ""
    rw [none] at whole
    exact Nat.eq_zero_of_add_eq_zero_right (Nat.eq_zero_of_add_eq_zero_right whole)

theorem Accounted.close
    (accounted : Accounted original start db) (found : db.requests.find original.id = some request)
    (valid : ((accountOf db original.id).fulfil.withStatus status).Valid (lineTotal original.lines) ∧
      (accountOf db original.id).Lasts (lineTotal original.lines)
        ((accountOf db original.id).fulfil.withStatus status))
    (held : ∀ item, fulfillmentTotal lines item = (accountOf db original.id).reserved item)
    (ran : (issueAndClose context request lines status dto).run db = .ok (result, after)) :
    Keeps original start db after := by
  have key : request.id = original.id := (find_eq_some _ |>.mp found).2
  obtain ⟨asks, account, issued⟩ := issueAndClose_account accounted.asks (key ▸ found) ran
  rw [if_pos key.symm] at account
  refine ⟨⟨asks, ?_, fun item => ?_⟩, ?_⟩
  · rw [account]
    exact valid.1
  · rw [issued, if_pos key.symm, held, accounted.issued, account, Nat.add_assoc]
    rfl
  · rw [account]
    exact valid.2

theorem fulfillRequest_keeps (accounted : Accounted original start session.tables) (alone : Alone session)
    (ran : (fulfillRequest context requestId dto).run session = .ok (result, later)) :
    Keeps original start session.tables later.tables := by
  simp only [fulfillRequest, run_bind_ok, run_onTables_ok] at ran
  obtain ⟨request, _, ⟨_, checked, rfl⟩, lines, _, listed, _, closed, rfl⟩ := ran
  obtain ⟨found, approved, rfl⟩ := requestInStatus_ok checked
  obtain ⟨rfl, rfl⟩ := listReserved_ok alone listed
  have key : request.id = requestId := (find_eq_some _ |>.mp found).2
  by_cases own : original.id = requestId
  · rw [← own] at found
    have status : (accountOf session.tables original.id).status = "approved" := (accountOf_status found).trans approved
    refine accounted.close found (accounted.valid.fulfil status) (fun item => ?_) closed
    have held := fulfillmentTotal_heldLines accounted.unnamed
    unfold linesToIssue
    split
    · rw [← own]
      exact held item
    · next none =>
      rw [← own, Nat.not_lt, Nat.le_zero, List.length_eq_zero_iff] at none
      have free (item : String) : (accountOf session.tables original.id).reserved item = 0 := by
        refine (held item).symm.trans ?_
        rw [none]
        rfl
      obtain ⟨row, sameFound, lines, -⟩ := accounted.asks.row
      obtain rfl : request = row := Option.some.inj (found.symm.trans sameFound)
      rw [fulfillmentTotal_requestLines, free, lines]
      exact (accounted.valid.approved status).2.2 free item
  · have other : original.id ≠ request.id := key ▸ own
    obtain ⟨asks, account, issued⟩ := issueAndClose_account accounted.asks (key.symm ▸ found) closed
    rw [if_neg other] at account
    refine accounted.keeps_of_same asks account fun item => ?_
    rw [issued, if_neg other, Nat.add_zero]

theorem partiallyFulfillRequest_keeps (accounted : Accounted original start session.tables) (alone : Alone session)
    (ran : (partiallyFulfillRequest context requestId dto).run session = .ok (result, later)) :
    Keeps original start session.tables later.tables := by
  simp only [partiallyFulfillRequest, run_bind_ok, run_onTables_ok, run_failIf_ok] at ran
  obtain ⟨request, _, ⟨_, checked, rfl⟩, lines, _, listed, _, ⟨_, _, ⟨-, rfl⟩, closed⟩, rfl⟩ := ran
  obtain ⟨found, backordered, rfl⟩ := requestInStatus_ok checked
  obtain ⟨rfl, rfl⟩ := listReserved_ok alone listed
  have key : request.id = requestId := (find_eq_some _ |>.mp found).2
  by_cases own : original.id = requestId
  · rw [← own] at found closed
    have status : (accountOf session.tables original.id).status = "backordered" :=
      (accountOf_status found).trans backordered
    exact accounted.close found (accounted.valid.fulfilPartially status)
      (fulfillmentTotal_heldLines accounted.unnamed) closed
  · have other : original.id ≠ request.id := key ▸ own
    obtain ⟨asks, account, issued⟩ := issueAndClose_account accounted.asks (key.symm ▸ found) closed
    rw [if_neg other] at account
    refine accounted.keeps_of_same asks account fun item => ?_
    rw [issued, if_neg other, Nat.add_zero]

/-- The status writes that leave the account of a request in order. An approval refuses at most one line of an item.
Otherwise `cancelled` is for a request that holds nothing and awaits nothing, and final; `pending` is for one that has
reserved nothing yet. -/
def AdmitsStatus (db : InventoryDb) (request : InventoryRequest) (status : String) : Prop :=
  if status = "approved" then
    request.status = "pending" →
      ∀ item ∈ db.items.rows, refusals item.id (available db item.id) request.lines ≤ 1
  else if status = "fulfilled" ∨ status = "partially_fulfilled" then True
  else
    (request.status = "cancelled" → status = "cancelled") ∧
      (status = "cancelled" → reservedRows request.id db = [] ∧ openBackorders request.id db = 0) ∧
      (status = "pending" → (∀ reservation ∈ db.reservations.rows, reservation.requestId ≠ request.id) ∧
        openBackorders request.id db = 0)

theorem setRequestStatus_keeps {notes actorUserId : Option String}
    {updated : Option InventoryRequest} (accounted : Accounted original start db)
    (found : db.requests.find original.id = some request) (other : status ≠ "approved" ∧ status ≠ "fulfilled" ∧
      status ≠ "partially_fulfilled") (admits : AdmitsStatus db request status)
    (ran : (setRequestStatus context original.id status notes actorUserId).run db = .ok (updated, after)) :
    Keeps original start db after := by
  obtain ⟨asks, account⟩ := setRequestStatus_account accounted.asks ran
  have key : request.id = original.id := (find_eq_some _ |>.mp found).2
  rw [if_pos rfl] at account
  rw [AdmitsStatus, if_neg other.1, if_neg fun closes => closes.elim other.2.1 other.2.2, key] at admits
  obtain ⟨final, cancels, reopens⟩ := admits
  refine ⟨⟨asks, ?_, fun item => ?_⟩, ?_⟩
  · rw [account]
    refine .of_accounted accounted.valid.accounted (fun pending item => ?_) other.1 other.2.1 fun cancelled item => ?_
    · obtain ⟨unreserved, closed⟩ := reopens pending
      have none (status : ReservationStatus) : reservationTotal db original.id item status = 0 :=
        total_eq_zero fun row member same => unreserved row member (congrArg Prod.fst same)
      exact ⟨none .reserved, none .fulfilled, backorderTotal_eq_zero_iff.mpr closed item⟩
    · obtain ⟨unreserved, closed⟩ := cancels cancelled
      exact ⟨reservedTotal_eq_zero_iff.mpr unreserved item, backorderTotal_eq_zero_iff.mpr closed item⟩
  · rw [issuedFor_congr (setRequestStatus_requestsOnly ran).movements, accounted.issued, account]
    rfl
  · rw [account]
    refine ⟨id, fun cancelled => final ?_⟩
    rwa [accountOf_status found] at cancelled

theorem updateRequestStatus_keeps (accounted : Accounted original start session.tables) (alone : Alone session)
    (admits : requestId = original.id → ∀ request, session.tables.requests.find original.id = some request →
      AdmitsStatus session.tables request dto.status)
    (ran : (updateRequestStatus context requestId dto).run session = .ok (result, later)) :
    Keeps original start session.tables later.tables ∧
      (requestId = original.id → dto.status = "approved" →
        (accountOf later.tables original.id).Covers (lineTotal original.lines)) := by
  unfold updateRequestStatus at ran
  split at ran
  · next approving =>
    by_cases own : original.id = requestId
    · subst own
      have kept := approveRequest_keeps accounted alone.snapshots (fun request found pending item known => ?_) ran
      · exact ⟨kept.1, fun _ _ => kept.2⟩
      · have once := admits rfl request found
        rw [AdmitsStatus, if_pos approving] at once
        cases present : session.tables.items.find item with
        | none => exact absurd present known
        | some row =>
          obtain ⟨member, rfl⟩ := find_eq_some _ |>.mp present
          exact once pending row member
    · exact ⟨approveRequest_other own accounted alone.snapshots ran, fun same => absurd same.symm own⟩
  · next notApproving =>
    split at ran
    · exact ⟨fulfillRequest_keeps accounted alone ran, fun _ approving => absurd approving notApproving⟩
    · next notFulfilling =>
      split at ran
      · exact ⟨partiallyFulfillRequest_keeps accounted alone ran, fun _ approving => absurd approving notApproving⟩
      · next notPartially =>
        simp only [run_onTables_ok, run_bind_ok, required_ok] at ran
        obtain ⟨_, ⟨_, _, set, -, rfl⟩, rfl⟩ := ran
        refine ⟨?_, fun _ approving => absurd approving notApproving⟩
        by_cases own : original.id = requestId
        · subst own
          obtain ⟨request, found, -⟩ := accounted.asks.row
          exact setRequestStatus_keeps accounted found ⟨notApproving, notFulfilling, notPartially⟩
            (admits rfl request found) set
        · obtain ⟨asks, account⟩ := setRequestStatus_account accounted.asks set
          rw [if_neg own] at account
          exact accounted.keeps_of_same asks account
            fun item => issuedFor_congr (setRequestStatus_requestsOnly set).movements _ item

end Calls

section Receipts

variable {original : InventoryRequest} {start db after : InventoryDb} {context : CallContext}
  {session later : Session InventoryDb} {done : Unit} {itemId : String}

theorem backorderTotal_of_mem {backorder : InventoryRequestBackorder} (member : backorder ∈ db.backorders.rows)
    (open' : isOpen backorder) :
    backorderTotal db backorder.requestId backorder.itemId = backorder.backorderedQuantity := by
  have found : db.backorders.find (backorder.requestId, backorder.itemId, .open) = some backorder :=
    (find_eq_some _).mpr ⟨member, by rw [← show backorder.status = .open from open']⟩
  rw [backorderTotal, sum_key, found]
  rfl

theorem resolveBackorder_keeps {backorder : InventoryRequestBackorder}
    (accounted : Accounted original start session.tables) (alone : session.snapshots = [])
    (member : backorder ∈ session.tables.backorders.rows) (open' : isOpen backorder)
    (ran : (resolveBackorder context backorder).run session = .ok (done, later)) :
    later.snapshots = [] ∧ Keeps original start session.tables later.tables ∧
      ∀ other ∈ session.tables.backorders.rows,
        (other.requestId = backorder.requestId → other.itemId ≠ backorder.itemId) →
          other ∈ later.tables.backorders.rows := by
  simp only [resolveBackorder, run_bind_ok] at ran
  obtain ⟨reservation, middle, reserved, ran⟩ := ran
  obtain ⟨still, outcome⟩ := reserveRequestLine_alone alone reserved
  split at ran
  · obtain ⟨-, rfl⟩ := run_pure_ok.mp ran
    obtain ⟨same, -⟩ := outcome
    rw [same]
    exact ⟨still, accounted.keeps_of_same accounted.asks rfl fun _ => rfl, fun other member _ => member⟩
  · obtain ⟨-, reserved⟩ := outcome
    simp only [run_bind_ok, run_onTables_ok] at ran
    obtain ⟨_, _, ⟨tables, marked, rfl⟩, _, counted, read, ran⟩ := ran
    obtain ⟨only, others, -⟩ := markRequestBackorderResolved_totals marked
    obtain ⟨rfl, rfl⟩ := visibleTotal_of_alone read still
    have backorders : middle.tables.backorders = session.tables.backorders := by rw [reserved.only]
    have movements : tables.movements = session.tables.movements := by rw [only, reserved.only]
    have requests : tables.requests = session.tables.requests := by rw [only, reserved.only]
    have account : accountOf tables original.id =
        if original.id = backorder.requestId then
          ((accountOf session.tables original.id).reserve backorder.itemId backorder.backorderedQuantity).backorder
            backorder.itemId 0
        else accountOf session.tables original.id := by
      rw [markRequestBackorderResolved_account marked, reserved.account]
      split <;> rfl
    rw [backorders] at others
    have positive := backorder.positive.2
    have total := backorderTotal_of_mem member open'
    have resolved : Keeps original start session.tables tables := by
      by_cases own : original.id = backorder.requestId
      · rw [if_pos own] at account
        rw [← own] at total
        obtain ⟨valid, lasts⟩ := accounted.valid.resolve positive total
        refine ⟨⟨accounted.asks.congr requests, ?_, fun item => ?_⟩, ?_⟩
        · rw [account]
          exact valid
        · rw [issuedFor_congr movements, accounted.issued, account]
          rfl
        · rw [account]
          exact lasts
      · rw [if_neg own] at account
        exact accounted.keeps_of_same (accounted.asks.congr requests) account
          fun item => issuedFor_congr movements _ item
    split at ran
    · next none =>
      simp only [run_bind_ok, run_onTables_ok, run_pure_ok] at ran
      obtain ⟨_, _, ⟨last, set, rfl⟩, -, rfl⟩ := ran
      obtain ⟨asks, approved⟩ := setRequestStatus_account resolved.accounted.asks set
      have rows : last.backorders = tables.backorders := by rw [setRequestStatus_only set]
      refine ⟨still, resolved.trans ?_, fun other member apart => rows ▸ others other member apart⟩
      by_cases own : original.id = backorder.requestId
      · rw [if_pos own] at approved account
        rw [← own] at total none
        have backordered : 0 < (accountOf session.tables original.id).backordered backorder.itemId :=
          positive.trans_eq total.symm
        obtain ⟨covers, -, -, -, notCancelled⟩ := accounted.valid.of_backordered backordered
        have stillCovers := resolved.lasts.covers covers
        have free (item : String) : (accountOf tables original.id).backordered item = 0 :=
          backorderTotal_eq_zero_iff.mpr none item
        refine ⟨⟨asks, ?_, fun item => ?_⟩, ?_⟩
        · rw [approved]
          refine .of_reserved stillCovers free fun unreserved => ?_
          have held := unreserved backorder.itemId
          simp [account, Account.reserve, Account.backorder] at held
          omega
        · rw [issuedFor_congr (setRequestStatus_requestsOnly set).movements, resolved.accounted.issued, approved]
          rfl
        · rw [approved]
          refine ⟨id, fun cancelled => absurd ?_ notCancelled⟩
          rw [account] at cancelled
          exact cancelled
      · rw [if_neg own] at approved
        exact resolved.accounted.keeps_of_same asks approved
          fun item => issuedFor_congr (setRequestStatus_requestsOnly set).movements _ item
    · obtain ⟨-, rfl⟩ := run_pure_ok.mp ran
      exact ⟨still, resolved, others⟩

theorem resolveBackordersForReceivedItem_keeps
    (ran : (resolveBackordersForReceivedItem context itemId).run session = .ok (done, later))
    (accounted : Accounted original start session.tables) (alone : session.snapshots = []) :
    later.snapshots = [] ∧ Keeps original start session.tables later.tables := by
  simp only [resolveBackordersForReceivedItem, listOpenRequestBackordersForItem, run_bind_ok, run_onTables_ok,
    run_current_ok, run_pure_ok] at ran
  obtain ⟨_, _, ⟨_, ⟨_, _, ⟨rfl, rfl⟩, rfl, rfl⟩, rfl⟩, _, last, resolved, -, rfl⟩ := ran
  have distinct : (session.tables.backorders.rows.filter
      fun backorder => backorder.itemId = itemId ∧ isOpen backorder).Nodup :=
    List.Nodup.filter _ (List.Nodup.of_map _ session.tables.backorders.distinct)
  have kept := mapM_induction
    (motive := fun rest other => other.snapshots = [] ∧ Keeps original start session.tables other.tables ∧
      rest.Nodup ∧ ∀ backorder ∈ rest,
        backorder ∈ other.tables.backorders.rows ∧ backorder.itemId = itemId ∧ isOpen backorder)
    resolved
    ⟨alone, accounted.keeps_of_same accounted.asks rfl fun _ => rfl, distinct, fun backorder member => by
      simpa using member⟩
    fun backorder rest first _ last before step => by
      obtain ⟨still, keeps, nodup, listed⟩ := before
      obtain ⟨fresh, nodup⟩ := List.nodup_cons.mp nodup
      obtain ⟨⟨member, item, open'⟩, listed⟩ := List.forall_mem_cons.mp listed
      obtain ⟨after, next, others⟩ := resolveBackorder_keeps keeps.accounted still member open' step
      refine ⟨after, keeps.trans next, nodup, fun other later => ?_⟩
      obtain ⟨present, otherItem, otherOpen⟩ := listed other later
      refine ⟨others other present fun request => ?_, otherItem, otherOpen⟩
      -- Two open backorders of one request and one item would be the same row.
      intro sameItem
      have same : other = backorder := eq_of_key present member (by
        rw [request, sameItem, show other.status = .open from otherOpen, show backorder.status = .open from open'])
      exact fresh (same ▸ later)
  exact ⟨kept.1, kept.2.1⟩

structure Restocked (db after : InventoryDb) : Prop where
  only : after = { db with items := after.items, balances := after.balances, movements := after.movements }
  issued : ∀ number itemId, issuedFor after number itemId = issuedFor db number itemId

theorem Restocked.keeps (restocked : Restocked db after) (accounted : Accounted original start db) :
    Keeps original start db after := by
  have requests : after.requests = db.requests := by rw [restocked.only]
  exact accounted.keeps_of_same (accounted.asks.congr requests)
    (accountOf_congr requests (by rw [restocked.only]) (by rw [restocked.only])) (restocked.issued _)

theorem storeReceived_restocked {quantity : Nat} {cost : InventoryItem → Int × Option String}
    {error : Exception} {movement : InventoryStockMutation → InventoryStockMovement}
    {mutation : InventoryStockMutation} (receipt : ∀ mutation, (movement mutation).movementType ≠ "stock_issue")
    (ran : (do
      let received ← changeItemStock itemId (fun onHand => some (onHand + quantity)) cost
      storeReceived received error quantity movement).run db = .ok (mutation, after)) : Restocked db after := by
  simp only [storeReceived, run_bind_ok, required_ok, recordStockMovement_ok, run_pure_ok,
    incrementItemLocationBalance, putBalance, run_current_ok, run_write_ok] at ran
  obtain ⟨_, _, changed, _, _, ⟨rfl, rfl⟩, _, _, rfl, _, _, ⟨_, _, ⟨rfl, rfl⟩, rfl⟩, -, rfl⟩ := ran
  rw [(changeItemStock_ok changed).stored]
  refine ⟨rfl, fun number item => ?_⟩
  simp [issuedFor, InventoryDb.withBalance, total_append, total_cons, receipt]

theorem receiveSupplierStock_keeps {dto : CreateStockReceipt} {result : StockTransactionResponse}
    (accounted : Accounted original start session.tables) (alone : session.snapshots = [])
    (ran : (receiveSupplierStock context dto).run session = .ok (result, later)) :
    Keeps original start session.tables later.tables := by
  rw [receiveSupplierStock, run_bind_ok] at ran
  obtain ⟨seen, middle, read, ran⟩ := ran
  obtain ⟨-, rfl⟩ := snapshot_of_alone read alone
  split at ran
  · obtain ⟨-, rfl⟩ := run_pure_ok.mp ran
    exact accounted.keeps_of_same accounted.asks rfl fun _ => rfl
  · simp only [receiveStock, run_bind_ok, run_onTables_ok, run_failIf_ok, run_pure_ok] at ran
    obtain ⟨_, _, ⟨_, ⟨-, rfl⟩, rfl⟩, _, _, ⟨_, ⟨-, rfl⟩, rfl⟩, _, _, lines, -, rfl⟩ := ran
    have kept := mapM_induction
      (motive := fun _ other => other.snapshots = [] ∧ Keeps original start middle.tables other.tables)
      lines ⟨alone, accounted.keeps_of_same accounted.asks rfl fun _ => rfl⟩
      fun line rest first _ last before step => by
        simp only [receiveLine, run_bind_ok, run_onTables_ok, run_failIf_ok, run_lift_ok, run_pure_ok] at step
        obtain ⟨_, _, ⟨_, ⟨_, _, ⟨-, rfl⟩, _, _, ⟨-, rfl⟩, stored⟩, rfl⟩, _, _, resolved, -, rfl⟩ := step
        have restocked : Restocked first.tables _ :=
          storeReceived_restocked (fun _ => by simp [receiptMovement]) (run_bind_ok.mpr stored)
        have keeps := before.2.trans (restocked.keeps before.2.accounted)
        obtain ⟨still, next⟩ := resolveBackordersForReceivedItem_keeps resolved keeps.accounted before.1
        exact ⟨still, keeps.trans next⟩
    exact kept.2

theorem updatePurchaseOrderStatus_keeps {purchaseOrderId : String} {dto : UpdateWorkflowStatus}
    {result : PurchaseOrder} (accounted : Accounted original start session.tables) (alone : session.snapshots = [])
    (ran : (updatePurchaseOrderStatus context purchaseOrderId dto).run session = .ok (result, later)) :
    Keeps original start session.tables later.tables := by
  have orderOnly {status : String} {notes : Option String} {db after : InventoryDb}
      (set : (setPurchaseOrderStatus context purchaseOrderId status notes).run db = .ok (result, after))
      (accounted : Accounted original start db) : Keeps original start db after := by
    have only := setPurchaseOrderStatus_only set
    have requests : after.requests = db.requests := by rw [only]
    exact accounted.keeps_of_same (accounted.asks.congr requests)
      (accountOf_congr requests (by rw [only]) (by rw [only])) fun item => issuedFor_congr (by rw [only]) _ item
  unfold updatePurchaseOrderStatus at ran
  split at ran
  · simp only [receivePurchaseOrder, approvedPurchaseOrder, findPurchaseOrderByIdForUpdate, run_bind_ok,
      run_onTables_ok, run_current_ok, run_pure_ok, required_ok, run_failIf_ok] at ran
    obtain ⟨_, _, ⟨_, ⟨_, _, ⟨_, _, ⟨rfl, rfl⟩, rfl, rfl⟩, _, _, ⟨-, rfl⟩, _, _, ⟨-, rfl⟩, rfl, rfl⟩, rfl⟩, _, middle,
      lines, _, set, rfl⟩ := ran
    have kept := mapM_induction
      (motive := fun _ other => other.snapshots = [] ∧ Keeps original start session.tables other.tables)
      lines ⟨alone, accounted.keeps_of_same accounted.asks rfl fun _ => rfl⟩
      fun line rest first _ last before step => by
        by_cases empty : line.isEmpty
        · rw [receiveOrderLine, if_pos empty] at step
          obtain ⟨-, rfl⟩ := run_pure_ok.mp step
          exact before
        · simp only [receiveOrderLine, if_neg empty, run_bind_ok, run_onTables_ok] at step
          obtain ⟨_, _, ⟨_, stored, rfl⟩, resolved⟩ := step
          have restocked : Restocked first.tables _ :=
            storeReceived_restocked (fun _ => by simp [orderMovement]) (run_bind_ok.mpr stored)
          have keeps := before.2.trans (restocked.keeps before.2.accounted)
          obtain ⟨still, next⟩ := resolveBackordersForReceivedItem_keeps resolved keeps.accounted before.1
          exact ⟨still, keeps.trans next⟩
    exact kept.2.trans (orderOnly set kept.2.accounted)
  · obtain ⟨_, set, rfl⟩ := run_onTables_ok.mp ran
    exact orderOnly set accounted

end Receipts

end ShuleHub.Inventory
