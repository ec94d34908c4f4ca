import ShuleHub.Lib.Forest
import ShuleHub.Support.Tickets

/-! Merged tickets under replies, status changes and merges in any interleaving: when following the merges ends in a
ticket that is not merged, and merged tickets stay closed. -/

namespace ShuleHub.Support

open Runs Transaction Snapshots Forest KeyedTable Outcome

def standing (tickets : KeyedTable SupportTicket String (·.id)) (id : String) :
    Option (SupportStatus × Option String) :=
  (tickets.find id).map fun ticket => (ticket.status, ticket.mergedIntoTicketId)

def mergedInto (db : SupportDb) (id : String) : Option String := (standing db.tickets id).bind (·.2)

/-- What the merges promise: no ticket leads back to itself, every one leads to a ticket that is not merged, and those
that are merged are closed. -/
structure MergesEnd (db : SupportDb) : Prop where
  acyclic : ∀ id, ¬ Relation.TransGen (PointsTo (mergedInto db)) id id
  ends : ∀ ticket ∈ db.tickets.rows, ∃ last ∈ db.tickets.rows,
    Leads (mergedInto db) ticket.id last.id ∧ last.mergedIntoTicketId = none
  closed : ∀ ticket ∈ db.tickets.rows, ticket.mergedIntoTicketId ≠ none → ticket.status = .closed

/-- A reply to a ticket that is closed or to one whose status it does not change. -/
def RepliesClosed (supportOperator : Prop) [Decidable supportOperator] (ticket : SupportTicket)
    (requestedStatus : Option SupportStatus) : Prop :=
  match requestedStatus with
  | some status => supportOperator → status = .closed ∨ status = ticket.status
  | none =>
    if supportOperator then ticket.status = .closed ∨ ticket.status = .waitingForSchool
    else ticket.status = .inProgress ∨ ticket.status = .escalated

/-- The condition on a call at its commit: a merge is not into a ticket that leads back, and a ticket that is merged
by then gets no other status than closed. -/
def LeavesMergesClosed (transaction : InFlight SupportDb TicketCall) (db : SupportDb) : Prop :=
  match transaction.request.operation with
  | .mergeTickets ticketId dto =>
    transaction.request.context.isSupportOperator → ¬ Leads (mergedInto db) dto.targetTicketId ticketId
  | .updateTicketStatus ticketId dto =>
    transaction.request.context.isSupportOperator → mergedInto db ticketId ≠ none → dto.status = .closed
  | .replyToTicket ticketId dto => mergedInto db ticketId ≠ none →
    ∀ ticket ∈ (transaction.snapshots.headD db).tickets.find ticketId,
      RepliesClosed transaction.request.context.isSupportOperator ticket dto.nextStatus

section Standing

variable {tickets : KeyedTable SupportTicket String (·.id)} {id other : String} {change : SupportTicket → SupportTicket}

theorem standing_update (kept : ∀ ticket, (change ticket).id = ticket.id)
    (moves : SupportStatus × Option String → SupportStatus × Option String)
    (moved : ∀ ticket, ((change ticket).status, (change ticket).mergedIntoTicketId) =
      moves (ticket.status, ticket.mergedIntoTicketId)) :
    standing (tickets.update other change kept) id =
      if id = other then (standing tickets id).map moves else standing tickets id := by
  unfold standing
  split
  · next same =>
    rw [same, find_update, Option.map_map, Option.map_map]
    congr 1
    funext ticket
    exact moved ticket
  · next differs => rw [find_update_other _ differs]

theorem standing_unmoved (kept : ∀ ticket, (change ticket).id = ticket.id)
    (unmoved : ∀ ticket, (change ticket).status = ticket.status ∧
      (change ticket).mergedIntoTicketId = ticket.mergedIntoTicketId) :
    standing (tickets.update other change kept) id = standing tickets id := by
  rw [standing_update kept (fun view => view) fun ticket => Prod.ext (unmoved ticket).1 (unmoved ticket).2]
  split
  · exact congrFun Option.map_id _
  · rfl

theorem standing_of_mem {ticket : SupportTicket} (member : ticket ∈ tickets.rows) :
    standing tickets ticket.id = some (ticket.status, ticket.mergedIntoTicketId) := by
  have found : tickets.find ticket.id = some ticket := (find_eq_some tickets).mpr ⟨member, rfl⟩
  rw [standing, found]
  rfl

theorem mem_of_standing {status : SupportStatus} {target : Option String}
    (known : standing tickets id = some (status, target)) :
    ∃ ticket ∈ tickets.rows, ticket.id = id ∧ ticket.mergedIntoTicketId = target := by
  obtain ⟨ticket, found, same⟩ := Option.map_eq_some_iff.mp known
  obtain ⟨member, own⟩ := (find_eq_some tickets).mp found
  cases same
  exact ⟨ticket, member, own, rfl⟩

end Standing

section Laws

variable {db after : SupportDb} {id target : String} {status : SupportStatus}

/-- What the calls keep: a merged ticket is closed, its target is there and following the merges ends. -/
structure Lawful (db : SupportDb) : Prop where
  merged : ∀ id status target, standing db.tickets id = some (status, some target) →
    status = .closed ∧ standing db.tickets target ≠ none
  grounded : Grounded (mergedInto db)

theorem mergedInto_eq_some :
    mergedInto db id = some target ↔ ∃ status, standing db.tickets id = some (status, some target) := by
  rw [mergedInto, Option.bind_eq_some_iff]
  constructor
  · rintro ⟨⟨status, _⟩, found, rfl⟩
    exact ⟨status, found⟩
  · rintro ⟨status, found⟩
    exact ⟨_, found, rfl⟩

theorem Lawful.leads_known (lawful : Lawful db) {last : String} (leads : Leads (mergedInto db) id last)
    (known : standing db.tickets id ≠ none) : standing db.tickets last ≠ none := by
  induction leads with
  | refl => exact known
  | tail _ step _ =>
    obtain ⟨status, found⟩ := mergedInto_eq_some.mp step
    exact (lawful.merged _ status _ found).2

theorem Lawful.mergesEnd (lawful : Lawful db) : MergesEnd db where
  acyclic := lawful.grounded.no_cycle
  ends ticket member := by
    obtain ⟨last, leads, ends⟩ := lawful.grounded.ends ticket.id
    have known : standing db.tickets last ≠ none := by
      apply lawful.leads_known leads
      rw [standing_of_mem member]
      nofun
    obtain ⟨⟨status, target⟩, found⟩ := Option.ne_none_iff_exists'.mp known
    obtain ⟨row, present, rfl, same⟩ := mem_of_standing found
    refine ⟨row, present, leads, ?_⟩
    rw [mergedInto, found] at ends
    rw [same]
    exact ends
  closed ticket member merged := by
    obtain ⟨target, into⟩ := Option.ne_none_iff_exists'.mp merged
    have found := standing_of_mem member
    rw [into] at found
    exact (lawful.merged _ _ _ found).1

theorem mergedInto_of_mem {ticket : SupportTicket} (member : ticket ∈ db.tickets.rows) :
    mergedInto db ticket.id = ticket.mergedIntoTicketId := by
  rw [mergedInto, standing_of_mem member]
  rfl

theorem mergedInto_of_absent (absent : standing db.tickets id = none) : mergedInto db id = none := by
  rw [mergedInto, absent]
  rfl

theorem MergesEnd.lawful (ends : MergesEnd db) : Lawful db where
  merged id status target found := by
    obtain ⟨ticket, member, rfl, into⟩ := mem_of_standing found
    obtain ⟨last, present, leads, unmerged⟩ := ends.ends ticket member
    have merged : mergedInto db ticket.id = some target := (mergedInto_of_mem member).trans into
    have same : (status, some target) = (ticket.status, ticket.mergedIntoTicketId) :=
      Option.some.inj (found.symm.trans (standing_of_mem member))
    constructor
    · have closed : ticket.status = .closed := ends.closed ticket member (by simp [into])
      exact (congrArg Prod.fst same).trans closed
    · intro absent
      rcases Relation.ReflTransGen.cases_head leads with equal | ⟨next, step, rest⟩
      · rw [equal, mergedInto_of_mem present, unmerged] at merged
        cases merged
      · cases Option.some.inj (merged.symm.trans step)
        have equal : target = last.id := leads_of_none (mergedInto_of_absent absent) rest
        rw [equal, standing_of_mem present] at absent
        cases absent
  grounded := by
    apply grounded_iff.mpr
    intro id
    cases known : standing db.tickets id with
    | none =>
      exact ⟨id, .refl, mergedInto_of_absent known⟩
    | some view =>
      obtain ⟨ticket, member, rfl, -⟩ := mem_of_standing known
      obtain ⟨last, present, leads, unmerged⟩ := ends.ends ticket member
      exact ⟨last.id, leads, (mergedInto_of_mem present).trans unmerged⟩

def Restands (db after : SupportDb) (ticketId : String)
    (moves : SupportStatus × Option String → SupportStatus × Option String) : Prop :=
  ∀ id, standing after.tickets id =
    if id = ticketId then (standing db.tickets id).map moves else standing db.tickets id

variable {ticketId : String}

theorem Restands.mergedInto_eq (restands : Restands db after ticketId fun view => (status, view.2)) :
    mergedInto after = mergedInto db := by
  funext id
  rw [mergedInto, mergedInto, restands id]
  split
  · cases standing db.tickets id <;> rfl
  · rfl

theorem Lawful.of_status (lawful : Lawful db)
    (restands : Restands db after ticketId fun view => (status, view.2))
    (closes : mergedInto db ticketId ≠ none → status = .closed) : Lawful after where
  merged id now target found := by
    rw [restands id] at found
    rw [restands target]
    split at found
    · next same =>
      obtain ⟨⟨earlier, _⟩, before, moved⟩ := Option.map_eq_some_iff.mp found
      cases moved
      have merged : mergedInto db ticketId = some target := by
        rw [← same]
        exact mergedInto_eq_some.mpr ⟨earlier, before⟩
      constructor
      · exact closes (by simp [merged])
      · have known := (lawful.merged id earlier target before).2
        split <;> simpa using known
    · obtain ⟨closed, known⟩ := lawful.merged id now target found
      refine ⟨closed, ?_⟩
      split <;> simpa using known
  grounded := by
    rw [restands.mergedInto_eq]
    exact lawful.grounded

theorem Lawful.of_same (lawful : Lawful db) (same : ∀ id, standing after.tickets id = standing db.tickets id) :
    Lawful after where
  merged id status target found := by
    rw [same] at found
    rw [same]
    exact lawful.merged id status target found
  grounded := by
    have pointers : mergedInto after = mergedInto db := by
      funext id
      rw [mergedInto, same]
      rfl
    rw [pointers]
    exact lawful.grounded

theorem Lawful.of_merge (lawful : Lawful db)
    (restands : Restands db after ticketId fun _ => (.closed, some target))
    (known : standing db.tickets ticketId ≠ none) (present : standing db.tickets target ≠ none)
    (apart : ¬ Leads (mergedInto db) target ticketId) : Lawful after where
  merged id status next found := by
    have still (id : String) (known : standing db.tickets id ≠ none) : standing after.tickets id ≠ none := by
      rw [restands id]
      split <;> simpa using known
    rw [restands id] at found
    split at found
    · obtain ⟨_, -, moved⟩ := Option.map_eq_some_iff.mp found
      cases moved
      exact ⟨rfl, still target present⟩
    · obtain ⟨closed, there⟩ := lawful.merged id status next found
      exact ⟨closed, still next there⟩
  grounded := by
    have pointers : mergedInto after = Function.update (mergedInto db) ticketId (some target) := by
      funext id
      rw [mergedInto, restands id, Function.update_apply]
      split
      · next same =>
        obtain ⟨view, found⟩ := Option.ne_none_iff_exists'.mp known
        rw [same, found]
        rfl
      · rfl
    rw [pointers]
    exact (grounded_update lawful.grounded).mpr apart

theorem mergesEnd_of_unmerged (unmerged : ∀ ticket ∈ db.tickets.rows, ticket.mergedIntoTicketId = none) :
    MergesEnd db := by
  apply Lawful.mergesEnd
  have pointers (id : String) : mergedInto db id = none := by
    cases known : standing db.tickets id with
    | none => exact mergedInto_of_absent known
    | some view =>
      obtain ⟨ticket, member, rfl, -⟩ := mem_of_standing known
      exact (mergedInto_of_mem member).trans (unmerged ticket member)
  constructor
  · intro id status target found
    exact absurd ((pointers id).symm.trans (mergedInto_eq_some.mpr ⟨status, found⟩)) nofun
  · rw [funext pointers]
    exact grounded_none

end Laws

section Calls

variable {context : SupportContext} {session after : Session SupportDb} {ticketId : String}
  {ticket merged : SupportTicket} {db later : SupportDb} {found : Option SupportTicket}
  {authorType : AuthorType} {dto : CreateSupportMessageDto} {nextStatus : SupportStatus}

theorem requireTicket_ok (found : (requireTicket context ticketId).run session = .ok (ticket, after)) :
    (session.snapshots.headD session.committed).tickets.find ticketId = some ticket ∧ session.rest = after := by
  simp only [requireTicket, run_bind_ok, run_lift_ok, snapshot_ok, run_required_ok] at found
  obtain ⟨scope, _, ⟨-, rfl⟩, seen, _, ⟨rfl, rfl⟩, found, rfl⟩ := found
  exact ⟨(Option.filter_eq_some_iff.mp found).1, rfl⟩

theorem updateTicket_ok {change : SupportTicket → SupportTicket}
    {kept : ∀ ticket, (change ticket).id = ticket.id}
    (updated : (updateTicket ticketId change kept).run db = .ok (found, later)) :
    found = (db.tickets.find ticketId).map change ∧
      later = { db with tickets := db.tickets.update ticketId change kept } := by
  simp only [updateTicket, run_bind_ok, run_current_ok, run_write_ok, run_pure_ok] at updated
  obtain ⟨_, _, ⟨rfl, rfl⟩, _, _, rfl, rfl, rfl⟩ := updated
  exact ⟨rfl, rfl⟩

theorem updateTicketStatusById_ok {status : SupportStatus}
    (updated : (updateTicketStatusById context ticketId status).run db = .ok (found, later)) :
    Restands db later ticketId fun view => (status, view.2) := by
  obtain ⟨-, rfl⟩ := updateTicket_ok updated
  intro id
  exact standing_update (SupportTicket.withStatus_id context status) (fun view => (status, view.2)) fun _ => rfl

theorem createMessage_ok {body : String}
    {message : SupportMessage} (created : (createMessage context ticket authorType body).run db = .ok (message, later))
    (id : String) : standing later.tickets id = standing db.tickets id := by
  simp only [createMessage, run_bind_ok, run_current_ok, run_required_ok, run_write_ok, run_pure_ok] at created
  obtain ⟨_, _, ⟨rfl, rfl⟩, messages, _, ⟨-, rfl⟩, _, _, rfl, _, _, updated, -, rfl⟩ := created
  obtain ⟨-, rfl⟩ := updateTicket_ok updated
  exact standing_unmoved (SupportTicket.repliedTo_id context authorType) fun _ => ⟨rfl, rfl⟩

theorem updateTicketStatus_ok {dto : UpdateTicketStatusDto} {updated : SupportTicket}
    (done : (updateTicketStatus context ticketId dto).run session = .ok (updated, after)) :
    context.isSupportOperator ∧
      Restands session.tables after.tables ticketId fun view => (dto.status, view.2) := by
  simp only [updateTicketStatus, requireSupportOperator, run_bind_ok, run_lift_ok, failIf_ok, run_onTables_ok,
    run_required_ok, createStatusLog, createNotifications, run_write_ok, run_pure_ok, not_not] at done
  obtain ⟨_, _, ⟨supportOperator, rfl⟩, ticket, _, read, found, _, ⟨tables, written, rfl⟩, _, _, ⟨-, rfl⟩, _, _,
    ⟨_, rfl, rfl⟩, _, _, ⟨_, rfl, rfl⟩, -, rfl⟩ := done
  obtain ⟨seen, rfl⟩ := requireTicket_ok read
  obtain ⟨-, rfl⟩ := (find_eq_some _).mp seen
  have restands := updateTicketStatusById_ok written
  exact ⟨supportOperator, fun id => restands id⟩

theorem mergeTicket_ok {tenantId targetTicketId : String}
    (done : (mergeTicket context tenantId ticketId targetTicketId).run db = .ok (some merged, later)) :
    standing db.tickets ticketId ≠ none ∧ standing db.tickets targetTicketId ≠ none ∧
      Restands db later ticketId fun _ => (.closed, some targetTicketId) := by
  simp only [mergeTicket, run_bind_ok, run_current_ok, run_failIf_ok] at done
  obtain ⟨_, _, ⟨rfl, rfl⟩, _, _, ⟨present, rfl⟩, updated⟩ := done
  obtain ⟨found, rfl⟩ := updateTicket_ok updated
  refine ⟨?_, ?_, ?_⟩
  · obtain ⟨row, there, -⟩ := Option.map_eq_some_iff.mp found.symm
    simp [standing, there]
  · intro absent
    apply present
    rw [Option.map_eq_none_iff.mp absent]
    intro target member
    cases member
  · intro id
    exact standing_update (SupportTicket.mergedInto_id context targetTicketId)
      (fun _ => (.closed, some targetTicketId)) fun _ => rfl

theorem mergeTickets_ok {dto : MergeTicketsDto}
    (done : (mergeTickets context ticketId dto).run session = .ok (merged, after)) :
    context.isSupportOperator ∧
      standing session.tables.tickets ticketId ≠ none ∧ standing session.tables.tickets dto.targetTicketId ≠ none ∧
      Restands session.tables after.tables ticketId fun _ => (.closed, some dto.targetTicketId) := by
  simp only [mergeTickets, requireSupportOperator, run_bind_ok, run_lift_ok, failIf_ok, run_onTables_ok,
    run_failIf_ok, run_required_ok, createStatusLog, run_write_ok, run_pure_ok, not_not] at done
  obtain ⟨_, _, ⟨supportOperator, rfl⟩, ticket, _, first, targetTicket, _, second, _, _, ⟨-, rfl⟩, found, _,
    ⟨tables, written, rfl⟩, _, _, ⟨rfl, rfl⟩, _, _, ⟨_, rfl, rfl⟩, -, rfl⟩ := done
  obtain ⟨seen, rfl⟩ := requireTicket_ok first
  obtain ⟨-, rfl⟩ := (find_eq_some _).mp seen
  obtain ⟨target, rfl⟩ := requireTicket_ok second
  obtain ⟨-, own⟩ := (find_eq_some _).mp target
  have same : targetTicket.id = dto.targetTicketId := own
  rw [same, Session.rest_tables, Session.rest_tables] at written
  obtain ⟨known, present, restands⟩ := mergeTicket_ok written
  exact ⟨supportOperator, known, present, fun id => restands id⟩

theorem changeStatusOfReply_ok {changed : SupportTicket}
    (done : (changeStatusOfReply context ticket authorType dto nextStatus).run db = .ok (changed, later)) :
    Restands db later ticket.id fun view => (nextStatus, view.2) := by
  simp only [changeStatusOfReply, createStatusLog, run_bind_ok, run_write_ok, run_pure_ok] at done
  obtain ⟨_, _, written, _, _, rfl, -, rfl⟩ := done
  have restands := updateTicketStatusById_ok written
  exact fun id => restands id

theorem replyToTicket_ok {result : SupportTicket × SupportMessage}
    (done : (replyToTicket context ticketId dto).run session = .ok (result, after)) :
    ∃ ticket ∈ (session.snapshots.headD session.committed).tickets.find ticketId,
      ∃ nextStatus, resolveReplyStatus ticket dto.nextStatus context.isSupportOperator = .ok nextStatus ∧
        if nextStatus ≠ ticket.status then
          Restands session.tables after.tables ticketId fun view => (nextStatus, view.2)
        else ∀ id, standing after.tables.tickets id = standing session.tables.tickets id := by
  simp only [replyToTicket, run_bind_ok, run_lift_ok, run_onTables_ok, run_ite_ok, createNotifications, run_write_ok,
    run_pure_ok] at done
  obtain ⟨ticket, _, read, nextStatus, _, ⟨resolved, rfl⟩, body, _, ⟨-, rfl⟩, message, _, ⟨replied, created, rfl⟩, _,
    middle, responded, updatedTicket, last, changed, _, _, ⟨_, rfl, rfl⟩, -, rfl⟩ := done
  obtain ⟨seen, rfl⟩ := requireTicket_ok read
  obtain ⟨-, rfl⟩ := (find_eq_some _).mp seen
  have before (id : String) : standing middle.tables.tickets id = standing session.tables.tickets id := by
    rw [← session.rest_tables, ← createMessage_ok created id]
    rcases responded with ⟨-, _, ⟨_, _, written, -, rfl⟩, rfl⟩ | ⟨-, -, rfl⟩
    · obtain ⟨-, rfl⟩ := updateTicket_ok written
      exact standing_unmoved (SupportTicket.responded_id context) fun _ => ⟨rfl, rfl⟩
    · rfl
  refine ⟨ticket, seen, nextStatus, resolved, ?_⟩
  rcases changed with ⟨differs, tables, written, rfl⟩ | ⟨same, -, rfl⟩
  · rw [if_pos differs]
    intro id
    rw [← before id]
    exact changeStatusOfReply_ok written id
  · rw [if_neg same]
    exact before

theorem resolveReplyStatus_closed {supportOperator : Prop} [Decidable supportOperator]
    {requestedStatus : Option SupportStatus}
    (resolved : resolveReplyStatus ticket requestedStatus supportOperator = .ok nextStatus)
    (closed : RepliesClosed supportOperator ticket requestedStatus) :
    nextStatus = .closed ∨ nextStatus = ticket.status := by
  simp only [resolveReplyStatus, bind_ok, failIf_ok, not_and, not_not] at resolved
  obtain ⟨_, permitted, _, reopened, chosen⟩ := resolved
  cases requestedStatus with
  | some status =>
    cases chosen
    apply closed
    by_contra notOperator
    cases permitted notOperator
  | none =>
    simp only [RepliesClosed] at closed
    by_cases operator : supportOperator
    · rw [if_pos operator] at closed
      simp only [operator, if_true, pure_ok] at chosen
      rcases closed with closed | waiting
      · exact absurd rfl (reopened operator closed)
      · exact .inr (chosen.symm.trans waiting.symm)
    · rw [if_neg operator] at closed
      rcases closed with inProgress | escalated
      · simp_all
      · simp_all

end Calls

theorem settle_lawful (transaction : InFlight SupportDb TicketCall) {db : SupportDb} (lawful : Lawful db)
    (closes : LeavesMergesClosed transaction db) : Lawful (settle perform transaction db).1 := by
  apply settle_preserves lawful
  intro result session succeeded
  unfold perform at succeeded
  unfold LeavesMergesClosed at closes
  split at succeeded
  · next ticketId dto asked =>
    rw [asked] at closes
    simp only [run_bind_ok, run_pure_ok] at succeeded
    obtain ⟨reply, _, replied, -, rfl⟩ := succeeded
    obtain ⟨ticket, seen, nextStatus, resolved, restands⟩ := replyToTicket_ok replied
    by_cases changes : nextStatus ≠ ticket.status
    · rw [if_pos changes] at restands
      apply lawful.of_status restands
      intro merged
      rcases resolveReplyStatus_closed resolved (closes merged ticket seen) with closed | same
      · exact closed
      · exact absurd same changes
    · rw [if_neg changes] at restands
      exact lawful.of_same restands
  · next ticketId dto asked =>
    rw [asked] at closes
    obtain ⟨supportOperator, restands⟩ := updateTicketStatus_ok succeeded
    exact lawful.of_status restands (closes supportOperator)
  · next ticketId dto asked =>
    rw [asked] at closes
    obtain ⟨supportOperator, known, present, restands⟩ := mergeTickets_ok succeeded
    exact lawful.of_merge restands known present (closes supportOperator)

/-- In a run whose calls leave merged tickets closed and merge none into one that leads back, the merges come to an
end. -/
theorem merges_end {start : SupportDb} (events : List (Snapshots.Event TicketCall)) (ends : MergesEnd start)
    (closes : Meets (step perform) (Committing LeavesMergesClosed) (World.idle start) events) :
    Along (step perform) (fun world => MergesEnd world.db) (World.idle start) events :=
  along_of_commits (fun db _ => Lawful db) (fun db _ => MergesEnd db) (fun _ _ _ => trivial)
    (fun transaction _ _ lawful _ closes => settle_lawful transaction lawful closes)
    (fun _ _ lawful => lawful.mergesEnd) ends.lawful closes

def loginTicket : String := "00000000-0000-4000-8000-000000000001"

def repeatedTicket : String := "00000000-0000-4000-8000-000000000002"

def openTicket (id ticketNumber : String) : SupportTicket where
  id := id
  tenantId := "lakeside"
  ticketNumber := ticketNumber
  subject := "No login"
  priority := .high
  status := .opened
  firstResponseDueAt := 60
  resolutionDueAt := 480
  firstRespondedAt := none
  requesterUserId := none
  mergedIntoTicketId := none
  resolvedAt := none
  closedAt := none
  escalatedAt := none
  lastSchoolReplyAt := none
  lastSupportReplyAt := none
  updatedByUserId := none

def helpDesk : SupportDb where
  tickets := (KeyedTable.empty.put (openTicket loginTicket "SUP-1")).put (openTicket repeatedTicket "SUP-2")
  messages := .empty
  statusLogs := []
  notifications := []

def mergeInto (ticketId targetTicketId : String) : TicketCall where
  context :=
    { tenantId := none, userId := some "agent-1", role := some "support_agent", permissions := [], audience := none
      now := 0, newId := "message-1", schoolName := fun _ => none }
  operation := .mergeTickets ticketId ⟨targetTicketId, none⟩

theorem merges_end_in_other :
    Along (step perform) (fun world => MergesEnd world.db) (World.idle helpDesk)
      [.begin (mergeInto repeatedTicket loginTicket), .commit 0] := by
  have ends : MergesEnd helpDesk := mergesEnd_of_unmerged (by decide +kernel)
  apply merges_end [.begin (mergeInto repeatedTicket loginTicket), .commit 0] ends
  refine ⟨trivial, fun _ leads => ?_, trivial⟩
  have unmerged : mergedInto helpDesk loginTicket = none := by decide +kernel
  exact absurd (leads_of_none unmerged leads) (by decide)

/-- A ticket may be merged into itself. -/
theorem merged_into_itself :
    ¬ ∀ (start : SupportDb) (events : List (Snapshots.Event TicketCall)), MergesEnd start →
      Along (step perform) (fun world => MergesEnd world.db) (World.idle start) events := by
  intro always
  have ends := run_of_along (always helpDesk [.begin (mergeInto loginTicket loginTicket), .commit 0]
    (mergesEnd_of_unmerged (by decide +kernel)))
  have itself : mergedInto (run (step perform) (World.idle helpDesk)
      [.begin (mergeInto loginTicket loginTicket), .commit 0]).db loginTicket = some loginTicket := by
    decide +kernel
  exact ends.acyclic loginTicket (.single itself)

end ShuleHub.Support
