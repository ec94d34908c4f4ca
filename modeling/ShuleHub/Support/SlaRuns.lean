import ShuleHub.Support.SlaMonitoring

/-! When the monitors record every breach, and each one once. -/

namespace ShuleHub.Support.SlaMonitoring

open Runs

variable (statusLogs : List StatusLog)

def SameBreach (first second : StatusLog) : Prop :=
  first.action = "ticket.sla_breached" ∧ second.action = "ticket.sla_breached" ∧ first.tenantId = second.tenantId ∧
    first.ticketId = second.ticketId ∧ first.metadata.text "breach_type" = second.metadata.text "breach_type"
deriving Decidable

def RecordedOnce : Prop :=
  statusLogs.Pairwise fun earlier later => ¬ SameBreach earlier later
deriving Decidable

def Complete (server : SlaServer) (now : Int) : Prop :=
  ∀ ticket ∈ server.tickets.rows, IsOpen ticket →
    (MissedFirstResponse now ticket → IsRecorded server.statusLogs ticket .firstResponse) ∧
      (ticket.resolutionDueAt < now → IsRecorded server.statusLogs ticket .resolution)
deriving Decidable

/-- What is asked of one step: no breach is recorded twice, and a call that finds nothing leaves nothing to record. -/
@[grind =] def Kept (runtime : SlaRuntime) (server : SlaServer) (event : SlaEvent) : Prop :=
  RecordedOnce (step runtime server event).statusLogs ∧
    match event with
    | .processDueSlaBreaches limit now => listSlaBreachCandidates runtime server limit now = [] → Complete server now
    | .advance _ => True
    | .saveTicket _ => True
    | .createStatusLog _ => True

instance (runtime : SlaRuntime) (server : SlaServer) : DecidablePred (Kept runtime server) := fun event => by
  unfold Kept
  cases event <;> infer_instance

def IsDue (now : Int) (ticket : SupportTicketRecord) : Prop :=
  IsOpen ticket ∧ ∃ breach ∈ slaBreachType now ticket, ¬ IsRecorded statusLogs ticket breach

/-- The recorded first response of the ticket hides its missed resolution from the query. -/
def HidesResolution (now : Int) (ticket : SupportTicketRecord) : Prop :=
  IsOpen ticket ∧ MissedFirstResponse now ticket ∧ IsRecorded statusLogs ticket .firstResponse ∧
    ticket.resolutionDueAt < now ∧ ¬ IsRecorded statusLogs ticket .resolution

/-- The condition on one step: a breach is recorded when it is not recorded yet, and where no ticket is due, no ticket
hides its resolution. -/
@[grind =] def RecordsNew (server : SlaServer) : SlaEvent → Prop
  | .processDueSlaBreaches _ now =>
    (∃ ticket ∈ server.tickets.rows, IsDue server.statusLogs now ticket) ∨
      ∀ ticket ∈ server.tickets.rows, ¬ HidesResolution server.statusLogs now ticket
  | .advance index =>
    ∀ monitor ∈ server.monitors[index]?, monitor.logged = false → ∀ candidate ∈ monitor.candidates.head?,
      ¬ IsRecorded server.statusLogs candidate.ticket candidate.slaBreachType
  | .saveTicket _ => True
  | .createStatusLog _ => True

section Query

variable {runtime : SlaRuntime} {server : SlaServer} {limit : ℚ} {now : Int} {ticket : SupportTicketRecord}

theorem safeLimit_pos (limit : ℚ) : 0 < safeLimit limit := by
  unfold safeLimit
  omega

theorem candidate_eq_none :
    candidate runtime server.statusLogs now ticket = none ↔ ¬ IsDue server.statusLogs now ticket := by
  unfold candidate IsDue
  by_cases isOpen : IsOpen ticket
  · rw [if_pos isOpen]
    cases slaBreachType now ticket with
    | none => simp
    | some breach =>
      by_cases recorded : IsRecorded server.statusLogs ticket breach
      · simp [recorded]
      · simp [recorded, isOpen]
  · simp [isOpen]

theorem listSlaBreachCandidates_eq_nil :
    listSlaBreachCandidates runtime server limit now = [] ↔
      ∀ ticket ∈ server.tickets.rows, ¬ IsDue server.statusLogs now ticket := by
  have positive : safeLimit limit ≠ 0 := (safeLimit_pos limit).ne'
  have empty (candidates : List SlaBreachCandidate) : candidates.insertionSort Before = [] ↔ candidates = [] := by
    constructor
    · intro sorted
      exact ((List.perm_insertionSort Before candidates).symm.trans (by rw [sorted])).eq_nil
    · rintro rfl
      rfl
  simp only [listSlaBreachCandidates, List.take_eq_nil_iff, positive, false_or, empty, List.filterMap_eq_nil_iff,
    candidate_eq_none]

theorem complete_iff (settled : ∀ ticket ∈ server.tickets.rows, ¬ IsDue server.statusLogs now ticket) :
    Complete server now ↔ ∀ ticket ∈ server.tickets.rows, ¬ HidesResolution server.statusLogs now ticket := by
  constructor
  · rintro complete ticket member ⟨isOpen, -, -, passed, unrecorded⟩
    exact unrecorded ((complete ticket member isOpen).2 passed)
  · intro unhidden ticket member isOpen
    have recorded (breach : SlaBreachType) (named : slaBreachType now ticket = some breach) :
        IsRecorded server.statusLogs ticket breach := by
      by_contra missing
      exact settled ticket member ⟨isOpen, breach, named, missing⟩
    by_cases missed : MissedFirstResponse now ticket
    · have first : IsRecorded server.statusLogs ticket .firstResponse := recorded _ (if_pos missed)
      refine ⟨fun _ => first, fun passed => ?_⟩
      by_contra missing
      exact unhidden ticket member ⟨isOpen, missed, first, passed, missing⟩
    · refine ⟨fun other => absurd other missed, fun passed => ?_⟩
      apply recorded
      rw [slaBreachType, if_neg missed, if_pos passed]

end Query

section Recording

variable {runtime : SlaRuntime} {server : SlaServer} {statusLogs : List StatusLog} {log : StatusLog}

theorem recordedOnce_append :
    RecordedOnce (statusLogs ++ [log]) ↔ RecordedOnce statusLogs ∧ ∀ other ∈ statusLogs, ¬ SameBreach other log := by
  simp [RecordedOnce, List.pairwise_append]

theorem sameBreach_breachLog (candidate : SlaBreachCandidate) :
    SameBreach log (breachLog runtime candidate) ↔
      Records candidate.ticket.tenantId candidate.ticket.id candidate.slaBreachType log := by
  have breach : (breachLog runtime candidate).metadata.text "breach_type" = some candidate.slaBreachType.text := rfl
  unfold SameBreach Records
  rw [breach]
  constructor
  · rintro ⟨action, -, tenant, ticket, named⟩
    exact ⟨tenant, ticket, action, named⟩
  · rintro ⟨tenant, ticket, action, named⟩
    exact ⟨action, rfl, tenant, ticket, named⟩

theorem recordedOnce_breachLog (once : RecordedOnce statusLogs) (candidate : SlaBreachCandidate) :
    RecordedOnce (statusLogs ++ [breachLog runtime candidate]) ↔
      ¬ IsRecorded statusLogs candidate.ticket candidate.slaBreachType := by
  simp only [recordedOnce_append, once, true_and, sameBreach_breachLog, IsRecorded, not_exists, not_and]

theorem recordedOnce_other (once : RecordedOnce statusLogs) (other : log.action ≠ "ticket.sla_breached") :
    RecordedOnce (statusLogs ++ [log]) := by
  apply recordedOnce_append.mpr
  refine ⟨once, ?_⟩
  rintro earlier - ⟨-, action, -⟩
  exact other action

theorem recordedOnce_advance (once : RecordedOnce server.statusLogs) (index : Nat) :
    RecordedOnce (step runtime server (.advance index)).statusLogs ↔ RecordsNew server (.advance index) := by
  simp only [step, RecordsNew]
  cases found : server.monitors[index]? with
  | none => simp [once]
  | some monitor =>
    obtain ⟨candidates, logged⟩ := monitor
    cases candidates with
    | nil => simp [record, once]
    | cons candidate candidates =>
      cases logged with
      | true => simp [record, once]
      | false => simp [record, recordedOnce_breachLog once]

theorem kept_iff (once : RecordedOnce server.statusLogs) (event : SlaEvent) :
    Kept runtime server event ↔ RecordsNew server event := by
  cases event with
  | processDueSlaBreaches limit now =>
    have same : (step runtime server (.processDueSlaBreaches limit now)).statusLogs = server.statusLogs := rfl
    simp only [Kept, same, once, true_and, RecordsNew, listSlaBreachCandidates_eq_nil]
    by_cases settled : ∀ ticket ∈ server.tickets.rows, ¬ IsDue server.statusLogs now ticket
    · have nobody : ¬ ∃ ticket ∈ server.tickets.rows, IsDue server.statusLogs now ticket := by
        rintro ⟨ticket, member, due⟩
        exact settled ticket member due
      simp only [nobody, false_or, complete_iff settled]
      exact ⟨fun complete => complete settled, fun unhidden _ => unhidden⟩
    · have somebody : ∃ ticket ∈ server.tickets.rows, IsDue server.statusLogs now ticket := by
        simpa using settled
      exact ⟨fun _ => .inl somebody, fun _ nobody => absurd nobody settled⟩
  | advance index => simp only [Kept, and_true, recordedOnce_advance once]
  | saveTicket ticket =>
    have same : (step runtime server (.saveTicket ticket)).statusLogs = server.statusLogs := rfl
    simp only [Kept, same, once, RecordsNew, and_true]
  | createStatusLog log =>
    have after : RecordedOnce (step runtime server (.createStatusLog log)).statusLogs :=
      recordedOnce_other once log.property
    simp only [Kept, after, RecordsNew, and_true]

end Recording

/-- Monitors record every breach and each one once exactly when each records what is not recorded at that moment, and
no call that finds nothing has a ticket whose recorded first response hides its resolution. -/
theorem breaches_recorded_iff (runtime : SlaRuntime) (tickets : SupportTickets) (events : List SlaEvent) :
    Meets (step runtime) (Kept runtime) (start tickets) events ↔
      Meets (step runtime) RecordsNew (start tickets) events := by
  have agree (server : SlaServer) (event : SlaEvent) (once : RecordedOnce server.statusLogs) :
      Kept runtime server event ↔ RecordsNew server event := kept_iff once event
  have preserved (server : SlaServer) (event : SlaEvent) (once : RecordedOnce server.statusLogs)
      (new : RecordsNew server event) : RecordedOnce (step runtime server event).statusLogs :=
    ((kept_iff once event).mpr new).1
  exact meets_iff_meets agree preserved events List.Pairwise.nil

def plainText : SlaRuntime where
  timestampText := toString
  schoolName _ := some "Lakeside"

def neglected : SupportTicketRecord where
  id := "ticket-1"
  tenantId := "lakeside"
  ticketNumber := "SUP-1"
  subject := "No login"
  priority := .high
  status := .opened
  firstResponseDueAt := 60
  resolutionDueAt := 480
  firstRespondedAt := none

/-- Both deadlines have passed: the first call records the first response, and the next one finds nothing. -/
theorem missed_resolution_hidden :
    ¬ Meets (step plainText) (Kept plainText) (start (KeyedTable.empty.put neglected))
      [.processDueSlaBreaches 50 500, .advance 0, .advance 0, .processDueSlaBreaches 50 500] := by
  decide +kernel

end ShuleHub.Support.SlaMonitoring
