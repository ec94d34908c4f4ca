import ShuleHub.Lib.Runs
import ShuleHub.Support.Notifications

/-! The monitors of the service levels: each lists tickets with a missed deadline that is not recorded yet and records
them one after the other. -/

namespace ShuleHub.Support

inductive SupportPriority where
  | low
  | medium
  | high
  | critical
deriving DecidableEq

def SupportPriority.text : SupportPriority → String
  | .low => "Low"
  | .medium => "Medium"
  | .high => "High"
  | .critical => "Critical"

inductive SupportStatus where
  | opened
  | inProgress
  | waitingForSchool
  | escalated
  | resolved
  | closed
deriving DecidableEq

structure SupportTicketRecord where
  id : String
  tenantId : String
  ticketNumber : String
  subject : String
  priority : SupportPriority
  status : SupportStatus
  firstResponseDueAt : Int
  resolutionDueAt : Int
  firstRespondedAt : Option Int

inductive SlaBreachType where
  | firstResponse
  | resolution
deriving DecidableEq

def SlaBreachType.text : SlaBreachType → String
  | .firstResponse => "first_response"
  | .resolution => "resolution"

structure SlaBreachCandidate where
  ticket : SupportTicketRecord
  schoolName : Option String
  slaBreachType : SlaBreachType
  slaDueAt : Int

structure StatusLog where
  tenantId : String
  ticketId : String
  actorUserId : Option String
  fromStatus : Option SupportStatus
  toStatus : SupportStatus
  action : String
  metadata : Metadata

abbrev SupportTickets := KeyedTable SupportTicketRecord String SupportTicketRecord.id

structure SlaRuntime where
  timestampText : Int → String
  schoolName : String → Option String

/-- A call of `processDueSlaBreaches`: the candidates it has still to record, and whether the first of them is
already in the status log. -/
structure SlaMonitor where
  candidates : List SlaBreachCandidate
  logged : Bool

structure SlaServer where
  tickets : SupportTickets
  statusLogs : List StatusLog
  notifications : List CreateNotificationInput
  monitors : List SlaMonitor

inductive SlaEvent where
  | processDueSlaBreaches (limit : ℚ) (now : Int)
  | advance (index : Nat)
  /-- Any other request that creates a ticket or changes one. -/
  | saveTicket (ticket : SupportTicketRecord)
  /-- Any other request that writes to the status log. -/
  | createStatusLog (log : { log : StatusLog // log.action ≠ "ticket.sla_breached" })

namespace SlaMonitoring

section Candidates

variable (runtime : SlaRuntime)

def IsOpen (ticket : SupportTicketRecord) : Prop := ticket.status ≠ .resolved ∧ ticket.status ≠ .closed
deriving Decidable

def MissedFirstResponse (now : Int) (ticket : SupportTicketRecord) : Prop :=
  ticket.firstRespondedAt = none ∧ ticket.firstResponseDueAt < now
deriving Decidable

def slaBreachType (now : Int) (ticket : SupportTicketRecord) : Option SlaBreachType :=
  if MissedFirstResponse now ticket then some .firstResponse
  else if ticket.resolutionDueAt < now then some .resolution
  else none

def slaDueAt (ticket : SupportTicketRecord) : SlaBreachType → Int
  | .firstResponse => ticket.firstResponseDueAt
  | .resolution => ticket.resolutionDueAt

def Records (tenantId ticketId : String) (breach : SlaBreachType) (log : StatusLog) : Prop :=
  log.tenantId = tenantId ∧ log.ticketId = ticketId ∧ log.action = "ticket.sla_breached" ∧
    log.metadata.text "breach_type" = some breach.text
deriving Decidable

def IsRecorded (statusLogs : List StatusLog) (ticket : SupportTicketRecord) (breach : SlaBreachType) : Prop :=
  ∃ log ∈ statusLogs, Records ticket.tenantId ticket.id breach log
deriving Decidable

def candidate (statusLogs : List StatusLog) (now : Int) (ticket : SupportTicketRecord) : Option SlaBreachCandidate :=
  if IsOpen ticket then
    match slaBreachType now ticket with
    | some breach =>
      if IsRecorded statusLogs ticket breach then none
      else some ⟨ticket, runtime.schoolName ticket.tenantId, breach, slaDueAt ticket breach⟩
    | none => none
  else none

def priorityRank : SupportPriority → Nat
  | .critical => 0
  | .high => 1
  | .medium => 2
  | .low => 3

def Before (first second : SlaBreachCandidate) : Prop :=
  priorityRank first.ticket.priority < priorityRank second.ticket.priority ∨
    priorityRank first.ticket.priority = priorityRank second.ticket.priority ∧ first.slaDueAt ≤ second.slaDueAt
deriving Decidable

def listSlaBreachCandidates (server : SlaServer) (limit : ℚ) (now : Int) : List SlaBreachCandidate :=
  let candidates := server.tickets.rows.filterMap (candidate runtime server.statusLogs now)
  (candidates.insertionSort Before).take (safeLimit limit)

end Candidates

section Recording

variable (runtime : SlaRuntime) (candidate : SlaBreachCandidate)

def breachLog : StatusLog where
  tenantId := candidate.ticket.tenantId
  ticketId := candidate.ticket.id
  actorUserId := none
  fromStatus := some candidate.ticket.status
  toStatus := candidate.ticket.status
  action := "ticket.sla_breached"
  metadata :=
    [("breach_type", .str candidate.slaBreachType.text), ("due_at", .str (runtime.timestampText candidate.slaDueAt)),
      ("ticket_number", .str candidate.ticket.ticketNumber), ("priority", .str candidate.ticket.priority.text)]

def label : SlaBreachType → String
  | .firstResponse => "first response"
  | .resolution => "resolution"

def breachNotification (channel : NotificationChannel) : CreateNotificationInput where
  tenantId := candidate.ticket.tenantId
  ticketId := some candidate.ticket.id
  recipientUserId := none
  recipientType := .support
  channel := channel
  title := "Support SLA breached: " ++ candidate.ticket.ticketNumber
  body := candidate.schoolName.getD candidate.ticket.tenantId ++ " missed the " ++ label candidate.slaBreachType ++
    " SLA for \"" ++ candidate.ticket.subject ++ "\"."
  metadata :=
    [("ticket_number", .str candidate.ticket.ticketNumber), ("breach_type", .str candidate.slaBreachType.text),
      ("due_at", .str (runtime.timestampText candidate.slaDueAt)), ("priority", .str candidate.ticket.priority.text)]

end Recording

/-- One statement of `recordSlaBreach` for the first candidate: the log, then the notifications. -/
def record (runtime : SlaRuntime) (server : SlaServer) (index : Nat) (monitor : SlaMonitor) : SlaServer :=
  match monitor.candidates with
  | [] => server
  | candidate :: candidates =>
    if monitor.logged then
      { server with
        notifications := server.notifications ++ [breachNotification runtime candidate .inApp, breachNotification runtime candidate .email]
        monitors := server.monitors.set index ⟨candidates, false⟩ }
    else
      { server with
        statusLogs := server.statusLogs ++ [breachLog runtime candidate]
        monitors := server.monitors.set index { monitor with logged := true } }

@[grind =] def step (runtime : SlaRuntime) (server : SlaServer) : SlaEvent → SlaServer
  | .processDueSlaBreaches limit now =>
    { server with monitors := server.monitors ++ [⟨listSlaBreachCandidates runtime server limit now, false⟩] }
  | .advance index =>
    match server.monitors[index]? with
    | none => server
    | some monitor => record runtime server index monitor
  | .saveTicket ticket => { server with tickets := server.tickets.put ticket }
  | .createStatusLog log => { server with statusLogs := server.statusLogs ++ [log.val] }

def start (tickets : SupportTickets) : SlaServer := ⟨tickets, [], [], []⟩

end SlaMonitoring

end ShuleHub.Support
