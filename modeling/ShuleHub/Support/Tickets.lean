import ShuleHub.Lib.Snapshots
import ShuleHub.Support.SlaMonitoring

/-! Replies to support tickets, changes of their status and merges of one ticket into another. -/

namespace ShuleHub.Support

open Transaction Snapshots

def SupportStatus.text : SupportStatus → String
  | .opened => "Open"
  | .inProgress => "In Progress"
  | .waitingForSchool => "Waiting for School"
  | .escalated => "Escalated"
  | .resolved => "Resolved"
  | .closed => "Closed"

/-- A row of `support_tickets`, with the columns that replies, status changes and merges read or write. -/
structure SupportTicket extends SupportTicketRecord where
  requesterUserId : Option String
  mergedIntoTicketId : Option String
  resolvedAt : Option Int
  closedAt : Option Int
  escalatedAt : Option Int
  lastSchoolReplyAt : Option Int
  lastSupportReplyAt : Option Int
  updatedByUserId : Option String

inductive AuthorType where
  | school
  | support
deriving DecidableEq

def AuthorType.text : AuthorType → String
  | .school => "school"
  | .support => "support"

structure SupportMessage where
  id : String
  tenantId : String
  ticketId : String
  authorUserId : Option String
  authorType : AuthorType
  body : String

structure SupportDb where
  tickets : KeyedTable SupportTicket String (·.id)
  messages : KeyedTable SupportMessage String SupportMessage.id
  statusLogs : List StatusLog
  notifications : List CreateNotificationInput

abbrev SupportTransaction := Transaction SupportDb Exception

abbrev SupportSession := Transaction (Session SupportDb) Exception

/-- The request, `NOW()`, the id that the database generates and the names of the schools. -/
structure SupportContext where
  tenantId : Option String
  userId : Option String
  role : Option String
  permissions : List String
  audience : Option String
  now : Int
  newId : String
  schoolName : String → Option String

variable (context : SupportContext) (ticket : SupportTicket) (ticketId : String)

namespace SupportContext

variable (context : SupportContext)

def actorUserId : Option String :=
  context.userId.filter fun userId => userId ≠ "" ∧ userId ≠ "anonymous"

def supportOperatorRoles : List String :=
  ["platform_owner", "superadmin", "support_agent", "support_lead", "developer", "system"]

def isSupportOperator : Prop :=
  (∃ role ∈ context.role, role ∈ supportOperatorRoles) ∨ "support:*" ∈ context.permissions ∨
    "*:*" ∈ context.permissions
deriving Decidable

def requiresOwnSupportScope : Prop :=
  context.audience = some "portal" ∨ context.role = some "parent" ∨ context.role = some "student"
deriving Decidable

def requireTenantId : Except Exception String :=
  match context.tenantId.filter (· ≠ "") with
  | some tenantId => .ok tenantId
  | none => .error (.unauthorized "Tenant context is required for support operations")

def requireActorUserId : Except Exception String :=
  match context.actorUserId with
  | some userId => .ok userId
  | none => .error (.unauthorized "Authenticated support user context is required")

end SupportContext

structure AccessScope where
  tenantId : Option String
  requesterUserId : Option String

def accessScope : Except Exception AccessScope :=
  if context.isSupportOperator then .ok ⟨none, none⟩
  else do
    let tenantId ← context.requireTenantId
    if context.requiresOwnSupportScope then return ⟨some tenantId, some (← context.requireActorUserId)⟩
    else return ⟨some tenantId, none⟩

def findTicketByIdForAccess (scope : AccessScope) (db : SupportDb) : Option SupportTicket :=
  (db.tickets.find ticketId).filter fun ticket =>
    (∀ tenantId ∈ scope.tenantId, ticket.tenantId = tenantId) ∧
      ∀ userId ∈ scope.requesterUserId, ticket.requesterUserId = some userId

def ticketNotFound : Exception := .notFound ("Support ticket \"" ++ ticketId ++ "\" was not found")

def requireTicket : SupportSession SupportTicket := do
  let scope ← accessScope context
  let seen ← snapshot
  required (findTicketByIdForAccess ticketId scope seen) (ticketNotFound ticketId)

def requireSupportOperator : Except Exception Unit :=
  failIf (¬ context.isSupportOperator) (.forbidden "Support agent access is required for this operation")

def requireText (value : String) (fieldName : String) : Except Exception String := do
  failIf (JsText.trim value = "") (.badRequest (fieldName ++ " is required"))
  return JsText.trim value

section Statements

variable (context : SupportContext)

def SupportTicket.withStatus (status : SupportStatus) (ticket : SupportTicket) : SupportTicket :=
  { ticket with
    status
    resolvedAt := if status = .resolved then some context.now else if status = .closed then ticket.resolvedAt else none
    closedAt := if status = .closed then some context.now else none
    escalatedAt :=
      if status = .escalated then some (ticket.escalatedAt.getD context.now) else ticket.escalatedAt
    updatedByUserId := context.actorUserId }

theorem SupportTicket.withStatus_id (status : SupportStatus) (ticket : SupportTicket) :
    (ticket.withStatus context status).id = ticket.id := rfl

def SupportTicket.mergedInto (targetTicketId : String) (ticket : SupportTicket) : SupportTicket :=
  { ticket with
    mergedIntoTicketId := some targetTicketId
    status := .closed
    closedAt := some context.now
    updatedByUserId := context.actorUserId }

theorem SupportTicket.mergedInto_id (targetTicketId : String) (ticket : SupportTicket) :
    (ticket.mergedInto context targetTicketId).id = ticket.id := rfl

def SupportTicket.repliedTo (authorType : AuthorType) (ticket : SupportTicket) : SupportTicket :=
  { ticket with
    lastSchoolReplyAt := if authorType = .school then some context.now else ticket.lastSchoolReplyAt
    lastSupportReplyAt := if authorType = .support then some context.now else ticket.lastSupportReplyAt }

theorem SupportTicket.repliedTo_id (authorType : AuthorType) (ticket : SupportTicket) :
    (ticket.repliedTo context authorType).id = ticket.id := rfl

def SupportTicket.responded (ticket : SupportTicket) : SupportTicket :=
  { ticket with firstRespondedAt := some (ticket.firstRespondedAt.getD context.now) }

theorem SupportTicket.responded_id (ticket : SupportTicket) : (ticket.responded context).id = ticket.id := rfl

def updateTicket (ticketId : String) (change : SupportTicket → SupportTicket)
    (kept : ∀ ticket, (change ticket).id = ticket.id) : SupportTransaction (Option SupportTicket) := do
  let db ← current
  write fun db => { db with tickets := db.tickets.update ticketId change kept }
  return (db.tickets.find ticketId).map change

def updateTicketStatusById (ticketId : String) (status : SupportStatus) : SupportTransaction (Option SupportTicket) :=
  updateTicket ticketId (SupportTicket.withStatus context status) (SupportTicket.withStatus_id context status)

/-- The foreign key asks for a target of the same school. -/
def mergeTicket (tenantId ticketId targetTicketId : String) : SupportTransaction (Option SupportTicket) := do
  let db ← current
  failIf (∀ target ∈ db.tickets.find targetTicketId, target.tenantId ≠ tenantId)
    (.database "fk_support_tickets_merged_into")
  updateTicket ticketId (SupportTicket.mergedInto context targetTicketId)
    (SupportTicket.mergedInto_id context targetTicketId)

def createStatusLog (log : StatusLog) : SupportTransaction Unit :=
  write fun db => { db with statusLogs := db.statusLogs ++ [log] }

def createNotifications (inputs : List CreateNotificationInput) : SupportTransaction Unit :=
  write fun db => { db with notifications := db.notifications ++ inputs }

def createMessage (ticket : SupportTicket) (authorType : AuthorType) (body : String) :
    SupportTransaction SupportMessage := do
  let message : SupportMessage :=
    { id := context.newId, tenantId := ticket.tenantId, ticketId := ticket.id, authorUserId := context.actorUserId
      authorType, body }
  let db ← current
  let messages ← required (db.messages.tryInsert message) (.database "support_messages_pkey")
  write fun db => { db with messages }
  let _ ← updateTicket ticket.id (SupportTicket.repliedTo context authorType)
    (SupportTicket.repliedTo_id context authorType)
  return message

end Statements

def replyNotification (recipientUserId : Option String) (recipientType : RecipientType)
    (channel : NotificationChannel) (title body : String) (metadata : Metadata) : CreateNotificationInput where
  tenantId := ticket.tenantId
  ticketId := some ticket.id
  recipientUserId := recipientUserId
  recipientType := recipientType
  channel := channel
  title := title
  body := body
  metadata := ("ticket_number", .str ticket.ticketNumber) :: metadata

def buildSchoolReplyNotifications : List CreateNotificationInput :=
  [.inApp, .email].map fun channel =>
    replyNotification ticket ticket.requesterUserId .school channel ("Support replied on " ++ ticket.ticketNumber)
      ("A support agent replied to \"" ++ ticket.subject ++ "\".") []

def buildCustomerReplyNotifications :
    List CreateNotificationInput :=
  [replyNotification ticket none .support .inApp ("Customer replied on " ++ ticket.ticketNumber)
    ((context.schoolName ticket.tenantId).getD ticket.tenantId ++ " replied to \"" ++ ticket.subject ++ "\".") []]

def buildStatusNotifications : List CreateNotificationInput :=
  [replyNotification ticket ticket.requesterUserId .school .inApp (ticket.ticketNumber ++ " is " ++ ticket.status.text)
    ("Your support ticket \"" ++ ticket.subject ++ "\" changed status to " ++ ticket.status.text ++ ".")
    [("status", .str ticket.status.text)]]

structure CreateSupportMessageDto where
  body : String
  nextStatus : Option SupportStatus

structure UpdateTicketStatusDto where
  status : SupportStatus
  reason : Option String

structure MergeTicketsDto where
  targetTicketId : String
  reason : Option String

def resolveReplyStatus (requestedStatus : Option SupportStatus) (supportOperator : Prop)
    [Decidable supportOperator] : Except Exception SupportStatus := do
  failIf (¬ supportOperator ∧ requestedStatus ≠ none)
    (.forbidden "Only support agents can set ticket status while replying")
  failIf (supportOperator ∧ ticket.status = .closed ∧ requestedStatus = none)
    (.badRequest "Closed support tickets require an explicit reopen status before replying")
  match requestedStatus with
  | some status => return status
  | none =>
    if supportOperator then return .waitingForSchool
    else if ticket.status = .resolved ∨ ticket.status = .closed then return .inProgress
    else if ticket.status = .waitingForSchool ∨ ticket.status = .opened then return .inProgress
    else return ticket.status

def isReopenTransition (fromStatus toStatus : SupportStatus) : Prop :=
  (fromStatus = .resolved ∨ fromStatus = .closed) ∧ toStatus ≠ .resolved ∧ toStatus ≠ .closed
deriving Decidable

section Calls

variable (context : SupportContext) (ticketId : String)

def ticketLog (ticket : SupportTicket) (toStatus : SupportStatus) (action : String) (metadata : Metadata) : StatusLog where
  tenantId := ticket.tenantId
  ticketId := ticket.id
  actorUserId := context.actorUserId
  fromStatus := some ticket.status
  toStatus := toStatus
  action := action
  metadata := metadata

def changeStatusOfReply (ticket : SupportTicket) (authorType : AuthorType) (dto : CreateSupportMessageDto)
    (nextStatus : SupportStatus) : SupportTransaction SupportTicket := do
  let changedTicket ← updateTicketStatusById context ticket.id nextStatus
  createStatusLog (ticketLog context ticket nextStatus
    (if isReopenTransition ticket.status nextStatus then "ticket.reopened" else "ticket.status_changed")
    [("source", .str "reply"), ("author_type", .str authorType.text),
      ("requested_status", jsonText (dto.nextStatus.map SupportStatus.text))])
  return changedTicket.getD ticket

def replyToTicket (dto : CreateSupportMessageDto) :
    SupportSession (SupportTicket × SupportMessage) := do
  let ticket ← requireTicket context ticketId
  let authorType : AuthorType := if context.isSupportOperator then .support else .school
  let nextStatus ← resolveReplyStatus ticket dto.nextStatus context.isSupportOperator
  let body ← requireText dto.body "Support message"
  let message ← onTables (createMessage context ticket authorType body)
  (if context.isSupportOperator then
    onTables (do let _ ← updateTicket ticket.id (SupportTicket.responded context) (SupportTicket.responded_id context))
  else pure ())
  let updatedTicket ←
    (if nextStatus ≠ ticket.status then onTables (changeStatusOfReply context ticket authorType dto nextStatus)
    else pure ticket)
  onTables (createNotifications
    (if context.isSupportOperator then buildSchoolReplyNotifications ticket
    else buildCustomerReplyNotifications context ticket))
  return (updatedTicket, message)

def updateTicketStatus (dto : UpdateTicketStatusDto) : SupportSession SupportTicket := do
  requireSupportOperator context
  let ticket ← requireTicket context ticketId
  let found ← onTables (updateTicketStatusById context ticket.id dto.status)
  let updated ← required found (ticketNotFound ticketId)
  onTables (createStatusLog (ticketLog context ticket dto.status "ticket.status_changed"
    [("reason", jsonText (readString dto.reason))]))
  onTables (createNotifications (buildStatusNotifications updated))
  return updated

def mergeTickets (dto : MergeTicketsDto) : SupportSession SupportTicket := do
  requireSupportOperator context
  let ticket ← requireTicket context ticketId
  let targetTicket ← requireTicket context dto.targetTicketId
  failIf (ticket.tenantId ≠ targetTicket.tenantId) (.badRequest "Only tickets from the same tenant can be merged")
  let found ← onTables (mergeTicket context ticket.tenantId ticket.id targetTicket.id)
  let merged ← required found (ticketNotFound ticketId)
  onTables (createStatusLog (ticketLog context ticket .closed "ticket.merged"
    [("target_ticket_id", .str targetTicket.id), ("target_ticket_number", .str targetTicket.ticketNumber),
      ("reason", jsonText (readString dto.reason))]))
  return merged

end Calls

inductive TicketOperation where
  | replyToTicket (ticketId : String) (dto : CreateSupportMessageDto)
  | updateTicketStatus (ticketId : String) (dto : UpdateTicketStatusDto)
  | mergeTickets (ticketId : String) (dto : MergeTicketsDto)

structure TicketCall where
  context : SupportContext
  operation : TicketOperation

def perform (call : TicketCall) : SupportSession SupportTicket :=
  match call.operation with
  | .replyToTicket ticketId dto => do return (← replyToTicket call.context ticketId dto).1
  | .updateTicketStatus ticketId dto => updateTicketStatus call.context ticketId dto
  | .mergeTickets ticketId dto => mergeTickets call.context ticketId dto

end ShuleHub.Support
