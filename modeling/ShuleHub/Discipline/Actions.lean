import ShuleHub.Exceptions
import ShuleHub.Lib.JsText
import ShuleHub.Lib.Json
import ShuleHub.Lib.KeyedTable
import ShuleHub.Lib.Snapshots

/-! Who makes a request, and the permissions that it holds. -/

namespace ShuleHub.Discipline

structure RequestStore where
  tenantId : Option String
  userId : String
  role : Option String
  permissions : List String
  clientIp : Option String
  userAgent : Option String
  now : Int
  newId : String

def resource (permission : String) : String := String.ofList (permission.toList.takeWhile (· ≠ ':'))

def RequestStore.hasPermission (store : RequestStore) (permission : String) : Prop :=
  "*:*" ∈ store.permissions ∨ permission ∈ store.permissions ∨ resource permission ++ ":*" ∈ store.permissions
deriving Decidable

end ShuleHub.Discipline

/-! The actions that follow a discipline incident: they are created, approved where they need it, and completed. -/

namespace ShuleHub.Discipline

open Transaction Snapshots

inductive DisciplineActionType where
  | verbalWarning
  | writtenWarning
  | detention
  | manualWork
  | counselling
  | suspension
  | expulsion
  | parentMeeting
  | behaviorContract
deriving DecidableEq

def DisciplineActionType.text : DisciplineActionType → String
  | .verbalWarning => "verbal_warning"
  | .writtenWarning => "written_warning"
  | .detention => "detention"
  | .manualWork => "manual_work"
  | .counselling => "counselling"
  | .suspension => "suspension"
  | .expulsion => "expulsion"
  | .parentMeeting => "parent_meeting"
  | .behaviorContract => "behavior_contract"

def DisciplineActionType.requiresApproval (actionType : DisciplineActionType) : Prop :=
  actionType = .suspension ∨ actionType = .expulsion
deriving Decidable

inductive DisciplineActionStatus where
  | assigned
  | pendingApproval
  | approved
  | completed
  | cancelled
deriving DecidableEq

structure DisciplineIncident where
  id : String
  tenantId : String
  schoolId : String
  studentId : String
  reportingStaffId : Option String
  assignedStaffId : Option String
  deletedAt : Option Int

structure DisciplineAction where
  id : String
  tenantId : String
  schoolId : String
  incidentId : String
  studentId : String
  actionType : DisciplineActionType
  status : DisciplineActionStatus
  title : String
  description : Option String
  assignedStaffId : Option String
  dueAt : Option String
  remarks : Option String
  metadata : Json
  createdByUserId : String
  approvedByUserId : Option String
  approvedAt : Option Int
  completedAt : Option Int
  completionNotes : Option String

structure DisciplineAuditLog where
  tenantId : String
  schoolId : String
  actorUserId : String
  actorRole : Option String
  action : String
  entityType : String
  entityId : Option String
  ipAddress : Option String
  userAgent : Option String
  metadata : Json

structure DisciplineDb where
  incidents : KeyedTable DisciplineIncident String (·.id)
  actions : KeyedTable DisciplineAction String (·.id)
  auditLogs : List DisciplineAuditLog
  /-- The `tenant_id` and the `id` of each row of `tenants`. -/
  tenants : List (String × String)

abbrev DisciplineTransaction := Transaction DisciplineDb Exception

abbrev DisciplineSession := Transaction (Session DisciplineDb) Exception

structure CreateDisciplineActionDto where
  actionType : DisciplineActionType
  title : String
  description : Option String
  assignedStaffId : Option String
  dueAt : Option String
  remarks : Option String
  metadata : Option Json
deriving DecidableEq

structure CompleteDisciplineActionDto where
  completionNotes : Option String
deriving DecidableEq

namespace DisciplineAction

def complete (now : Int) (completionNotes : Option String) (action : DisciplineAction) : DisciplineAction :=
  { action with status := .completed, completedAt := some now, completionNotes }

theorem complete_id (now : Int) (completionNotes : Option String) (action : DisciplineAction) :
    (action.complete now completionNotes).id = action.id := rfl

def approve (now : Int) (approvedByUserId : String) (action : DisciplineAction) : DisciplineAction :=
  { action with status := .approved, approvedByUserId := some approvedByUserId, approvedAt := some now }

theorem approve_id (now : Int) (approvedByUserId : String) (action : DisciplineAction) :
    (action.approve now approvedByUserId).id = action.id := rfl

end DisciplineAction

namespace DisciplineRepository

variable (db : DisciplineDb)

def findTenantSchoolId (tenantId : String) : Option String :=
  (db.tenants.find? (·.1 = tenantId)).map (·.2)

def findIncidentById (tenantId incidentId : String) : Option DisciplineIncident :=
  (db.incidents.find incidentId).filter fun incident => incident.tenantId = tenantId ∧ incident.deletedAt = none

def findAction (tenantId actionId : String) : Option DisciplineAction :=
  (db.actions.find actionId).filter fun action => action.tenantId = tenantId

def createAction (action : DisciplineAction) : DisciplineTransaction DisciplineAction := do
  let db ← current
  let actions ← required (db.actions.tryInsert action) (.database "discipline_actions_pkey")
  write fun db => { db with actions }
  return action

def updateAction (tenantId actionId : String) (change : DisciplineAction → DisciplineAction)
    (kept : ∀ action, (change action).id = action.id) : DisciplineTransaction (Option DisciplineAction) := do
  let db ← current
  match findAction db tenantId actionId with
  | none => return none
  | some action =>
    write fun db => { db with actions := db.actions.update actionId change kept }
    return some (change action)

def completeAction (now : Int) (tenantId actionId : String) (completionNotes : Option String) :
    DisciplineTransaction (Option DisciplineAction) :=
  updateAction tenantId actionId (DisciplineAction.complete now completionNotes)
    (DisciplineAction.complete_id now completionNotes)

def approveAction (now : Int) (tenantId actionId approvedByUserId : String) :
    DisciplineTransaction (Option DisciplineAction) :=
  updateAction tenantId actionId (DisciplineAction.approve now approvedByUserId)
    (DisciplineAction.approve_id now approvedByUserId)

def createAuditLog (log : DisciplineAuditLog) : DisciplineTransaction Unit :=
  write fun db => { db with auditLogs := db.auditLogs ++ [log] }

end DisciplineRepository

section Service

variable (store : RequestStore)

def requireTenantId : Except Exception String :=
  match store.tenantId.filter (· ≠ "") with
  | some tenantId => .ok tenantId
  | none => .error (.unauthorized "Tenant context is required for discipline operations")

def assertPermission (permission : String) : Except Exception Unit :=
  failIf (¬ store.hasPermission permission) (.forbidden "Discipline permission is required")

def requireText (value label : String) : Except Exception String := do
  failIf (JsText.trim value = "") (.badRequest (label ++ " is required"))
  return JsText.trim value

def highAuthorityRoles : List String := ["owner", "admin", "principal", "platform_owner", "system"]

def canReadAllDiscipline : Prop :=
  store.hasPermission "discipline:manage" ∨ "*:*" ∈ store.permissions ∨ store.role.getD "" ∈ highAuthorityRoles
deriving Decidable

def canReadIncident (incident : DisciplineIncident) : Prop :=
  canReadAllDiscipline store ∨ incident.reportingStaffId = some store.userId ∨
    incident.assignedStaffId = some store.userId
deriving Decidable

def requireIncident (incidentId : String) : DisciplineSession DisciplineIncident := do
  let tenantId ← requireTenantId store
  let seen ← snapshot
  let incident ← required (DisciplineRepository.findIncidentById seen tenantId incidentId)
    (.notFound "Discipline incident was not found")
  failIf (¬ canReadIncident store incident) (.forbidden "You cannot access this discipline incident")
  return incident

def resolveSchoolId : DisciplineSession String := do
  let tenantId ← requireTenantId store
  let seen ← snapshot
  required (DisciplineRepository.findTenantSchoolId seen tenantId)
    (.badRequest "School profile is required before using discipline workflows")

def audit (schoolId action : String) (entityId : String) (metadata : Json) : DisciplineTransaction Unit := do
  let tenantId ← requireTenantId store
  DisciplineRepository.createAuditLog
    { tenantId, schoolId, actorUserId := store.userId, actorRole := store.role, action
      entityType := "discipline_action", entityId := some entityId, ipAddress := store.clientIp
      userAgent := store.userAgent, metadata }

def newAction (incident : DisciplineIncident) (title : String) (dto : CreateDisciplineActionDto) :
    DisciplineAction where
  id := store.newId
  tenantId := incident.tenantId
  schoolId := incident.schoolId
  incidentId := incident.id
  studentId := incident.studentId
  actionType := dto.actionType
  status := if dto.actionType.requiresApproval then .pendingApproval else .assigned
  title := title
  description := dto.description
  assignedStaffId := dto.assignedStaffId
  dueAt := dto.dueAt
  remarks := dto.remarks
  metadata := dto.metadata.getD (.obj [])
  createdByUserId := store.userId
  approvedByUserId := none
  approvedAt := none
  completedAt := none
  completionNotes := none

def createAction (incidentId : String) (dto : CreateDisciplineActionDto) : DisciplineSession DisciplineAction := do
  assertPermission store "discipline:manage"
  let incident ← requireIncident store incidentId
  let title ← requireText dto.title "Action title"
  let action ← onTables (DisciplineRepository.createAction (newAction store incident title dto))
  onTables (audit store incident.schoolId "discipline_action.created" action.id
    (.obj [("incident_id", .str incident.id), ("action_type", .str action.actionType.text),
      ("requires_approval", .bool (decide dto.actionType.requiresApproval))]))
  return action

def completeAction (actionId : String) (dto : CompleteDisciplineActionDto) : DisciplineSession DisciplineAction := do
  assertPermission store "discipline:manage"
  let tenantId ← requireTenantId store
  let completed ← onTables (DisciplineRepository.completeAction store.now tenantId actionId
    ((dto.completionNotes.map JsText.trim).filter (· ≠ "")))
  let action ← required completed (.notFound "Discipline action was not found")
  let schoolId ← resolveSchoolId store
  onTables (audit store schoolId "discipline_action.completed" action.id
    (.obj [("completion_notes", if dto.completionNotes.getD "" ≠ "" then .str "[redacted-present]" else .null)]))
  return action

def approveAction (actionId : String) : DisciplineSession DisciplineAction := do
  assertPermission store "discipline:approve"
  let tenantId ← requireTenantId store
  let approved ← onTables (DisciplineRepository.approveAction store.now tenantId actionId store.userId)
  let action ← required approved (.notFound "Discipline action was not found")
  let schoolId ← resolveSchoolId store
  onTables (audit store schoolId "discipline_action.approved" action.id
    (.obj [("action_type", .str action.actionType.text)]))
  return action

end Service

inductive DisciplineOperation where
  | createAction (incidentId : String) (dto : CreateDisciplineActionDto)
  | completeAction (actionId : String) (dto : CompleteDisciplineActionDto)
  | approveAction (actionId : String)
deriving DecidableEq

structure DisciplineCall where
  store : RequestStore
  operation : DisciplineOperation

def perform (call : DisciplineCall) : DisciplineSession DisciplineAction :=
  match call.operation with
  | .createAction incidentId dto => createAction call.store incidentId dto
  | .completeAction actionId dto => completeAction call.store actionId dto
  | .approveAction actionId => approveAction call.store actionId

end ShuleHub.Discipline
