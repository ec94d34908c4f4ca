import ShuleHub.Exceptions
import ShuleHub.Lib.JsValue
import ShuleHub.Lib.KeyedTable
import ShuleHub.Lib.Snapshots

/-! The approvals of staff contracts and of leave. -/

namespace ShuleHub.Hr

open Transaction Snapshots

structure Period where
  startsOn : Int
  endsOn : Option Int
  ordered : ∀ last ∈ endsOn, startsOn ≤ last

namespace Period

variable {first second : Period}

def covers (period : Period) (day : Int) : Prop := period.startsOn ≤ day ∧ ∀ last ∈ period.endsOn, day ≤ last

def overlaps (first second : Period) : Prop :=
  (∀ last ∈ first.endsOn, second.startsOn ≤ last) ∧ ∀ last ∈ second.endsOn, first.startsOn ≤ last
deriving Decidable

theorem overlaps_iff : first.overlaps second ↔ ∃ day, first.covers day ∧ second.covers day := by
  constructor
  · intro overlaps
    refine ⟨max first.startsOn second.startsOn, ⟨le_max_left _ _, ?_⟩, le_max_right _ _, ?_⟩
    · intro last ends
      exact max_le (first.ordered last ends) (overlaps.1 last ends)
    · intro last ends
      exact max_le (overlaps.2 last ends) (second.ordered last ends)
  · rintro ⟨day, ⟨begun, within⟩, ⟨otherBegun, otherWithin⟩⟩
    constructor
    · intro last ends
      exact otherBegun.trans (within last ends)
    · intro last ends
      exact begun.trans (otherWithin last ends)

theorem overlaps_symm (overlaps : first.overlaps second) : second.overlaps first :=
  ⟨overlaps.2, overlaps.1⟩

end Period

inductive ApprovalState where
  | draft
  | approved
  | ended
deriving DecidableEq

structure StaffContract where
  id : String
  tenantId : String
  staffProfileId : String
  roleTitle : String
  period : Period
  employmentType : String
  workload : String
  approvalState : ApprovalState
  approvedByUserId : Option String
  approvedAt : Option Int

structure LeaveAccount where
  tenantId : String
  staffProfileId : String
  leaveType : String
deriving DecidableEq

structure LeaveBalance where
  account : LeaveAccount
  availableDays : Int

inductive LeaveStatus where
  | requested
  | approved
  | rejected
deriving DecidableEq

structure LeaveRequest where
  id : String
  account : LeaveAccount
  requestedDays : Int
  status : LeaveStatus
  overrideReason : Option String
  approvedByUserId : Option String
  approvedAt : Option Int

structure StaffAuditLog where
  tenantId : String
  staffProfileId : String
  actorUserId : Option String
  action : String
  metadata : Json

structure HrDb where
  contracts : KeyedTable StaffContract String (·.id)
  leaveBalances : KeyedTable LeaveBalance LeaveAccount (·.account)
  leaveRequests : KeyedTable LeaveRequest String (·.id)
  auditLogs : List StaffAuditLog

abbrev HrTransaction := Transaction HrDb Exception

abbrev HrSession := Transaction (Session HrDb) Exception

structure HrContext where
  tenantId : Option String
  userId : Option String
  now : Int
  newId : String

structure DateText where
  text : String
  day : Int

structure ApproveStaffContractDto where
  staffProfileId : String
  roleTitle : String
  employmentType : String
  workload : String
  startsOn : DateText
  endsOn : Option DateText

/-- A number of days as it is written, and its value: the validation of the body refuses negative ones. -/
structure DaysNumber where
  literal : JsNumber
  value : ℚ
  nonneg : 0 ≤ value

structure ApproveLeaveRequestDto where
  staffProfileId : String
  leaveType : String
  requestedDays : DaysNumber
  overrideReason : Option String

namespace HrRepository

def dateRange (startsOn : Int) (endsOn : Option Int) : Except Exception Period :=
  if ordered : ∀ last ∈ endsOn, startsOn ≤ last then .ok ⟨startsOn, endsOn, ordered⟩
  else .error (.database "range lower bound must be less than or equal to range upper bound")

def conflicts (tenantId staffProfileId : String) (period : Period) (contract : StaffContract) : Prop :=
  contract.tenantId = tenantId ∧ contract.staffProfileId = staffProfileId ∧ contract.approvalState = .approved ∧
    contract.period.overlaps period
deriving Decidable

def findOverlappingActiveContract (db : HrDb) (tenantId staffProfileId : String) (period : Period) :
    Option StaffContract :=
  db.contracts.rows.find? fun contract => conflicts tenantId staffProfileId period contract

def approveContract (contract : StaffContract) : HrTransaction StaffContract := do
  let db ← current
  let contracts ← required (db.contracts.tryInsert contract) (.database "staff_contracts_pkey")
  write fun db => { db with contracts }
  return contract

def findLeaveBalance (db : HrDb) (account : LeaveAccount) : Int :=
  ((db.leaveBalances.find account).map (·.availableDays)).getD 0

def approveLeaveRequest (leave : LeaveRequest) : HrTransaction LeaveRequest := do
  let db ← current
  let leaveRequests ← required (db.leaveRequests.tryInsert leave) (.database "staff_leave_requests_pkey")
  write fun db => { db with leaveRequests }
  return leave

def appendAuditLog (log : StaffAuditLog) : HrTransaction Unit :=
  write fun db => { db with auditLogs := db.auditLogs ++ [log] }

end HrRepository

section Service

variable (context : HrContext) (tenantId : String) (dto : ApproveLeaveRequestDto)

def requireTenantId : Except Exception String :=
  match context.tenantId.filter (· ≠ "") with
  | some tenantId => .ok tenantId
  | none => .error (.unauthorized "Tenant context is required for HR operations")

def getActorUserId : Option String := context.userId.filter fun userId => userId ≠ "" ∧ userId ≠ "anonymous"

def newContract (period : Period) (dto : ApproveStaffContractDto) : StaffContract where
  id := context.newId
  tenantId := tenantId
  staffProfileId := dto.staffProfileId
  roleTitle := dto.roleTitle
  period := period
  employmentType := dto.employmentType
  workload := dto.workload
  approvalState := .approved
  approvedByUserId := getActorUserId context
  approvedAt := some context.now

def contractLog (dto : ApproveStaffContractDto) : StaffAuditLog where
  tenantId := tenantId
  staffProfileId := dto.staffProfileId
  actorUserId := getActorUserId context
  action := "staff.contract.approved"
  metadata := .obj [("role_title", .str dto.roleTitle), ("starts_on", .str dto.startsOn.text)]

def approveContract (dto : ApproveStaffContractDto) : HrSession StaffContract := do
  let tenantId ← requireTenantId context
  let period ← HrRepository.dateRange dto.startsOn.day (dto.endsOn.map (·.day))
  let seen ← snapshot
  failIf (HrRepository.findOverlappingActiveContract seen tenantId dto.staffProfileId period ≠ none)
    (.badRequest "Staff member already has an overlapping active contract")
  let contract ← onTables (HrRepository.approveContract (newContract context tenantId period dto))
  onTables (HrRepository.appendAuditLog (contractLog context tenantId dto))
  return contract

def overrides (overrideReason : Option String) : Prop := JsText.trim (overrideReason.getD "") ≠ ""
deriving Decidable

def ApproveLeaveRequestDto.account (tenantId : String) : LeaveAccount :=
  ⟨tenantId, dto.staffProfileId, dto.leaveType⟩

def newLeave (account : LeaveAccount) (requestedDays : Int) (dto : ApproveLeaveRequestDto) : LeaveRequest where
  id := context.newId
  account := account
  requestedDays := requestedDays
  status := .approved
  overrideReason := dto.overrideReason
  approvedByUserId := getActorUserId context
  approvedAt := some context.now

def leaveLog : StaffAuditLog where
  tenantId := tenantId
  staffProfileId := dto.staffProfileId
  actorUserId := getActorUserId context
  action := "staff.leave.approved"
  metadata := .obj [("leave_type", .str dto.leaveType), ("requested_days", .num dto.requestedDays.literal),
    ("override_reason", (dto.overrideReason.map Json.str).getD .null)]

def approveLeave : HrSession LeaveRequest := do
  let tenantId ← requireTenantId context
  let seen ← snapshot
  let availableDays : ℚ := HrRepository.findLeaveBalance seen (dto.account tenantId) / 100
  failIf (availableDays < dto.requestedDays.value ∧ ¬ overrides dto.overrideReason)
    (.badRequest "Leave approval beyond balance requires an override reason")
  let requestedDays ← required (Numeric.store 8 2 dto.requestedDays.value) (.database "numeric field overflow")
  let leave ← onTables (HrRepository.approveLeaveRequest (newLeave context (dto.account tenantId) requestedDays dto))
  onTables (HrRepository.appendAuditLog (leaveLog context tenantId dto))
  return leave

end Service

inductive HrOperation where
  | approveContract (dto : ApproveStaffContractDto)
  | approveLeave (dto : ApproveLeaveRequestDto)

structure HrCall where
  context : HrContext
  operation : HrOperation

inductive HrResponse where
  | contract (contract : StaffContract)
  | leave (leave : LeaveRequest)

def perform (call : HrCall) : HrSession HrResponse :=
  match call.operation with
  | .approveContract dto => do return .contract (← approveContract call.context dto)
  | .approveLeave dto => do return .leave (← approveLeave call.context dto)

def requestedContract (context : HrContext) (dto : ApproveStaffContractDto) : Except Exception StaffContract := do
  let tenantId ← requireTenantId context
  let period ← HrRepository.dateRange dto.startsOn.day (dto.endsOn.map (·.day))
  return newContract context tenantId period dto

def Clashes (contract other : StaffContract) : Prop :=
  HrRepository.conflicts contract.tenantId contract.staffProfileId contract.period other
deriving Decidable

def requestedLeave (context : HrContext) (dto : ApproveLeaveRequestDto) : Except Exception LeaveRequest := do
  let tenantId ← requireTenantId context
  match Numeric.store 8 2 dto.requestedDays.value with
  | some requestedDays => return newLeave context (dto.account tenantId) requestedDays dto
  | none => throw (.database "numeric field overflow")

section Effects

variable {db later : HrDb} {context : HrContext} {session after : Session HrDb} {contract : StaffContract}
  {leave : LeaveRequest} {dto : ApproveStaffContractDto}

theorem requestedContract_ok {context : HrContext} :
    requestedContract context dto = .ok contract ↔ ∃ tenantId, requireTenantId context = .ok tenantId ∧
      ∃ period, HrRepository.dateRange dto.startsOn.day (dto.endsOn.map (·.day)) = .ok period ∧
        newContract context tenantId period dto = contract := by
  simp only [requestedContract, Outcome.bind_ok, Outcome.pure_ok]

theorem approved_of_requested {context : HrContext}
    (requested : requestedContract context dto = .ok contract) : contract.approvalState = .approved := by
  obtain ⟨_, -, _, -, rfl⟩ := requestedContract_ok.mp requested
  rfl

theorem findOverlappingActiveContract_eq_none {tenantId staffProfileId : String} {period : Period} :
    HrRepository.findOverlappingActiveContract db tenantId staffProfileId period = none ↔
      ∀ other ∈ db.contracts.rows, ¬ HrRepository.conflicts tenantId staffProfileId period other := by
  simp [HrRepository.findOverlappingActiveContract]

theorem insertContract_ok {stored : StaffContract} :
    (HrRepository.approveContract contract).run db = .ok (stored, later) ↔ contract = stored ∧
      ∃ fresh : ∀ other ∈ db.contracts.rows, other.id ≠ contract.id,
        { db with contracts := db.contracts.insert contract fresh } = later := by
  simp only [HrRepository.approveContract, run_bind_ok, run_current_ok, run_required_ok, run_write_ok, run_pure_ok]
  constructor
  · rintro ⟨_, _, ⟨rfl, rfl⟩, contracts, _, ⟨inserted, rfl⟩, _, _, rfl, rfl, rfl⟩
    obtain ⟨fresh, rfl⟩ := (KeyedTable.tryInsert_eq_some _).mp inserted
    exact ⟨rfl, fresh, rfl⟩
  · rintro ⟨rfl, fresh, rfl⟩
    exact ⟨_, _, ⟨rfl, rfl⟩, _, _, ⟨(KeyedTable.tryInsert_eq_some _).mpr ⟨fresh, rfl⟩, rfl⟩, (), _, rfl, rfl, rfl⟩

theorem approveContract_ok :
    (approveContract context dto).run session = .ok (contract, after) ↔ requestedContract context dto = .ok contract ∧
      (∀ other ∈ (session.snapshots.headD session.committed).contracts.rows, ¬ Clashes contract other) ∧
      ∃ fresh : ∀ other ∈ session.tables.contracts.rows, other.id ≠ contract.id, { session.rest with
        tables := { session.tables with
          contracts := session.tables.contracts.insert contract fresh
          auditLogs := session.tables.auditLogs ++ [contractLog context contract.tenantId dto] } } = after := by
  simp only [approveContract, HrRepository.appendAuditLog, requestedContract_ok, run_bind_ok, run_lift_ok, snapshot_ok,
    run_failIf_ok, run_onTables_ok, insertContract_ok, run_write_ok, run_pure_ok, not_not,
    findOverlappingActiveContract_eq_none]
  constructor
  · rintro ⟨tenantId, _, ⟨tenant, rfl⟩, period, _, ⟨ordered, rfl⟩, _, _, ⟨rfl, rfl⟩, _, _, ⟨free, rfl⟩, _, _,
      ⟨_, ⟨rfl, fresh, rfl⟩, rfl⟩, _, _, ⟨_, rfl, rfl⟩, rfl, rfl⟩
    exact ⟨⟨tenantId, tenant, period, ordered, rfl⟩, free, fresh, rfl⟩
  · rintro ⟨⟨tenantId, tenant, period, ordered, rfl⟩, free, fresh, rfl⟩
    exact ⟨tenantId, _, ⟨tenant, rfl⟩, period, _, ⟨ordered, rfl⟩, _, _, ⟨rfl, rfl⟩, (), _, ⟨free, rfl⟩, _, _,
      ⟨_, ⟨rfl, fresh, rfl⟩, rfl⟩, (), _, ⟨_, rfl, rfl⟩, rfl, rfl⟩

theorem requestedLeave_ok {dto : ApproveLeaveRequestDto} :
    requestedLeave context dto = .ok leave ↔ ∃ tenantId, requireTenantId context = .ok tenantId ∧
      ∃ requestedDays, Numeric.store 8 2 dto.requestedDays.value = some requestedDays ∧
        newLeave context (dto.account tenantId) requestedDays dto = leave := by
  simp only [requestedLeave, Outcome.bind_ok]
  apply exists_congr
  intro tenantId
  apply and_congr_right
  intro _
  cases Numeric.store 8 2 dto.requestedDays.value with
  | none => simp [throw, throwThe, MonadExceptOf.throw]
  | some requestedDays => simp

theorem insertLeave_ok {stored : LeaveRequest} :
    (HrRepository.approveLeaveRequest leave).run db = .ok (stored, later) ↔ leave = stored ∧
      ∃ fresh : ∀ other ∈ db.leaveRequests.rows, other.id ≠ leave.id,
        { db with leaveRequests := db.leaveRequests.insert leave fresh } = later := by
  simp only [HrRepository.approveLeaveRequest, run_bind_ok, run_current_ok, run_required_ok, run_write_ok, run_pure_ok]
  constructor
  · rintro ⟨_, _, ⟨rfl, rfl⟩, leaveRequests, _, ⟨inserted, rfl⟩, _, _, rfl, rfl, rfl⟩
    obtain ⟨fresh, rfl⟩ := (KeyedTable.tryInsert_eq_some _).mp inserted
    exact ⟨rfl, fresh, rfl⟩
  · rintro ⟨rfl, fresh, rfl⟩
    exact ⟨_, _, ⟨rfl, rfl⟩, _, _, ⟨(KeyedTable.tryInsert_eq_some _).mpr ⟨fresh, rfl⟩, rfl⟩, (), _, rfl, rfl, rfl⟩

theorem approveLeave_ok {dto : ApproveLeaveRequestDto} :
    (approveLeave context dto).run session = .ok (leave, after) ↔ requestedLeave context dto = .ok leave ∧
      ¬ (HrRepository.findLeaveBalance (session.snapshots.headD session.committed) leave.account / 100 <
        dto.requestedDays.value ∧ ¬ overrides dto.overrideReason) ∧
      ∃ fresh : ∀ other ∈ session.tables.leaveRequests.rows, other.id ≠ leave.id, { session.rest with
        tables := { session.tables with
          leaveRequests := session.tables.leaveRequests.insert leave fresh
          auditLogs := session.tables.auditLogs ++ [leaveLog context leave.account.tenantId dto] } } = after := by
  simp only [approveLeave, HrRepository.appendAuditLog, requestedLeave_ok, run_bind_ok, run_lift_ok, snapshot_ok,
    run_failIf_ok, run_onTables_ok, run_required_ok, insertLeave_ok, run_write_ok, run_pure_ok]
  constructor
  · rintro ⟨tenantId, _, ⟨tenant, rfl⟩, _, _, ⟨rfl, rfl⟩, _, _, ⟨within, rfl⟩, requestedDays, _, ⟨stored, rfl⟩, _, _,
      ⟨_, ⟨rfl, fresh, rfl⟩, rfl⟩, _, _, ⟨_, rfl, rfl⟩, rfl, rfl⟩
    exact ⟨⟨tenantId, tenant, requestedDays, stored, rfl⟩, within, fresh, rfl⟩
  · rintro ⟨⟨tenantId, tenant, requestedDays, stored, rfl⟩, within, fresh, rfl⟩
    exact ⟨tenantId, _, ⟨tenant, rfl⟩, _, _, ⟨rfl, rfl⟩, (), _, ⟨within, rfl⟩, requestedDays, _, ⟨stored, rfl⟩, _, _,
      ⟨_, ⟨rfl, fresh, rfl⟩, rfl⟩, (), _, ⟨_, rfl, rfl⟩, rfl, rfl⟩

end Effects

end ShuleHub.Hr

/-! The approved contracts of a staff member under approvals in any interleaving: when no day has two of them. -/

namespace ShuleHub.Hr

open Runs Transaction Snapshots

def ContractsApart (db : HrDb) : Prop :=
  ∀ first ∈ db.contracts.rows, ∀ second ∈ db.contracts.rows, first.id ≠ second.id →
    first.tenantId = second.tenantId → first.staffProfileId = second.staffProfileId →
      first.approvalState = .approved → second.approvalState = .approved →
        ¬ ∃ day, first.period.covers day ∧ second.period.covers day

instance (db : HrDb) : Decidable (ContractsApart db) :=
  decidable_of_iff (∀ first ∈ db.contracts.rows, ∀ second ∈ db.contracts.rows, first.id ≠ second.id →
    first.tenantId = second.tenantId → first.staffProfileId = second.staffProfileId →
      first.approvalState = .approved → second.approvalState = .approved →
        ¬ first.period.overlaps second.period) (by simp only [ContractsApart, Period.overlaps_iff])

/-- An approval for which an overlapping contract is committed has found one when it looked. -/
def FindsOverlap (transaction : InFlight HrDb HrCall) (db : HrDb) : Prop :=
  match transaction.request.operation with
  | .approveContract dto => ∀ contract ∈ (requestedContract transaction.request.context dto).toOption,
    (∀ other ∈ db.contracts.rows, other.id ≠ contract.id) → (∃ other ∈ db.contracts.rows, Clashes contract other) →
      ∃ other ∈ (transaction.snapshots.headD db).contracts.rows, Clashes contract other
  | .approveLeave _ => True

instance (transaction : InFlight HrDb HrCall) (db : HrDb) : Decidable (FindsOverlap transaction db) := by
  unfold FindsOverlap
  split <;> infer_instance

section Steps

variable {contract other : StaffContract} {db : HrDb}

/-- Inserting an approved contract keeps the contracts apart exactly if it clashes with none of them. -/
theorem contractsApart_insert {logs : List StaffAuditLog} (fresh : ∀ other ∈ db.contracts.rows, other.id ≠ contract.id)
    (apart : ContractsApart db) (approved : contract.approvalState = .approved) :
    ContractsApart { db with contracts := db.contracts.insert contract fresh, auditLogs := logs } ↔
      ∀ other ∈ db.contracts.rows, ¬ Clashes contract other := by
  have rows : ∀ row, row ∈ (db.contracts.insert contract fresh).rows ↔ row ∈ db.contracts.rows ∨ row = contract :=
    fun _ => KeyedTable.mem_insert
  constructor
  · intro holds other member clash
    obtain ⟨tenant, staff, active, overlaps⟩ := clash
    exact holds other ((rows other).mpr (.inl member)) contract ((rows contract).mpr (.inr rfl)) (fresh other member)
      tenant staff active approved (Period.overlaps_iff.mp overlaps)
  · intro free first firstMember second secondMember differs tenant staff firstApproved secondApproved shared
    have overlaps : first.period.overlaps second.period := Period.overlaps_iff.mpr shared
    rcases (rows first).mp firstMember with firstOld | rfl
    · rcases (rows second).mp secondMember with secondOld | rfl
      · exact apart first firstOld second secondOld differs tenant staff firstApproved secondApproved shared
      · exact free first firstOld ⟨tenant, staff, firstApproved, overlaps⟩
    · rcases (rows second).mp secondMember with secondOld | rfl
      · exact free second secondOld ⟨tenant.symm, staff.symm, secondApproved, Period.overlaps_symm overlaps⟩
      · exact differs rfl

theorem settle_contractsApart (transaction : InFlight HrDb HrCall) (apart : ContractsApart db)
    (finds : FindsOverlap transaction db) : ContractsApart (settle perform transaction db).1 := by
  apply settle_preserves apart
  intro result session succeeded
  unfold perform at succeeded
  unfold FindsOverlap at finds
  split at succeeded
  · next dto asked =>
    rw [asked] at finds
    simp only [run_bind_ok, run_pure_ok] at succeeded
    obtain ⟨contract, _, approved, -, rfl⟩ := succeeded
    obtain ⟨requested, free, fresh, rfl⟩ := approveContract_ok.mp approved
    apply (contractsApart_insert fresh apart (approved_of_requested requested)).mpr
    intro other member clash
    obtain ⟨seen, present, earlier⟩ :=
      finds contract (Outcome.toOption_eq_some.mpr requested) fresh ⟨other, member, clash⟩
    exact free seen present earlier
  · next dto asked =>
    simp only [run_bind_ok, run_pure_ok] at succeeded
    obtain ⟨leave, _, approved, -, rfl⟩ := succeeded
    obtain ⟨-, -, _, rfl⟩ := approveLeave_ok.mp approved
    exact apart

theorem settle_of_approveContract {transaction : InFlight HrDb HrCall} {dto : ApproveStaffContractDto}
    {session : Session HrDb} (asked : transaction.request.operation = .approveContract dto)
    (approved : (approveContract transaction.request.context dto).run (.begun db transaction.snapshots) =
      .ok (contract, session)) : settle perform transaction db = (session.tables, .ok (.contract contract)) := by
  apply settle_of_ok
  simp only [perform, asked, run_bind_ok, run_pure_ok]
  exact ⟨contract, session, approved, rfl, rfl⟩

theorem settle_overlap (transaction : InFlight HrDb HrCall) (apart : ContractsApart db)
    (misses : ¬ FindsOverlap transaction db) : ¬ ContractsApart (settle perform transaction db).1 := by
  unfold FindsOverlap at misses
  split at misses
  · next dto asked =>
    simp only [not_forall, not_exists, not_and, exists_prop] at misses
    obtain ⟨contract, requested, fresh, ⟨other, member, clash⟩, free⟩ := misses
    have stored := Outcome.toOption_eq_some.mp requested
    rw [settle_of_approveContract asked (approveContract_ok.mpr ⟨stored, free, fresh, rfl⟩)]
    intro still
    exact (contractsApart_insert fresh apart (approved_of_requested stored)).mp still other member clash
  · exact absurd trivial misses

end Steps

/-- Contracts stay apart in exactly the runs whose approvals all find what they overlap. -/
theorem contracts_apart_iff (start : HrDb) (events : List (Snapshots.Event HrCall)) (apart : ContractsApart start) :
    Along (step perform) (fun world => ContractsApart world.db) (World.idle start) events ↔
      Meets (step perform) (Committing FindsOverlap) (World.idle start) events :=
  along_iff_commits (fun db _ => ContractsApart db) (fun db _ => ContractsApart db) (fun _ _ _ => trivial)
    (fun transaction _ _ apart _ finds => settle_contractsApart transaction apart finds) (fun _ _ apart => apart)
    (fun transaction _ _ apart _ misses => settle_overlap transaction apart misses) events apart

def newOffice : HrDb where
  contracts := .empty
  leaveBalances := .empty
  leaveRequests := .empty
  auditLogs := []

def engage (newId : String) : HrCall where
  context := ⟨some "lakeside", some "user-1", 0, newId⟩
  operation := .approveContract
    { staffProfileId := "staff-1", roleTitle := "Teacher", employmentType := "full_time", workload := "40 lessons"
      startsOn := ⟨"2026-05-01", 20574⟩, endsOn := none }

theorem contracts_apart_refused :
    Along (step perform) (fun world => ContractsApart world.db) (World.idle newOffice)
      [.begin (engage "contract-1"), .commit 0, .begin (engage "contract-2"), .commit 0] :=
  (contracts_apart_iff newOffice _ (by decide +kernel)).mpr (by decide +kernel)

/-- Two approvals look for overlaps before either has committed. -/
theorem engaged_twice :
    ¬ ∀ (start : HrDb) (events : List (Snapshots.Event HrCall)), ContractsApart start →
      Along (step perform) (fun world => ContractsApart world.db) (World.idle start) events := by
  intro always
  have apart := run_of_along (always newOffice
    [.begin (engage "contract-1"), .begin (engage "contract-2"), .read 1, .commit 0, .commit 0] (by decide +kernel))
  exact absurd apart (by decide +kernel)

end ShuleHub.Hr
