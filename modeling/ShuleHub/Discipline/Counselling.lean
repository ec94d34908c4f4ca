import ShuleHub.Discipline.Actions
import ShuleHub.Lib.JsDate
import Mathlib.Data.List.Dedup

/-! What the counselling service lets a user read: the dashboard, the referrals, the sessions and the notes of a
session. Times are milliseconds. -/

namespace ShuleHub.Discipline

inductive ReferralStatus where
  | opened
  | accepted
  | declined
  | closed
deriving DecidableEq

def ReferralStatus.text : ReferralStatus → String
  | .opened => "open"
  | .accepted => "accepted"
  | .declined => "declined"
  | .closed => "closed"

inductive RiskLevel where
  | low
  | medium
  | high
  | critical
deriving DecidableEq

inductive SessionStatus where
  | scheduled
  | completed
  | missed
  | cancelled
deriving DecidableEq

def SessionStatus.text : SessionStatus → String
  | .scheduled => "scheduled"
  | .completed => "completed"
  | .missed => "missed"
  | .cancelled => "cancelled"

inductive ImprovementPlanStatus where
  | active
  | paused
  | completed
  | cancelled
deriving DecidableEq

inductive CounsellingNoteVisibility where
  | internalOnly
  | disciplineOffice
  | parentVisible
deriving DecidableEq

structure CounsellingReferral where
  id : String
  tenantId : String
  schoolId : String
  studentId : String
  classId : String
  academicTermId : String
  academicYearId : String
  incidentId : Option String
  referredByUserId : String
  counsellorUserId : Option String
  status : ReferralStatus
  reason : String
  riskLevel : RiskLevel
  responseNote : Option String
  createdAt : Int
  updatedAt : Int
deriving DecidableEq

structure CounsellingSession where
  id : String
  tenantId : String
  schoolId : String
  studentId : String
  referralId : Option String
  counsellorUserId : String
  status : SessionStatus
  scheduledFor : Int
  completedAt : Option Int
  location : Option String
  agenda : Option String
  outcomeSummary : Option String
  createdAt : Int
  updatedAt : Int
deriving DecidableEq

/-- A row of `behavior_improvement_plans`, as far as the dashboard reads it. The date of the review is a day. -/
structure ImprovementPlan where
  tenantId : String
  status : ImprovementPlanStatus
  reviewDate : Int
deriving DecidableEq

structure EncryptedCounsellingNotePayload where
  encryptedNote : String
  noteNonce : String
  noteAuthTag : String
deriving DecidableEq

structure CounsellingNote where
  id : String
  tenantId : String
  schoolId : String
  studentId : String
  counsellingSessionId : String
  counsellorUserId : String
  visibility : CounsellingNoteVisibility
  payload : EncryptedCounsellingNotePayload
  safeSummary : Option String
  riskIndicators : List String
  createdAt : Int
  updatedAt : Int
deriving DecidableEq

structure StudentGuardian where
  tenantId : String
  userId : Option String
  studentId : String
  status : String
deriving DecidableEq

structure CounsellingDb where
  referrals : List CounsellingReferral
  sessions : KeyedTable CounsellingSession String (·.id)
  notes : KeyedTable CounsellingNote String (·.id)
  improvementPlans : List ImprovementPlan
  studentGuardians : List StudentGuardian
deriving DecidableEq

structure ListCounsellingQueryDto where
  studentId : Option String
  counsellorUserId : Option String
  status : Option String
  limit : Option Nat
  offset : Option Nat

structure CounsellingDashboard where
  activeReferrals : Nat
  upcomingSessions : Nat
  improvementCases : Nat
  repeatReferrals : Nat
  highRiskStudents : Nat
  followupsDue : Nat
  generatedAt : String

/-- What is shown of a note, to those who may read it and to those who may not. -/
inductive PresentedNote where
  | redacted (id : String) (visibility : CounsellingNoteVisibility) (safeSummary : Option String) (createdAt : Int)
  | plain (id : String) (visibility : CounsellingNoteVisibility) (note : String) (safeSummary : Option String)
    (riskIndicators : List String) (createdAt : Int)
deriving DecidableEq

namespace CounsellingRepository

variable (db : CounsellingDb)

def day : Int := 86400000

def getCounsellingDashboard (now : Int) (db : CounsellingDb) (tenantId : String) : CounsellingDashboard :=
  let referrals := db.referrals.filter (·.tenantId = tenantId)
  let active := referrals.filter fun referral => referral.status.text ∈ ["pending", "accepted"]
  let recent := (referrals.filter fun referral => now - 180 * day ≤ referral.createdAt).map (·.studentId)
  let plans := db.improvementPlans.filter fun plan => plan.tenantId = tenantId ∧ plan.status = .active
  { activeReferrals := active.length
    upcomingSessions := db.sessions.rows.countP fun session =>
      session.tenantId = tenantId ∧ session.status = .scheduled ∧ now ≤ session.scheduledFor ∧
        session.scheduledFor < now + 14 * day
    improvementCases := plans.length
    repeatReferrals := (recent.dedup.filter fun studentId => 2 ≤ recent.count studentId).length
    highRiskStudents := ((active.filter (·.riskLevel = .high)).map (·.studentId)).dedup.length
    followupsDue := plans.countP fun plan => plan.reviewDate ≤ now / day + 7
    generatedAt := JsDate.toISOString now }

def page {Row : Type} (query : ListCounsellingQueryDto) (rows : List Row) : List Row :=
  (rows.drop (query.offset.getD 0)).take (min (query.limit.getD 50) 100)

def listReferrals (tenantId : String) (query : ListCounsellingQueryDto) :
    List CounsellingReferral :=
  page query ((db.referrals.filter fun referral => referral.tenantId = tenantId ∧
    (∀ studentId ∈ query.studentId, referral.studentId = studentId) ∧
    (∀ userId ∈ query.counsellorUserId, referral.counsellorUserId = some userId) ∧
    ∀ status ∈ query.status, referral.status.text = status).insertionSort fun first second =>
      second.createdAt ≤ first.createdAt)

def listSessions (tenantId : String) (query : ListCounsellingQueryDto) (canReadAll : Prop)
    [Decidable canReadAll] (actorUserId : String) : List CounsellingSession :=
  page query ((db.sessions.rows.filter fun session => session.tenantId = tenantId ∧
    (∀ studentId ∈ query.studentId, session.studentId = studentId) ∧
    (∀ userId ∈ query.counsellorUserId, session.counsellorUserId = userId) ∧
    (∀ status ∈ query.status, session.status.text = status) ∧
    (canReadAll ∨ session.counsellorUserId = actorUserId)).insertionSort fun first second =>
      first.scheduledFor ≤ second.scheduledFor)

def findSessionById (tenantId sessionId : String) : Option CounsellingSession :=
  (db.sessions.find sessionId).filter fun session => session.tenantId = tenantId

def listNotes (tenantId sessionId : String) : List CounsellingNote :=
  (db.notes.rows.filter fun note => note.tenantId = tenantId ∧ note.counsellingSessionId = sessionId).insertionSort
    fun first second => first.createdAt ≤ second.createdAt

end CounsellingRepository

def isParentLinkedToStudent (db : CounsellingDb) (tenantId parentUserId studentId : String) : Prop :=
  ∃ guardian ∈ db.studentGuardians, guardian.tenantId = tenantId ∧ guardian.userId = some parentUserId ∧
    guardian.studentId = studentId ∧ guardian.status = "active"
deriving Decidable

namespace CounsellingService

section Reads

variable (store : RequestStore) (db : CounsellingDb)

def requireTenantId : Except Exception String :=
  match store.tenantId.filter (· ≠ "") with
  | some tenantId => .ok tenantId
  | none => .error (.unauthorized "Tenant context is required for counselling operations")

def assertCounsellingRead : Except Exception Unit :=
  failIf (¬ store.hasPermission "counselling:read" ∧ ¬ store.hasPermission "counselling:manage" ∧
    ¬ store.hasPermission "discipline:manage" ∧ ¬ store.hasPermission "portal:read_own_children")
    (.forbidden "Counselling permission is required")

def canReadNote (note : CounsellingNote) : Prop :=
  (store.hasPermission "counselling:manage" ∨ note.counsellorUserId = store.userId) ∨
    (note.visibility = .disciplineOffice ∧ store.hasPermission "discipline:manage") ∨
    note.visibility = .parentVisible ∧ store.hasPermission "portal:read_own_children" ∧
      isParentLinkedToStudent db note.tenantId store.userId note.studentId
deriving Decidable

def canAccessSession (tenantId : String) (session : CounsellingSession) : Prop :=
  (store.hasPermission "counselling:manage" ∨ store.hasPermission "discipline:manage" ∨
      session.counsellorUserId = store.userId) ∨
    store.hasPermission "portal:read_own_children" ∧
      isParentLinkedToStudent db tenantId store.userId session.studentId
deriving Decidable

def requireSession (sessionId : String) : Except Exception CounsellingSession := do
  let tenantId ← requireTenantId store
  match CounsellingRepository.findSessionById db tenantId sessionId with
  | none => fail (.notFound "Counselling session was not found")
  | some session =>
    failIf (¬ canAccessSession store db tenantId session) (.forbidden "You cannot access this counselling session")
    return session

def presentNote (decrypt : EncryptedCounsellingNotePayload → Except Exception String) (note : CounsellingNote) :
    Except Exception PresentedNote :=
  if canReadNote store db note then do
    let text ← decrypt note.payload
    return .plain note.id note.visibility text note.safeSummary note.riskIndicators note.createdAt
  else return .redacted note.id note.visibility note.safeSummary note.createdAt

def getDashboard : Except Exception CounsellingDashboard := do
  assertCounsellingRead store
  let tenantId ← requireTenantId store
  return CounsellingRepository.getCounsellingDashboard store.now db tenantId

def listReferrals (query : ListCounsellingQueryDto) : Except Exception (List CounsellingReferral) := do
  assertCounsellingRead store
  let tenantId ← requireTenantId store
  return CounsellingRepository.listReferrals db tenantId query

def listSessions (query : ListCounsellingQueryDto) : Except Exception (List CounsellingSession) := do
  assertCounsellingRead store
  let tenantId ← requireTenantId store
  return CounsellingRepository.listSessions db tenantId query
    (store.hasPermission "counselling:manage" ∨ store.hasPermission "discipline:manage") store.userId

def listNotes (decrypt : EncryptedCounsellingNotePayload → Except Exception String) (sessionId : String) :
    Except Exception (List PresentedNote) := do
  assertCounsellingRead store
  let session ← requireSession store db sessionId
  let tenantId ← requireTenantId store
  (CounsellingRepository.listNotes db tenantId session.id).mapM (presentNote store db decrypt)

end Reads

end CounsellingService

end ShuleHub.Discipline
