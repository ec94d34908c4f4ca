import ShuleHub.Runtime
import ShuleHub.Lib.JsDate
import ShuleHub.Lib.KeyedTable
import ShuleHub.Lib.Snapshots

/-! The admissions of one school: the applications, the students they became, the class sections with what is taught
in them, and where each student is enrolled and allocated. -/

namespace ShuleHub.Admissions

open Transaction Snapshots

structure AdmissionApplication where
  id : String
  fullName : String
  dateOfBirth : String
  gender : String
  nationality : String
  previousSchool : Option String
  kcpeResults : Option String
  cbcLevel : Option String
  classApplying : String
  parentName : String
  parentPhone : String
  parentEmail : Option String
  parentOccupation : Option String
  relationship : String
  allergies : Option String
  conditions : Option String
  emergencyContact : Option String
  status : String
  interviewDate : Option String
  reviewNotes : Option String
  approvedAt : Option Int
  admittedStudentId : Option String

/-- What `metadata.admissions` of a student tells about its application. -/
structure StudentAdmission where
  applicationId : String
  classApplying : String
  previousSchool : Option String
  kcpeResults : Option String
  cbcLevel : Option String
  nationality : String
  allergies : Option String
  conditions : Option String
  emergencyContact : Option String
  parentName : String
  parentEmail : Option String
  parentOccupation : Option String
  relationship : String
deriving DecidableEq

/-- A row of `students`, with the part of its metadata that admissions write. -/
structure StudentEntity where
  id : String
  admissionNumber : String
  firstName : String
  lastName : String
  middleName : Option String
  status : String
  dateOfBirth : Option String
  gender : Option String
  primaryGuardianName : Option String
  primaryGuardianPhone : Option String
  admission : Option StudentAdmission
deriving DecidableEq

structure AcademicClassSection where
  id : String
  className : String
  streamName : String
  academicYear : String
  capacity : Option Nat
  isActive : Bool
  createdAt : Int
  capacityPositive : capacity ≠ some 0
deriving DecidableEq

structure AcademicClassSectionRecord extends AcademicClassSection where
  currentEnrollments : Nat

structure AcademicSubjectOffering where
  id : String
  classSectionId : String
  subjectCode : String
  subjectName : String
  isActive : Bool

structure AcademicTimetableSlot where
  id : String
  classSectionId : String
  subjectOfferingId : Option String
  dayOfWeek : String
  startsAt : String
  endsAt : String
  subjectName : String
  roomName : Option String
  isActive : Bool

inductive EnrollmentStatus where
  | active
  | completed
  | transferred
  | withdrawn
deriving DecidableEq

structure AcademicEnrollment where
  id : String
  studentId : String
  applicationId : String
  classSectionId : Option String
  className : String
  streamName : String
  academicYear : String
  status : EnrollmentStatus
  enrolledAt : Int
  createdAt : Int
deriving DecidableEq

inductive ParticipationStatus where
  | active
  | completed
  | dropped
deriving DecidableEq

structure SubjectEnrollment where
  studentId : String
  academicEnrollmentId : String
  subjectOfferingId : String
  subjectCode : String
  subjectName : String
  status : ParticipationStatus

structure TimetableEnrollment where
  studentId : String
  academicEnrollmentId : String
  timetableSlotId : String
  dayOfWeek : String
  startsAt : String
  endsAt : String
  subjectName : String
  roomName : Option String
  status : ParticipationStatus

structure StudentAllocation where
  id : String
  studentId : String
  className : String
  streamName : String
  dormitoryName : Option String
  transportRoute : Option String
  effectiveFrom : String
  isCurrent : Bool
  notes : Option String
deriving DecidableEq

inductive AcademicLifecycleAction where
  | promotion
  | graduation
  | archive
deriving DecidableEq

structure AcademicLifecycleEvent where
  id : String
  studentId : String
  sourceEnrollmentId : String
  targetEnrollmentId : Option String
  eventType : AcademicLifecycleAction
  fromClassName : String
  fromStreamName : String
  fromAcademicYear : String
  toClassSectionId : Option String
  toClassName : Option String
  toStreamName : Option String
  toAcademicYear : Option String
  reason : String
  notes : Option String
  createdByUserId : Option String

abbrev AcademicEnrollments := KeyedTable AcademicEnrollment String (·.id)

abbrev StudentAllocations := KeyedTable StudentAllocation String (·.id)

structure AdmissionsDb where
  applications : KeyedTable AdmissionApplication String (·.id)
  students : KeyedTable StudentEntity String (·.id)
  classSections : KeyedTable AcademicClassSection String (·.id)
  subjectOfferings : KeyedTable AcademicSubjectOffering String (·.id)
  timetableSlots : KeyedTable AcademicTimetableSlot String (·.id)
  enrollments : AcademicEnrollments
  subjectEnrollments : KeyedTable SubjectEnrollment (String × String) fun row => (row.studentId, row.subjectOfferingId)
  timetableEnrollments : KeyedTable TimetableEnrollment (String × String) fun row =>
    (row.studentId, row.timetableSlotId)
  allocations : StudentAllocations
  lifecycleEvents : KeyedTable AcademicLifecycleEvent String (·.id)

def AdmissionsDb.empty : AdmissionsDb where
  applications := .empty
  students := .empty
  classSections := .empty
  subjectOfferings := .empty
  timetableSlots := .empty
  enrollments := .empty
  subjectEnrollments := .empty
  timetableEnrollments := .empty
  allocations := .empty
  lifecycleEvents := .empty

abbrev AdmissionsTransaction := Transaction AdmissionsDb Exception

abbrev AdmissionsSession := Transaction (Session AdmissionsDb) Exception

structure Collation where
  lower : String → String
  le : String → String → Bool

/-- How the other services that a registration calls come out. What they write is in none of the tables above. -/
structure ServiceOutcomes where
  assertActiveStudentLimit : Except Exception Unit
  recordUsage : Except Exception Unit
  inviteParentPortalUser : Except Exception Unit
  linkParentGuardian : Except Exception Unit
  assignRegistrationFees : Except Exception Unit

/-- What a call takes from outside: the user, `NOW()` of the database, `new Date()` of the service, the generated ids
and the other services. -/
structure CallContext where
  userId : Option String
  now : Int
  date : Int
  newStudentId : String
  newEnrollmentId : String
  newAllocationId : String
  newLifecycleEventId : String
  services : ServiceOutcomes

def CallContext.utcFullYear (context : CallContext) : String :=
  toString (JsDate.civilFromDays (context.date / 86400000)).year

def CallContext.today (context : CallContext) : String :=
  String.ofList ((JsDate.toISOString context.date).toList.take 10)

def nullableText (value : Option String) : Option String := readString value

end ShuleHub.Admissions
