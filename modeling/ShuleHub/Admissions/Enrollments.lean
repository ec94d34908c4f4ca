import ShuleHub.Admissions.Tables

/-! The statements on class sections, academic enrolments, what a class brings with it, and allocations. -/

namespace ShuleHub.Admissions

open Transaction Snapshots KeyedTable

variable (studentId : String) (classSectionId : String) (db : AdmissionsDb)
  (collation : Collation) (className streamName : String) (context : CallContext)

def newestYearFirst (first second : AcademicClassSection) : Prop :=
  ¬ collation.le first.academicYear second.academicYear ∨
    collation.le second.academicYear first.academicYear ∧ second.createdAt ≤ first.createdAt
deriving Decidable

def selectedSection (db : AdmissionsDb) :
    Option AcademicClassSection :=
  ((db.classSections.rows.filter fun row =>
    collation.lower row.className = collation.lower className ∧
      collation.lower row.streamName = collation.lower streamName ∧ row.isActive).insertionSort
    (newestYearFirst collation)).head?

def takesSeat (row : AcademicEnrollment) : Prop :=
  row.classSectionId = some classSectionId ∧ row.status = .active
deriving Decidable

def activeEnrollments : Nat :=
  Table.total (takesSeat classSectionId) (fun _ => 1) db.enrollments.rows

/-- One statement: it waits for the lock on the section, and it counts what was committed when it began. -/
def findAcademicClassSectionForUpdate :
    AdmissionsSession (Option AcademicClassSectionRecord) := do
  let session ← current
  let selected := selectedSection collation className streamName session.tables
  let currentEnrollments ← visibleTotal fun db => selected.elim 0 fun row => activeEnrollments row.id db
  return selected.map fun row => { row with currentEnrollments }

def assertAcademicCapacityAvailable
    (classSection : Option AcademicClassSectionRecord) : Except Exception Unit :=
  match classSection.bind fun row => row.capacity.map fun capacity => (capacity, row.currentEnrollments) with
  | none => return ()
  | some (capacity, currentEnrollments) =>
    failIf (capacity ≤ currentEnrollments)
      (.badRequest s!"Class section \"{className} {streamName}\" is at capacity")

def isActiveOf (row : AcademicEnrollment) : Prop :=
  row.studentId = studentId ∧ row.status = .active
deriving Decidable

def newestFirst (first second : AcademicEnrollment) : Prop :=
  second.enrolledAt < first.enrolledAt ∨
    first.enrolledAt = second.enrolledAt ∧ second.createdAt ≤ first.createdAt
deriving Decidable

def lockedEnrollment (seen db : AdmissionsDb) : Option AcademicEnrollment :=
  ((seen.enrollments.rows.filter fun row => isActiveOf studentId row).insertionSort newestFirst).findSome? fun row =>
    (db.enrollments.find row.id).filter fun row => isActiveOf studentId row

def findActiveAcademicEnrollmentForUpdate : AdmissionsSession (Option AcademicEnrollment) := do
  let seen ← snapshot
  let session ← current
  return lockedEnrollment studentId seen session.tables

structure EnrollmentInput where
  studentId : String
  applicationId : String
  classSectionId : Option String
  className : String
  streamName : String
  academicYear : String

variable (input : EnrollmentInput)

def EnrollmentInput.newRow (context : CallContext) : AcademicEnrollment where
  id := context.newEnrollmentId
  studentId := input.studentId
  applicationId := input.applicationId
  classSectionId := input.classSectionId
  className := input.className
  streamName := input.streamName
  academicYear := input.academicYear
  status := .active
  enrolledAt := context.now
  createdAt := context.now

def EnrollmentInput.takeUp (row : AcademicEnrollment) : AcademicEnrollment :=
  { row with
    applicationId := input.applicationId
    classSectionId := input.classSectionId
    className := input.className
    streamName := input.streamName
    status := .active }

theorem EnrollmentInput.takeUp_id (input : EnrollmentInput) (row : AcademicEnrollment) : (input.takeUp row).id = row.id :=
  rfl

def enrollmentOfYear (studentId academicYear : String) (enrollments : AcademicEnrollments) :
    Option AcademicEnrollment :=
  enrollments.rows.find? fun row => row.studentId = studentId ∧ row.academicYear = academicYear

def createStudentAcademicEnrollment :
    AdmissionsTransaction AcademicEnrollment := do
  failIf (isBlank input.className) (.database "ck_student_academic_enrollments_class_not_blank")
  failIf (isBlank input.streamName) (.database "ck_student_academic_enrollments_stream_not_blank")
  failIf (isBlank input.academicYear) (.database "ck_student_academic_enrollments_year_not_blank")
  let db ← current
  match enrollmentOfYear input.studentId input.academicYear db.enrollments with
  | some row =>
    write fun db => { db with enrollments := db.enrollments.update row.id input.takeUp input.takeUp_id }
    return input.takeUp row
  | none =>
    let enrollments ←
      required (db.enrollments.tryInsert (input.newRow context)) (.database "student_academic_enrollments_pkey")
    write fun db => { db with enrollments }
    return input.newRow context

def closeEnrollment (status : EnrollmentStatus) (row : AcademicEnrollment) : AcademicEnrollment :=
  if row.status = .active then { row with status } else row

theorem closeEnrollment_id (status : EnrollmentStatus) (row : AcademicEnrollment) :
    (closeEnrollment status row).id = row.id := by
  unfold closeEnrollment
  split <;> rfl

def withClosed (enrollmentId : String) (status : EnrollmentStatus) (enrollments : AcademicEnrollments) :
    AcademicEnrollments :=
  enrollments.update enrollmentId (closeEnrollment status) (closeEnrollment_id status)

def completeStudentAcademicEnrollment (enrollmentId : String) (status : EnrollmentStatus) :
    AdmissionsTransaction (Option AcademicEnrollment) := do
  let db ← current
  let updated := (db.enrollments.find enrollmentId).filter fun row => row.status = .active
  write fun db => { db with enrollments := withClosed enrollmentId status db.enrollments }
  return updated.map (closeEnrollment status)

def subjectEnrollment (studentId academicEnrollmentId : String) (offering : AcademicSubjectOffering) :
    SubjectEnrollment where
  studentId
  academicEnrollmentId
  subjectOfferingId := offering.id
  subjectCode := offering.subjectCode
  subjectName := offering.subjectName
  status := .active

def timetableEnrollment (studentId academicEnrollmentId : String) (slot : AcademicTimetableSlot) :
    TimetableEnrollment where
  studentId
  academicEnrollmentId
  timetableSlotId := slot.id
  dayOfWeek := slot.dayOfWeek
  startsAt := slot.startsAt
  endsAt := slot.endsAt
  subjectName := ((slot.subjectOfferingId.bind db.subjectOfferings.find).map (·.subjectName)).getD slot.subjectName
  roomName := slot.roomName
  status := .active

def activeOfferings : List AcademicSubjectOffering :=
  db.subjectOfferings.rows.filter fun offering => offering.classSectionId = classSectionId ∧ offering.isActive

def activeSlots : List AcademicTimetableSlot :=
  db.timetableSlots.rows.filter fun slot => slot.classSectionId = classSectionId ∧ slot.isActive

/-- The rows that are inserted, or put in the place of those of the same student and offering or slot. -/
structure ClassEnrollments where
  subjectEnrollments : List SubjectEnrollment
  timetableEnrollments : List TimetableEnrollment

def classEnrollments (studentId academicEnrollmentId classSectionId : String) (db : AdmissionsDb) : ClassEnrollments where
  subjectEnrollments := (activeOfferings classSectionId db).map (subjectEnrollment studentId academicEnrollmentId)
  timetableEnrollments := (activeSlots classSectionId db).map (timetableEnrollment db studentId academicEnrollmentId)

def ClassEnrollments.putInto (rows : ClassEnrollments) (db : AdmissionsDb) : AdmissionsDb :=
  { db with
    subjectEnrollments := rows.subjectEnrollments.foldl KeyedTable.put db.subjectEnrollments
    timetableEnrollments := rows.timetableEnrollments.foldl KeyedTable.put db.timetableEnrollments }

def enrollStudentSubjectsAndTimetable (studentId academicEnrollmentId classSectionId : String) :
    AdmissionsTransaction ClassEnrollments := do
  let db ← current
  let rows := classEnrollments studentId academicEnrollmentId classSectionId db
  write rows.putInto
  return rows

structure AllocationInput where
  studentId : String
  className : String
  streamName : String
  dormitoryName : Option String
  transportRoute : Option String
  effectiveFrom : String
  notes : Option String

def AllocationInput.newRow (input : AllocationInput) (context : CallContext) : StudentAllocation where
  id := context.newAllocationId
  studentId := input.studentId
  className := input.className
  streamName := input.streamName
  dormitoryName := input.dormitoryName
  transportRoute := input.transportRoute
  effectiveFrom := input.effectiveFrom
  isCurrent := true
  notes := input.notes

def isCurrentOf (row : StudentAllocation) : Prop := row.studentId = studentId ∧ row.isCurrent
deriving Decidable

/-- The rows that the `UPDATE` reaches: those its snapshot shows as current and that still are. -/
def isReached (seen : AdmissionsDb) (row : StudentAllocation) : Prop :=
  isCurrentOf studentId row ∧ ∃ shown ∈ seen.allocations.find row.id, isCurrentOf studentId shown
deriving Decidable

def clearAllocation (seen : AdmissionsDb) (row : StudentAllocation) : StudentAllocation :=
  if isReached studentId seen row then { row with isCurrent := false } else row

theorem clearAllocation_id (studentId : String) (seen : AdmissionsDb) (row : StudentAllocation) :
    (clearAllocation studentId seen row).id = row.id := by
  unfold clearAllocation
  split <;> rfl

def clearAllocations (seen : AdmissionsDb) (allocations : StudentAllocations) :
    StudentAllocations :=
  allocations.modify (clearAllocation studentId seen) (clearAllocation_id studentId seen)

def insertAllocation (input : AllocationInput) : AdmissionsTransaction StudentAllocation := do
  let db ← current
  failIf (db.students.find input.studentId = none) (.database "fk_student_allocations_student")
  let allocations ←
    required (db.allocations.tryInsert (input.newRow context)) (.database "student_allocations_pkey")
  write fun db => { db with allocations }
  return input.newRow context

def createAllocation (input : AllocationInput) : AdmissionsSession StudentAllocation := do
  let seen ← snapshot
  onTables do
    write fun db => { db with allocations := clearAllocations input.studentId seen db.allocations }
    insertAllocation context input

def findCurrentAllocationByStudentId : AdmissionsSession (Option StudentAllocation) := do
  let seen ← snapshot
  return ((seen.allocations.rows.filter fun row => isCurrentOf studentId row).insertionSort
    fun first second => second.effectiveFrom ≤ first.effectiveFrom).head?

section Statements

variable {collation : Collation} {context : CallContext} {session later : Session AdmissionsDb} {db after : AdmissionsDb}
  {className streamName studentId : String} {classSection : Option AcademicClassSectionRecord}

theorem findAcademicClassSectionForUpdate_ok (unchanged : session.tables = session.committed)
    (ran : (findAcademicClassSectionForUpdate collation className streamName).run session =
      .ok (classSection, later)) :
    ((selectedSection collation className streamName session.tables).map fun row =>
      { row with currentEnrollments := activeEnrollments row.id (session.snapshots.headD session.committed) }) =
        classSection ∧ session.rest = later := by
  simp only [findAcademicClassSectionForUpdate, run_bind_ok, run_current_ok, run_pure_ok, visibleTotal_ok] at ran
  obtain ⟨_, _, ⟨rfl, rfl⟩, _, _, ⟨rfl, rfl⟩, rfl, rfl⟩ := ran
  refine ⟨?_, rfl⟩
  cases selectedSection collation className streamName session.tables with
  | none => rfl
  | some row => simp [unchanged]

theorem assertAcademicCapacityAvailable_ok {result : Unit} :
    assertAcademicCapacityAvailable className streamName classSection = .ok result ↔
      ∀ row ∈ classSection, ∀ capacity ∈ row.capacity, row.currentEnrollments < capacity := by
  cases classSection with
  | none => simp [assertAcademicCapacityAvailable]
  | some row => cases limit : row.capacity <;> simp [assertAcademicCapacityAvailable, limit]

theorem lockedEnrollment_some {seen : AdmissionsDb} {row : AcademicEnrollment}
    (locked : lockedEnrollment studentId seen db = some row) :
    db.enrollments.find row.id = some row ∧ isActiveOf studentId row := by
  obtain ⟨shown, -, found⟩ := List.exists_of_findSome?_eq_some locked
  obtain ⟨present, active⟩ := Option.filter_eq_some_iff.mp found
  have key : row.id = shown.id := ((find_eq_some _).mp present).2
  exact ⟨key ▸ present, by simpa using active⟩

theorem findActiveAcademicEnrollmentForUpdate_ok {enrollment : Option AcademicEnrollment} :
    (findActiveAcademicEnrollmentForUpdate studentId).run session = .ok (enrollment, later) ↔
      lockedEnrollment studentId (session.snapshots.headD session.committed) session.tables = enrollment ∧
        session.rest = later := by
  simp only [findActiveAcademicEnrollmentForUpdate, run_bind_ok, run_current_ok, run_pure_ok, snapshot_ok]
  constructor
  · rintro ⟨_, _, ⟨rfl, rfl⟩, _, _, ⟨rfl, rfl⟩, rfl, rfl⟩
    exact ⟨rfl, rfl⟩
  · rintro ⟨rfl, rfl⟩
    exact ⟨_, _, ⟨rfl, rfl⟩, _, _, ⟨rfl, rfl⟩, rfl, rfl⟩

inductive Enrolled (context : CallContext) (input : EnrollmentInput) (enrollments : AcademicEnrollments) :
    AcademicEnrollment → AcademicEnrollments → Prop
  | again (row : AcademicEnrollment)
    (found : enrollmentOfYear input.studentId input.academicYear enrollments = some row) :
    Enrolled context input enrollments (input.takeUp row) (enrollments.update row.id input.takeUp input.takeUp_id)
  | afresh (absent : enrollmentOfYear input.studentId input.academicYear enrollments = none)
    (fresh : ∀ row ∈ enrollments.rows, row.id ≠ (input.newRow context).id) :
    Enrolled context input enrollments (input.newRow context) (enrollments.insert (input.newRow context) fresh)

theorem createStudentAcademicEnrollment_ok {input : EnrollmentInput} {enrollment : AcademicEnrollment}
    (ran : (createStudentAcademicEnrollment context input).run db = .ok (enrollment, after)) :
    ¬ isBlank input.academicYear ∧
      ∃ enrollments, Enrolled context input db.enrollments enrollment enrollments ∧ after = { db with enrollments } := by
  simp only [createStudentAcademicEnrollment, run_bind_ok, run_failIf_ok, run_current_ok] at ran
  obtain ⟨_, _, ⟨-, rfl⟩, _, _, ⟨-, rfl⟩, _, _, ⟨year, rfl⟩, _, _, ⟨rfl, rfl⟩, ran⟩ := ran
  refine ⟨year, ?_⟩
  split at ran
  · next row found =>
    simp only [run_bind_ok, run_write_ok, run_pure_ok] at ran
    obtain ⟨_, _, rfl, rfl, rfl⟩ := ran
    exact ⟨_, .again row found, rfl⟩
  · next absent =>
    simp only [run_bind_ok, run_required_ok, run_write_ok, run_pure_ok, tryInsert_eq_some] at ran
    obtain ⟨_, _, ⟨⟨fresh, rfl⟩, rfl⟩, _, _, rfl, rfl, rfl⟩ := ran
    exact ⟨_, .afresh absent fresh, rfl⟩

theorem completeStudentAcademicEnrollment_ok {enrollmentId : String} {status : EnrollmentStatus}
    {row : Option AcademicEnrollment} :
    (completeStudentAcademicEnrollment enrollmentId status).run db = .ok (row, after) ↔
      ((db.enrollments.find enrollmentId).filter fun row => row.status = .active).map (closeEnrollment status) = row ∧
        { db with enrollments := withClosed enrollmentId status db.enrollments } = after := by
  simp only [completeStudentAcademicEnrollment, run_bind_ok, run_current_ok, run_write_ok, run_pure_ok]
  constructor
  · rintro ⟨_, _, ⟨rfl, rfl⟩, _, _, rfl, rfl, rfl⟩
    exact ⟨rfl, rfl⟩
  · rintro ⟨rfl, rfl⟩
    exact ⟨_, _, ⟨rfl, rfl⟩, (), _, rfl, rfl, rfl⟩

theorem enrollStudentSubjectsAndTimetable_ok {academicEnrollmentId classSectionId : String}
    {rows : ClassEnrollments} :
    (enrollStudentSubjectsAndTimetable studentId academicEnrollmentId classSectionId).run db = .ok (rows, after) ↔
      classEnrollments studentId academicEnrollmentId classSectionId db = rows ∧ rows.putInto db = after := by
  simp only [enrollStudentSubjectsAndTimetable, run_bind_ok, run_current_ok, run_write_ok, run_pure_ok]
  constructor
  · rintro ⟨_, _, ⟨rfl, rfl⟩, _, _, rfl, rfl, rfl⟩
    exact ⟨rfl, rfl⟩
  · rintro ⟨rfl, rfl⟩
    exact ⟨_, _, ⟨rfl, rfl⟩, (), _, rfl, rfl, rfl⟩

def Allocated (context : CallContext) (input : AllocationInput) (seen : AdmissionsDb)
    (allocations after : StudentAllocations) : Prop :=
  ∃ fresh, after = (clearAllocations input.studentId seen allocations).insert (input.newRow context) fresh

theorem createAllocation_ok {input : AllocationInput} {allocation : StudentAllocation}
    (ran : (createAllocation context input).run session = .ok (allocation, later)) :
    session.tables.students.find input.studentId ≠ none ∧
      ∃ allocations, Allocated context input (session.snapshots.headD session.committed) session.tables.allocations
          allocations ∧
        later = { session.rest with tables := { session.tables with allocations } } := by
  simp only [createAllocation, insertAllocation, run_bind_ok, snapshot_ok, run_onTables_ok, run_write_ok,
    run_current_ok, run_failIf_ok, run_required_ok, run_pure_ok, tryInsert_eq_some] at ran
  obtain ⟨_, _, ⟨rfl, rfl⟩, after, ⟨_, _, rfl, _, _, ⟨rfl, rfl⟩, _, _, ⟨student, rfl⟩, _, _, ⟨⟨fresh, rfl⟩, rfl⟩, _, _,
    rfl, rfl, rfl⟩, rfl⟩ := ran
  exact ⟨student, _, ⟨fresh, rfl⟩, rfl⟩

end Statements

end ShuleHub.Admissions
