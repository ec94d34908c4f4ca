import ShuleHub.Admissions.Enrollments

/-! The review of an application, and its registration, which makes the applicant a student with an enrolment and an
allocation. -/

namespace ShuleHub.Admissions

open Transaction Snapshots

variable (context : CallContext)

def requireApplication (applicationId : String) : AdmissionsTransaction AdmissionApplication := do
  let db ← current
  required (db.applications.find applicationId)
    (.notFound s!"Admission application \"{applicationId}\" was not found")

structure UpdateApplicationDto where
  status : Option String
  reviewNotes : Option String
  interviewDate : Option String

def reviewed (dto : UpdateApplicationDto) (application : AdmissionApplication) :
    AdmissionApplication :=
  { application with
    status := (dto.status.map JsText.trim).getD application.status
    approvedAt := if dto.status.map JsText.trim = some "approved" then some context.now else application.approvedAt
    reviewNotes := (dto.reviewNotes.map JsText.trim).or application.reviewNotes
    interviewDate := dto.interviewDate.or application.interviewDate }

theorem reviewed_id (context : CallContext) (dto : UpdateApplicationDto) (application : AdmissionApplication) :
    (reviewed context dto application).id = application.id :=
  rfl

def updateApplication (applicationId : String) (dto : UpdateApplicationDto) :
    AdmissionsTransaction AdmissionApplication := do
  let application ← requireApplication applicationId
  write fun db => { db with applications := db.applications.update applicationId (reviewed context dto) (reviewed_id context dto) }
  return reviewed context dto application

structure NameParts where
  firstName : String
  middleName : Option String
  lastName : String
deriving DecidableEq, Repr

def splitName (fullName : String) : NameParts :=
  match ((JsText.trim fullName).toList.splitOnP JsText.isSpace).filter (· ≠ []) with
  | [] => ⟨"", none, ""⟩
  | [only] => ⟨String.ofList only, none, String.ofList only⟩
  | [first, last] => ⟨String.ofList first, none, String.ofList last⟩
  | first :: second :: third :: rest =>
    ⟨String.ofList first, some (String.ofList ([' '].intercalate (second :: third :: rest).dropLast)),
      String.ofList ((third :: rest).getLast (List.cons_ne_nil _ _))⟩

example : splitName " Amina  Wanjiru\tNjeri Otieno " = ⟨"Amina", some "Wanjiru Njeri", "Otieno"⟩ := by decide +kernel

def mapApplicationGender (gender : String) : Option String :=
  let normalized := String.ofList ((JsText.trim gender).toList.map Char.toLower)
  if normalized ∈ ["male", "female", "other", "undisclosed"] then some normalized else none

structure CreateStudentDto where
  admissionNumber : String
  firstName : String
  lastName : String
  middleName : Option String
  status : String
  dateOfBirth : Option String
  gender : Option String
  primaryGuardianName : Option String
  primaryGuardianPhone : Option String
  admission : Option StudentAdmission

def CreateStudentDto.newRow (dto : CreateStudentDto) (context : CallContext) : StudentEntity where
  id := context.newStudentId
  admissionNumber := JsText.trim dto.admissionNumber
  firstName := JsText.trim dto.firstName
  lastName := JsText.trim dto.lastName
  middleName := nullableText dto.middleName
  status := dto.status
  dateOfBirth := dto.dateOfBirth
  gender := dto.gender
  primaryGuardianName := nullableText dto.primaryGuardianName
  primaryGuardianPhone := nullableText dto.primaryGuardianPhone
  admission := dto.admission

def createStudent (dto : CreateStudentDto) : AdmissionsTransaction StudentEntity := do
  monadLift context.services.assertActiveStudentLimit
  let student := dto.newRow context
  failIf (isBlank student.admissionNumber) (.database "ck_students_admission_number_not_blank")
  failIf (isBlank student.firstName) (.database "ck_students_first_name_not_blank")
  failIf (isBlank student.lastName) (.database "ck_students_last_name_not_blank")
  let db ← current
  failIf (∃ row ∈ db.students.rows, row.admissionNumber = student.admissionNumber)
    (.conflict "student admission number already exists in this tenant")
  let students ← required (db.students.tryInsert student) (.database "students_pkey")
  write fun db => { db with students }
  monadLift context.services.recordUsage
  return student

def getStudent (studentId : String) : AdmissionsTransaction StudentEntity := do
  let db ← current
  required (db.students.find studentId) (.notFound s!"Student \"{studentId}\" was not found")

structure RegisterApplicationDto where
  admissionNumber : String
  className : String
  streamName : String
  dormitoryName : Option String
  transportRoute : Option String

def studentOf (application : AdmissionApplication) (dto : RegisterApplicationDto) : CreateStudentDto :=
  let nameParts := splitName application.fullName
  { admissionNumber := JsText.trim dto.admissionNumber
    firstName := nameParts.firstName
    lastName := nameParts.lastName
    middleName := nameParts.middleName
    status := "active"
    dateOfBirth := some application.dateOfBirth
    gender := mapApplicationGender application.gender
    primaryGuardianName := some application.parentName
    primaryGuardianPhone := some application.parentPhone
    admission := some
      { applicationId := application.id
        classApplying := application.classApplying
        previousSchool := application.previousSchool
        kcpeResults := application.kcpeResults
        cbcLevel := application.cbcLevel
        nationality := application.nationality
        allergies := application.allergies
        conditions := application.conditions
        emergencyContact := application.emergencyContact
        parentName := application.parentName
        parentEmail := application.parentEmail
        parentOccupation := application.parentOccupation
        relationship := application.relationship } }

def registered (studentId : String) (application : AdmissionApplication) : AdmissionApplication :=
  { application with status := "registered", admittedStudentId := some studentId }

theorem registered_id (studentId : String) (application : AdmissionApplication) :
    (registered studentId application).id = application.id :=
  rfl

def markApplicationRegistered (applicationId studentId : String) : AdmissionsTransaction Unit :=
  write fun db => { db with
    applications := db.applications.update applicationId (registered studentId) (registered_id studentId) }

def enrollmentInput (applicationId studentId className streamName : String)
    (classSection : Option AcademicClassSection) : EnrollmentInput where
  studentId
  applicationId
  classSectionId := classSection.map (·.id)
  className
  streamName
  academicYear := (classSection.map (·.academicYear)).getD context.utcFullYear

def createAcademicEnrollment (applicationId studentId className streamName : String)
    (classSection : Option AcademicClassSection) : AdmissionsTransaction AcademicEnrollment :=
  createStudentAcademicEnrollment context
    (enrollmentInput context applicationId studentId className streamName classSection)

def enrollSubjectsAndTimetable (studentId academicEnrollmentId : String)
    (classSection : Option AcademicClassSection) : AdmissionsTransaction ClassEnrollments :=
  match classSection with
  | none => return ⟨[], []⟩
  | some row => enrollStudentSubjectsAndTimetable studentId academicEnrollmentId row.id

structure RegistrationResult where
  student : StudentEntity
  allocation : Option StudentAllocation
  academicEnrollment : Option AcademicEnrollment
  subjectEnrollments : List SubjectEnrollment
  timetableEnrollments : List TimetableEnrollment
  applicationStatus : String

def admittedStudent (application : AdmissionApplication) : Option String :=
  if application.status = "registered" then application.admittedStudentId else none

def repeatRegistration (studentId : String) : AdmissionsSession RegistrationResult := do
  let student ← onTables (getStudent studentId)
  let allocation ← findCurrentAllocationByStudentId studentId
  return {
    student
    allocation
    academicEnrollment := none
    subjectEnrollments := []
    timetableEnrollments := []
    applicationStatus := "registered" }

def registrationAllocation (studentId className streamName : String)
    (dto : RegisterApplicationDto) : AllocationInput where
  studentId
  className
  streamName
  dormitoryName := nullableText dto.dormitoryName
  transportRoute := nullableText dto.transportRoute
  effectiveFrom := context.today
  notes := none

def inviteAndAssignFees : Except Exception Unit := do
  context.services.inviteParentPortalUser
  context.services.linkParentGuardian
  context.services.assignRegistrationFees

def registerApplicant (collation : Collation) (context : CallContext) (application : AdmissionApplication)
    (dto : RegisterApplicationDto) : AdmissionsSession RegistrationResult := do
  let className := JsText.trim dto.className
  let streamName := JsText.trim dto.streamName
  let academicClassSection ← findAcademicClassSectionForUpdate collation className streamName
  monadLift (assertAcademicCapacityAvailable className streamName academicClassSection)
  let classSection := academicClassSection.map (·.toAcademicClassSection)
  let student ← onTables (createStudent context (studentOf application dto))
  onTables (markApplicationRegistered application.id student.id)
  let allocation ← createAllocation context (registrationAllocation context student.id className streamName dto)
  let academicEnrollment ← onTables
    (createAcademicEnrollment context application.id student.id className streamName classSection)
  let enrolled ← onTables (enrollSubjectsAndTimetable student.id academicEnrollment.id classSection)
  monadLift (inviteAndAssignFees context)
  return {
    student
    allocation := some allocation
    academicEnrollment := some academicEnrollment
    subjectEnrollments := enrolled.subjectEnrollments
    timetableEnrollments := enrolled.timetableEnrollments
    applicationStatus := "registered" }

def registerApprovedApplication (collation : Collation) (context : CallContext) (applicationId : String)
    (dto : RegisterApplicationDto) : AdmissionsSession RegistrationResult := do
  let application ← onTables (requireApplication applicationId)
  match admittedStudent application with
  | some studentId => repeatRegistration studentId
  | none =>
    failIf (application.status ≠ "approved") (.badRequest "Only approved applications can be registered")
    registerApplicant collation context application dto

section Outcomes

variable {collation : Collation} {context : CallContext} {session later : Session AdmissionsDb} {db after : AdmissionsDb}
  {applicationId studentId : String} {application : AdmissionApplication} {dto : RegisterApplicationDto}
  {student : StudentEntity} {result : RegistrationResult}

theorem requireApplication_ok :
    (requireApplication applicationId).run db = .ok (application, after) ↔
      db.applications.find applicationId = some application ∧ db = after := by
  simp only [requireApplication, run_bind_ok, run_current_ok, run_required_ok]
  constructor
  · rintro ⟨_, _, ⟨rfl, rfl⟩, found, rfl⟩
    exact ⟨found, rfl⟩
  · rintro ⟨found, rfl⟩
    exact ⟨_, _, ⟨rfl, rfl⟩, found, rfl⟩

theorem updateApplication_ok {dto : UpdateApplicationDto}
    (ran : (updateApplication context applicationId dto).run db = .ok (application, after)) :
    after = { db with applications := db.applications.update applicationId (reviewed context dto) (reviewed_id context dto) } := by
  simp only [updateApplication, run_bind_ok, requireApplication_ok, run_write_ok, run_pure_ok] at ran
  obtain ⟨_, _, ⟨-, rfl⟩, _, _, rfl, -, rfl⟩ := ran
  rfl

theorem getStudent_ok :
    (getStudent studentId).run db = .ok (student, after) ↔ db.students.find studentId = some student ∧ db = after := by
  simp only [getStudent, run_bind_ok, run_current_ok, run_required_ok]
  constructor
  · rintro ⟨_, _, ⟨rfl, rfl⟩, found, rfl⟩
    exact ⟨found, rfl⟩
  · rintro ⟨found, rfl⟩
    exact ⟨_, _, ⟨rfl, rfl⟩, found, rfl⟩

theorem createStudent_ok {dto : CreateStudentDto}
    (ran : (createStudent context dto).run db = .ok (student, after)) :
    student = dto.newRow context ∧
      ∃ fresh, after = { db with students := db.students.insert (dto.newRow context) fresh } := by
  simp only [createStudent, run_bind_ok, run_lift_ok, run_failIf_ok, run_current_ok, run_required_ok, run_write_ok,
    run_pure_ok, KeyedTable.tryInsert_eq_some] at ran
  obtain ⟨_, _, ⟨-, rfl⟩, _, _, ⟨-, rfl⟩, _, _, ⟨-, rfl⟩, _, _, ⟨-, rfl⟩, _, _, ⟨rfl, rfl⟩, _, _, ⟨-, rfl⟩, _, _,
    ⟨⟨fresh, rfl⟩, rfl⟩, _, _, rfl, _, _, ⟨-, rfl⟩, rfl, rfl⟩ := ran
  exact ⟨rfl, fresh, rfl⟩

def takenClasses (studentId academicEnrollmentId : String) (classSection : Option AcademicClassSection)
    (db : AdmissionsDb) : ClassEnrollments :=
  classSection.elim ⟨[], []⟩ fun row => classEnrollments studentId academicEnrollmentId row.id db

theorem enrollSubjectsAndTimetable_ok {academicEnrollmentId : String}
    {classSection : Option AcademicClassSection} {rows : ClassEnrollments}
    (ran : (enrollSubjectsAndTimetable studentId academicEnrollmentId classSection).run db = .ok (rows, after)) :
    after = (takenClasses studentId academicEnrollmentId classSection db).putInto db := by
  cases classSection with
  | none => exact (run_pure_ok.mp ran).2.symm
  | some row =>
    obtain ⟨rfl, rfl⟩ := enrollStudentSubjectsAndTimetable_ok.mp ran
    rfl

def RegisterApplicationDto.classSection (dto : RegisterApplicationDto) (collation : Collation) (db : AdmissionsDb) :
    Option AcademicClassSection :=
  selectedSection collation (JsText.trim dto.className) (JsText.trim dto.streamName) db

/-- What a first registration does, when it counted the seats on `counted` and cleared allocations on `cleared`. -/
structure Registered (collation : Collation) (context : CallContext) (application : AdmissionApplication)
    (dto : RegisterApplicationDto) (counted cleared db : AdmissionsDb) (student : StudentEntity)
    (after : AdmissionsDb) : Prop where
  row : student = (studentOf application dto).newRow context
  seats : ∀ row ∈ dto.classSection collation db, ∀ capacity ∈ row.capacity, activeEnrollments row.id counted < capacity
  written : ∃ fresh allocations enrollment enrollments,
    Allocated context
      (registrationAllocation context student.id (JsText.trim dto.className) (JsText.trim dto.streamName) dto) cleared
      db.allocations allocations ∧
    Enrolled context
      (enrollmentInput context application.id student.id (JsText.trim dto.className) (JsText.trim dto.streamName)
        (dto.classSection collation db)) db.enrollments enrollment enrollments ∧
    after = (takenClasses student.id enrollment.id (dto.classSection collation db) db).putInto { db with
      students := db.students.insert student fresh
      applications := db.applications.update application.id (registered student.id) (registered_id student.id)
      allocations
      enrollments }

theorem registerApplicant_ok (unchanged : session.tables = session.committed)
    (ran : (registerApplicant collation context application dto).run session = .ok (result, later)) :
    Registered collation context application dto (session.snapshots.headD session.committed)
      (session.rest.snapshots.headD session.committed) session.tables result.student later.tables := by
  simp only [registerApplicant, run_bind_ok, run_lift_ok, run_onTables_ok, markApplicationRegistered, run_write_ok,
    run_pure_ok, assertAcademicCapacityAvailable_ok] at ran
  obtain ⟨classSection, _, found, _, _, ⟨seats, rfl⟩, student, _, ⟨_, created, rfl⟩, _, _, ⟨_, rfl, rfl⟩, allocation, _,
    allocating, enrollment, _, ⟨enrolled, enrolling, rfl⟩, _, _, ⟨_, takes, rfl⟩, _, _, ⟨-, rfl⟩, rfl, rfl⟩ := ran
  obtain ⟨rfl, rfl⟩ := findAcademicClassSectionForUpdate_ok unchanged found
  obtain ⟨row, fresh, rfl⟩ := createStudent_ok created
  obtain ⟨-, allocations, allocates, rfl⟩ := createAllocation_ok allocating
  obtain ⟨-, enrollments, enrols, rfl⟩ := createStudentAcademicEnrollment_ok enrolling
  obtain rfl := enrollSubjectsAndTimetable_ok takes
  have section_eq : ((dto.classSection collation session.tables).map fun row : AcademicClassSection =>
      ({ row with currentEnrollments := activeEnrollments row.id (session.snapshots.headD session.committed) } :
        AcademicClassSectionRecord)).map (·.toAcademicClassSection) = dto.classSection collation session.tables := by
    cases dto.classSection collation session.tables <;> rfl
  refine ⟨row, ?_, ?_⟩
  · intro classSection chosen capacity limit
    exact seats _ (Option.mem_map_of_mem _ chosen) capacity limit
  · subst row
    rw [← section_eq]
    exact ⟨fresh, allocations, enrollment, enrollments, allocates, enrols, rfl⟩

theorem registerApprovedApplication_ok {registeredId : String} (unchanged : session.tables = session.committed)
    (ran : (registerApprovedApplication collation context registeredId dto).run session = .ok (result, later)) :
    ∃ application, session.tables.applications.find registeredId = some application ∧
      (admittedStudent application = some result.student.id ∧ later.tables = session.tables ∨
        application.status = "approved" ∧
          Registered collation context application dto (session.snapshots.headD session.committed)
            (session.rest.snapshots.headD session.committed) session.tables result.student later.tables) := by
  simp only [registerApprovedApplication, run_bind_ok, run_onTables_ok, requireApplication_ok] at ran
  obtain ⟨application, _, ⟨_, ⟨found, rfl⟩, rfl⟩, ran⟩ := ran
  refine ⟨application, found, ?_⟩
  split at ran
  · next studentId admitted =>
    simp only [repeatRegistration, findCurrentAllocationByStudentId, run_bind_ok, run_onTables_ok, getStudent_ok,
      snapshot_ok, run_pure_ok] at ran
    obtain ⟨student, _, ⟨_, ⟨stored, rfl⟩, rfl⟩, _, _, ⟨_, _, ⟨rfl, rfl⟩, rfl, rfl⟩, rfl, rfl⟩ := ran
    refine .inl ⟨?_, rfl⟩
    rw [admitted, ((KeyedTable.find_eq_some _).mp stored).2]
  · simp only [run_bind_ok, run_failIf_ok] at ran
    obtain ⟨_, _, ⟨approved, rfl⟩, ran⟩ := ran
    exact .inr ⟨not_not.mp approved, registerApplicant_ok unchanged ran⟩

end Outcomes

end ShuleHub.Admissions
