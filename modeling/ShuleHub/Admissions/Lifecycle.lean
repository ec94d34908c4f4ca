import ShuleHub.Admissions.Registration

/-! How a student moves on: promotion into another class, graduation and archiving. Also the calls on admissions as
the requests of their runs. -/

namespace ShuleHub.Admissions

open Transaction Snapshots

variable (context : CallContext) (studentId : String) (collation : Collation)

structure AdvanceAcademicLifecycleDto where
  action : String
  className : Option String
  streamName : Option String
  reason : Option String
  notes : Option String

structure LifecycleResult where
  lifecycleEvent : AcademicLifecycleEvent
  previousAcademicEnrollment : AcademicEnrollment
  academicEnrollment : Option AcademicEnrollment
  allocation : Option StudentAllocation
  subjectEnrollments : List SubjectEnrollment
  timetableEnrollments : List TimetableEnrollment
  studentStatus : String

def parseAcademicLifecycleAction (action : String) : Except Exception AcademicLifecycleAction :=
  match JsText.trim action with
  | "promotion" => return .promotion
  | "graduation" => return .graduation
  | "archive" => return .archive
  | _ => fail (.badRequest "Academic lifecycle action must be promotion, graduation, or archive")

def normalizeLifecycleReason (reason : Option String) : String :=
  (nullableText reason).getD "Academic lifecycle change"

def requireActiveAcademicEnrollment : AdmissionsSession AcademicEnrollment := do
  let activeEnrollment ← findActiveAcademicEnrollmentForUpdate studentId
  required activeEnrollment (.badRequest s!"No active academic enrollment found for student \"{studentId}\"")

def leavingEvent (sourceEnrollment : AcademicEnrollment) (eventType : AcademicLifecycleAction)
    (dto : AdvanceAcademicLifecycleDto) : AcademicLifecycleEvent where
  id := context.newLifecycleEventId
  studentId := sourceEnrollment.studentId
  sourceEnrollmentId := sourceEnrollment.id
  targetEnrollmentId := none
  eventType
  fromClassName := sourceEnrollment.className
  fromStreamName := sourceEnrollment.streamName
  fromAcademicYear := sourceEnrollment.academicYear
  toClassSectionId := none
  toClassName := none
  toStreamName := none
  toAcademicYear := none
  reason := normalizeLifecycleReason dto.reason
  notes := nullableText dto.notes
  createdByUserId := context.userId

def promotionEvent (sourceEnrollment targetEnrollment : AcademicEnrollment)
    (targetClassSection : Option AcademicClassSection) (dto : AdvanceAcademicLifecycleDto) : AcademicLifecycleEvent :=
  { leavingEvent context sourceEnrollment .promotion dto with
    targetEnrollmentId := some targetEnrollment.id
    toClassSectionId := targetClassSection.map (·.id)
    toClassName := some targetEnrollment.className
    toStreamName := some targetEnrollment.streamName
    toAcademicYear := some targetEnrollment.academicYear }

def createStudentAcademicLifecycleEvent (event : AcademicLifecycleEvent) :
    AdmissionsTransaction AcademicLifecycleEvent := do
  let db ← current
  let lifecycleEvents ←
    required (db.lifecycleEvents.tryInsert event) (.database "student_academic_lifecycle_events_pkey")
  write fun db => { db with lifecycleEvents }
  return event

def withStatus (status : String) (student : StudentEntity) : StudentEntity := { student with status }

theorem withStatus_id (status : String) (student : StudentEntity) : (withStatus status student).id = student.id := rfl

def updateStudentStatus (studentId status : String) : AdmissionsTransaction StudentEntity := do
  let student ← getStudent studentId
  write fun db => { db with students := db.students.update studentId (withStatus status) (withStatus_id status) }
  return withStatus status student

def promotionAllocation (studentId className streamName : String)
    (dto : AdvanceAcademicLifecycleDto) : AllocationInput where
  studentId
  className
  streamName
  dormitoryName := none
  transportRoute := none
  effectiveFrom := context.today
  notes := some (normalizeLifecycleReason dto.reason)

def moveToSection (activeEnrollment : AcademicEnrollment)
    (className streamName : String) (targetClassSection : Option AcademicClassSection)
    (dto : AdvanceAcademicLifecycleDto) : AdmissionsSession LifecycleResult := do
  let completedEnrollment ← onTables (completeStudentAcademicEnrollment activeEnrollment.id .completed)
  let nextEnrollment ← onTables
    (createAcademicEnrollment context activeEnrollment.applicationId studentId className streamName targetClassSection)
  let enrolled ← onTables (enrollSubjectsAndTimetable studentId nextEnrollment.id targetClassSection)
  let allocation ← createAllocation context (promotionAllocation context studentId className streamName dto)
  let lifecycleEvent ← onTables
    (createStudentAcademicLifecycleEvent (promotionEvent context activeEnrollment nextEnrollment targetClassSection dto))
  return {
    lifecycleEvent
    previousAcademicEnrollment := completedEnrollment.getD activeEnrollment
    academicEnrollment := some nextEnrollment
    allocation := some allocation
    subjectEnrollments := enrolled.subjectEnrollments
    timetableEnrollments := enrolled.timetableEnrollments
    studentStatus := "active" }

def promoteStudentAcademicLifecycle (context : CallContext) (studentId : String)
    (activeEnrollment : AcademicEnrollment) (dto : AdvanceAcademicLifecycleDto) :
    AdmissionsSession LifecycleResult := do
  let className ← required (nullableText dto.className)
    (.badRequest "Promotion requires a target class_name and stream_name")
  let streamName ← required (nullableText dto.streamName)
    (.badRequest "Promotion requires a target class_name and stream_name")
  let targetClassSection ← findAcademicClassSectionForUpdate collation className streamName
  monadLift (assertAcademicCapacityAvailable className streamName targetClassSection)
  let classSection := targetClassSection.map (·.toAcademicClassSection)
  failIf (∃ row ∈ classSection, row.academicYear ≠ "" ∧ row.academicYear = activeEnrollment.academicYear)
    (.badRequest "Promotion target must be in a different academic year")
  moveToSection context studentId activeEnrollment className streamName classSection dto

def leaveSchool (activeEnrollment : AcademicEnrollment)
    (action : AcademicLifecycleAction) (enrollmentStatus : EnrollmentStatus) (nextStudentStatus : String)
    (dto : AdvanceAcademicLifecycleDto) : AdmissionsTransaction LifecycleResult := do
  let completedEnrollment ← completeStudentAcademicEnrollment activeEnrollment.id enrollmentStatus
  let student ← updateStudentStatus studentId nextStudentStatus
  let lifecycleEvent ← createStudentAcademicLifecycleEvent (leavingEvent context activeEnrollment action dto)
  return {
    lifecycleEvent
    previousAcademicEnrollment := completedEnrollment.getD activeEnrollment
    academicEnrollment := none
    allocation := none
    subjectEnrollments := []
    timetableEnrollments := []
    studentStatus := student.status }

def advanceStudentAcademicLifecycle (context : CallContext) (studentId : String)
    (dto : AdvanceAcademicLifecycleDto) : AdmissionsSession LifecycleResult := do
  let action ← monadLift (parseAcademicLifecycleAction dto.action)
  let activeEnrollment ← requireActiveAcademicEnrollment studentId
  match action with
  | .promotion => promoteStudentAcademicLifecycle collation context studentId activeEnrollment dto
  | .graduation =>
    onTables (leaveSchool context studentId activeEnrollment .graduation .completed "graduated" dto)
  | .archive => onTables (leaveSchool context studentId activeEnrollment .archive .withdrawn "inactive" dto)

structure CreateAllocationDto where
  className : String
  streamName : String
  dormitoryName : Option String
  transportRoute : Option String
  effectiveFrom : Option String

def assignedAllocation (dto : CreateAllocationDto) : AllocationInput where
  studentId
  className := JsText.trim dto.className
  streamName := JsText.trim dto.streamName
  dormitoryName := nullableText dto.dormitoryName
  transportRoute := nullableText dto.transportRoute
  effectiveFrom := dto.effectiveFrom.getD context.today
  notes := none

def assignAllocation (dto : CreateAllocationDto) :
    AdmissionsSession StudentAllocation :=
  createAllocation context (assignedAllocation context studentId dto)

inductive AdmissionsOperation where
  | updateApplication (applicationId : String) (dto : UpdateApplicationDto)
  | registerApprovedApplication (applicationId : String) (dto : RegisterApplicationDto)
  | advanceStudentAcademicLifecycle (studentId : String) (dto : AdvanceAcademicLifecycleDto)
  | assignAllocation (studentId : String) (dto : CreateAllocationDto)

structure AdmissionsCall where
  context : CallContext
  operation : AdmissionsOperation

inductive AdmissionsResponse where
  | application (application : AdmissionApplication)
  | registration (result : RegistrationResult)
  | lifecycle (result : LifecycleResult)
  | allocation (allocation : StudentAllocation)

def perform (call : AdmissionsCall) : AdmissionsSession AdmissionsResponse :=
  match call.operation with
  | .updateApplication applicationId dto => do
    return .application (← onTables (updateApplication call.context applicationId dto))
  | .registerApprovedApplication applicationId dto => do
    return .registration (← registerApprovedApplication collation call.context applicationId dto)
  | .advanceStudentAcademicLifecycle studentId dto => do
    return .lifecycle (← advanceStudentAcademicLifecycle collation call.context studentId dto)
  | .assignAllocation studentId dto => do
    return .allocation (← assignAllocation call.context studentId dto)

section Outcomes

variable {collation : Collation} {context : CallContext} {session later : Session AdmissionsDb} {db after : AdmissionsDb}
  {studentId : String} {activeEnrollment : AcademicEnrollment} {dto : AdvanceAcademicLifecycleDto}
  {result : LifecycleResult}

def AdvanceAcademicLifecycleDto.classSection (dto : AdvanceAcademicLifecycleDto) (collation : Collation)
    (db : AdmissionsDb) : Option AcademicClassSection :=
  (nullableText dto.className).bind fun className => (nullableText dto.streamName).bind fun streamName =>
    selectedSection collation className streamName db

def AdvanceAcademicLifecycleDto.academicYear (dto : AdvanceAcademicLifecycleDto) (collation : Collation)
    (context : CallContext) (db : AdmissionsDb) : String :=
  ((dto.classSection collation db).map (·.academicYear)).getD context.utcFullYear

/-- What a promotion does, when it counted the seats on `counted` and cleared allocations on `cleared`. -/
structure Promoted (collation : Collation) (context : CallContext) (studentId : String)
    (activeEnrollment : AcademicEnrollment) (dto : AdvanceAcademicLifecycleDto) (counted cleared db : AdmissionsDb)
    (after : AdmissionsDb) : Prop where
  seats : ∀ row ∈ dto.classSection collation db, ∀ capacity ∈ row.capacity, activeEnrollments row.id counted < capacity
  otherYear : dto.classSection collation db ≠ none →
    dto.academicYear collation context db ≠ activeEnrollment.academicYear
  written : ∃ className streamName nextEnrollment enrollments allocations fresh,
    Enrolled context
      (enrollmentInput context activeEnrollment.applicationId studentId className streamName
        (dto.classSection collation db)) (withClosed activeEnrollment.id .completed db.enrollments) nextEnrollment
      enrollments ∧
    Allocated context (promotionAllocation context studentId className streamName dto) cleared db.allocations
      allocations ∧
    after = (takenClasses studentId nextEnrollment.id (dto.classSection collation db) db).putInto { db with
      enrollments
      allocations
      lifecycleEvents := db.lifecycleEvents.insert
        (promotionEvent context activeEnrollment nextEnrollment (dto.classSection collation db) dto) fresh }

theorem createStudentAcademicLifecycleEvent_ok {event result : AcademicLifecycleEvent}
    (ran : (createStudentAcademicLifecycleEvent event).run db = .ok (result, after)) :
    ∃ fresh, after = { db with lifecycleEvents := db.lifecycleEvents.insert event fresh } := by
  simp only [createStudentAcademicLifecycleEvent, run_bind_ok, run_current_ok, run_required_ok, run_write_ok,
    run_pure_ok, KeyedTable.tryInsert_eq_some] at ran
  obtain ⟨_, _, ⟨rfl, rfl⟩, _, _, ⟨⟨fresh, rfl⟩, rfl⟩, _, _, rfl, rfl, rfl⟩ := ran
  exact ⟨fresh, rfl⟩

theorem promoteStudentAcademicLifecycle_ok (unchanged : session.tables = session.committed)
    (ran : (promoteStudentAcademicLifecycle collation context studentId activeEnrollment dto).run session =
      .ok (result, later)) :
    Promoted collation context studentId activeEnrollment dto (session.snapshots.headD session.committed)
      (session.rest.snapshots.headD session.committed) session.tables later.tables := by
  simp only [promoteStudentAcademicLifecycle, moveToSection, run_bind_ok, run_lift_ok, run_required_ok, run_failIf_ok,
    run_onTables_ok, run_pure_ok, assertAcademicCapacityAvailable_ok, completeStudentAcademicEnrollment_ok] at ran
  obtain ⟨className, _, ⟨named, rfl⟩, streamName, _, ⟨streamed, rfl⟩, target, _, found, _, _, ⟨seats, rfl⟩, _, _,
    ⟨otherYear, rfl⟩, _, _, ⟨_, ⟨rfl, rfl⟩, rfl⟩, nextEnrollment, _, ⟨enrolled, enrolling, rfl⟩, _, _, ⟨_, takes, rfl⟩,
    allocation, _, allocating, event, _, ⟨_, recorded, rfl⟩, rfl, rfl⟩ := ran
  obtain ⟨rfl, rfl⟩ := findAcademicClassSectionForUpdate_ok unchanged found
  obtain ⟨year, enrollments, enrols, rfl⟩ := createStudentAcademicEnrollment_ok enrolling
  obtain rfl := enrollSubjectsAndTimetable_ok takes
  obtain ⟨-, allocations, allocates, rfl⟩ := createAllocation_ok allocating
  obtain ⟨fresh, rfl⟩ := createStudentAcademicLifecycleEvent_ok recorded
  have chosen : dto.classSection collation session.tables = selectedSection collation className streamName session.tables := by
    simp [AdvanceAcademicLifecycleDto.classSection, named, streamed]
  have section_eq : ((selectedSection collation className streamName session.tables).map
      fun row : AcademicClassSection =>
        ({ row with currentEnrollments := activeEnrollments row.id (session.snapshots.headD session.committed) } :
          AcademicClassSectionRecord)).map (·.toAcademicClassSection) = dto.classSection collation session.tables := by
    rw [chosen]
    cases selectedSection collation className streamName session.tables <;> rfl
  rw [section_eq] at otherYear year enrols
  refine ⟨?_, ?_, className, streamName, nextEnrollment, enrollments, allocations, ?_⟩
  · intro classSection target capacity limit
    exact seats _ (Option.mem_map_of_mem _ (chosen ▸ target)) capacity limit
  · intro known same
    obtain ⟨row, target⟩ := Option.ne_none_iff_exists'.mp known
    refine otherYear ⟨row, target, ?_, ?_⟩
    · intro blank
      exact year (by simp [enrollmentInput, target, blank, isBlank])
    · simpa [AdvanceAcademicLifecycleDto.academicYear, target] using same
  · rw [← section_eq] at enrols ⊢
    exact ⟨fresh, enrols, allocates, rfl⟩

structure Left (context : CallContext) (studentId : String) (activeEnrollment : AcademicEnrollment)
    (action : AcademicLifecycleAction) (enrollmentStatus : EnrollmentStatus) (dto : AdvanceAcademicLifecycleDto)
    (db after : AdmissionsDb) : Prop where
  closes : enrollmentStatus = .completed ∨ enrollmentStatus = .withdrawn
  leaves : action ≠ .promotion
  written : ∃ status fresh, after =
    { db with
      enrollments := withClosed activeEnrollment.id enrollmentStatus db.enrollments
      students := db.students.update studentId (withStatus status) (withStatus_id status)
      lifecycleEvents := db.lifecycleEvents.insert (leavingEvent context activeEnrollment action dto) fresh }

theorem leaveSchool_ok {action : AcademicLifecycleAction} {enrollmentStatus : EnrollmentStatus} {status : String} (closes : enrollmentStatus = .completed ∨ enrollmentStatus = .withdrawn)
    (leaves : action ≠ .promotion)
    (ran : (leaveSchool context studentId activeEnrollment action enrollmentStatus status dto).run db =
      .ok (result, after)) :
    Left context studentId activeEnrollment action enrollmentStatus dto db after := by
  simp only [leaveSchool, updateStudentStatus, run_bind_ok, completeStudentAcademicEnrollment_ok, getStudent_ok,
    run_write_ok, run_pure_ok] at ran
  obtain ⟨_, _, ⟨rfl, rfl⟩, _, _, ⟨_, _, ⟨-, rfl⟩, _, _, rfl, rfl, rfl⟩, _, _, recorded, rfl, rfl⟩ := ran
  obtain ⟨fresh, rfl⟩ := createStudentAcademicLifecycleEvent_ok recorded
  exact ⟨closes, leaves, status, fresh, rfl⟩

inductive Advanced (collation : Collation) (context : CallContext) (studentId : String)
    (activeEnrollment : AcademicEnrollment) (dto : AdvanceAcademicLifecycleDto) (counted cleared db : AdmissionsDb)
    (after : AdmissionsDb) : Prop
  | promoted (asked : parseAcademicLifecycleAction dto.action = .ok .promotion)
    (moved : Promoted collation context studentId activeEnrollment dto counted cleared db after)
  | left (action : AcademicLifecycleAction) (enrollmentStatus : EnrollmentStatus)
    (asked : parseAcademicLifecycleAction dto.action = .ok action)
    (moved : Left context studentId activeEnrollment action enrollmentStatus dto db after)

theorem advanceStudentAcademicLifecycle_ok (unchanged : session.tables = session.committed)
    (ran : (advanceStudentAcademicLifecycle collation context studentId dto).run session = .ok (result, later)) :
    ∃ activeEnrollment,
      lockedEnrollment studentId (session.snapshots.headD session.committed) session.tables = some activeEnrollment ∧
        Advanced collation context studentId activeEnrollment dto (session.rest.snapshots.headD session.committed)
          (session.rest.rest.snapshots.headD session.committed) session.tables later.tables := by
  simp only [advanceStudentAcademicLifecycle, requireActiveAcademicEnrollment, run_bind_ok, run_lift_ok,
    findActiveAcademicEnrollmentForUpdate_ok, run_required_ok] at ran
  obtain ⟨action, _, ⟨asked, rfl⟩, activeEnrollment, _, ⟨_, _, ⟨rfl, rfl⟩, locked, rfl⟩, ran⟩ := ran
  refine ⟨activeEnrollment, locked, ?_⟩
  cases action with
  | promotion => exact .promoted asked (promoteStudentAcademicLifecycle_ok unchanged ran)
  | graduation =>
    obtain ⟨_, left, rfl⟩ := run_onTables_ok.mp ran
    exact .left .graduation .completed asked (leaveSchool_ok (.inl rfl) (by decide) left)
  | archive =>
    obtain ⟨_, left, rfl⟩ := run_onTables_ok.mp ran
    exact .left .archive .withdrawn asked (leaveSchool_ok (.inr rfl) (by decide) left)

end Outcomes

/-- What a call that succeeds has done, from the reads of its transaction: the theorems on runs split on these cases. -/
inductive Performed (collation : Collation) (transaction : InFlight AdmissionsDb AdmissionsCall) (db : AdmissionsDb) :
    AdmissionsResponse → AdmissionsDb → Prop
  | reviewed {response : AdmissionsResponse} (applicationId : String) (dto : UpdateApplicationDto) :
    Performed collation transaction db response { db with
      applications := db.applications.update applicationId (reviewed transaction.request.context dto)
        (reviewed_id transaction.request.context dto) }
  | repeated {response : AdmissionsResponse} : Performed collation transaction db response db
  | registered {response : AdmissionsResponse} {student : StudentEntity} {after : AdmissionsDb}
    (application : AdmissionApplication) (dto : RegisterApplicationDto)
    (asked : transaction.request.operation = .registerApprovedApplication application.id dto)
    (found : db.applications.find application.id = some application) (approved : application.status = "approved")
    (moved : Registered collation transaction.request.context application dto (transaction.snapshots.headD db)
      (transaction.snapshots.tail.headD db) db student after) :
    Performed collation transaction db response after
  | advanced {response : AdmissionsResponse} {after : AdmissionsDb} (studentId : String)
    (dto : AdvanceAcademicLifecycleDto) (activeEnrollment : AcademicEnrollment)
    (asked : transaction.request.operation = .advanceStudentAcademicLifecycle studentId dto)
    (locked : lockedEnrollment studentId (transaction.snapshots.headD db) db = some activeEnrollment)
    (moved : Advanced collation transaction.request.context studentId activeEnrollment dto
      (transaction.snapshots.tail.headD db) (transaction.snapshots.tail.tail.headD db) db after) :
    Performed collation transaction db response after
  | allocated {response : AdmissionsResponse} {allocations : StudentAllocations} (studentId : String)
    (dto : CreateAllocationDto) (asked : transaction.request.operation = .assignAllocation studentId dto)
    (student : db.students.find studentId ≠ none)
    (moved : Allocated transaction.request.context (assignedAllocation transaction.request.context studentId dto)
      (transaction.snapshots.headD db) db.allocations allocations) :
    Performed collation transaction db response { db with allocations }

section Calls

variable {collation : Collation} {transaction : InFlight AdmissionsDb AdmissionsCall} {db : AdmissionsDb}

theorem perform_ok {response : AdmissionsResponse} {session : Session AdmissionsDb}
    (ran : (perform collation transaction.request).run (.begun db transaction.snapshots) = .ok (response, session)) :
    Performed collation transaction db response session.tables := by
  obtain ⟨⟨context, operation⟩, snapshots⟩ := transaction
  cases operation with
  | updateApplication changedId dto =>
    simp only [perform, run_bind_ok, run_onTables_ok, run_pure_ok] at ran
    obtain ⟨_, _, ⟨after, updated, rfl⟩, rfl, rfl⟩ := ran
    obtain rfl := updateApplication_ok updated
    exact .reviewed changedId dto
  | registerApprovedApplication registeredId dto =>
    simp only [perform, run_bind_ok, run_pure_ok] at ran
    obtain ⟨result, _, registering, rfl, rfl⟩ := ran
    obtain ⟨application, found, ⟨-, kept⟩ | ⟨approved, moved⟩⟩ := registerApprovedApplication_ok rfl registering
    · rw [kept]
      exact .repeated
    · obtain rfl : application.id = registeredId := ((KeyedTable.find_eq_some _).mp found).2
      exact .registered application dto rfl found approved moved
  | advanceStudentAcademicLifecycle studentId dto =>
    simp only [perform, run_bind_ok, run_pure_ok] at ran
    obtain ⟨result, _, advancing, rfl, rfl⟩ := ran
    obtain ⟨activeEnrollment, locked, moved⟩ := advanceStudentAcademicLifecycle_ok rfl advancing
    exact .advanced studentId dto activeEnrollment rfl locked moved
  | assignAllocation studentId dto =>
    simp only [perform, assignAllocation, run_bind_ok, run_pure_ok] at ran
    obtain ⟨_, _, allocating, rfl, rfl⟩ := ran
    obtain ⟨student, allocations, moved, rfl⟩ := createAllocation_ok allocating
    exact .allocated studentId dto rfl student moved

theorem settle_performed (property : AdmissionsDb → Prop) (before : property db)
    (succeeds : ∀ response after, Performed collation transaction db response after → property after) :
    property (settle (perform collation) transaction db).1 :=
  settle_preserves before fun response session ran => succeeds response session.tables (perform_ok ran)

end Calls

end ShuleHub.Admissions
