import ShuleHub.Billing.Usage

/-! The students of one school: how one is created or updated, and how the subscription limits the active ones. -/

namespace ShuleHub.Students

open Transaction Billing Locking

inductive StudentStatus where
  | active
  | inactive
  | graduated
  | transferred
deriving DecidableEq

structure StudentEntity where
  id : String
  admissionNumber : String
  firstName : String
  lastName : String
  middleName : Option String
  status : StudentStatus
  dateOfBirth : Option String
  gender : Option String
  primaryGuardianName : Option String
  primaryGuardianPhone : Option String
  metadata : Metadata
  createdByUserId : Option String
  createdAt : Int
  updatedAt : Int

structure StudentsDb where
  subscriptions : SubscriptionsDb
  students : KeyedTable StudentEntity String (·.id)

structure CreateStudentDto where
  admissionNumber : String
  firstName : String
  lastName : String
  middleName : Option String
  status : Option StudentStatus
  dateOfBirth : Option String
  gender : Option String
  primaryGuardianName : Option String
  primaryGuardianPhone : Option String
  metadata : Option Metadata

structure UpdateStudentDto where
  admissionNumber : Option String
  firstName : Option String
  lastName : Option String
  middleName : Option String
  status : Option StudentStatus
  dateOfBirth : Option String
  gender : Option String
  primaryGuardianName : Option String
  primaryGuardianPhone : Option String
  metadata : Option Metadata
deriving DecidableEq

inductive StudentsOperation where
  | createStudent (dto : CreateStudentDto)
  | updateStudent (studentId : String) (dto : UpdateStudentDto)

/-- A call with its clock and its generated id, the billing access of its context (or what `resolveForTenant` answers
in its place), and how the services come out that it calls once the student is stored. -/
structure StudentsCall where
  now : Int
  userId : Option String
  newStudentId : String
  access : BillingAccessContextState
  publishStudentCreated : Except Exception Unit
  recordUsage : Except Exception Unit
  operation : StudentsOperation

def maxActiveKey : String := "students.max_active"

def CreateStudentDto.nextStatus (dto : CreateStudentDto) : StudentStatus := dto.status.getD .active

def UpdateStudentDto.nextStatus (dto : UpdateStudentDto) (existingStudent : StudentEntity) : StudentStatus :=
  dto.status.getD existingStudent.status

def isActivating (nextStatus : StudentStatus) (currentStatus : Option StudentStatus) : Prop :=
  nextStatus = .active ∧ currentStatus ≠ some .active
deriving Decidable

def configuredLimit (subscription : Option SubscriptionEntity) : Option Nat :=
  subscription.bind fun subscription => UsageMeter.readPositiveLimit (subscription.limits.get? maxActiveKey)

def countStudentsByStatus (status : StudentStatus) (db : StudentsDb) : Nat :=
  Table.total (fun student : StudentEntity => student.status = status) (fun _ => 1) db.students.rows

/-- What the statements of a call have read so far; each runs on what is committed when it begins. -/
structure StudentsView where
  existingStudent : Option (Option StudentEntity)
  subscription : Option (Option SubscriptionEntity)
  activeStudentCount : Option Nat

inductive StudentsRead where
  | findById (studentId : String)
  | lockCurrentByTenant
  | countStudentsByStatus
deriving DecidableEq

/-- The status that a call would give its student, with the one it has: `none` before it is read. -/
def statuses (operation : StudentsOperation) (view : StudentsView) : Option (StudentStatus × Option StudentStatus) :=
  match operation with
  | .createStudent dto => some (dto.nextStatus, none)
  | .updateStudent _ dto => view.existingStudent.join.map fun existingStudent =>
      (dto.nextStatus existingStudent, some existingStudent.status)

def isLimited (call : StudentsCall) (view : StudentsView) : Prop :=
  call.access.isActive ∧ ∃ found ∈ statuses call.operation view, isActivating found.1 found.2
deriving Decidable

def limitRead (call : StudentsCall) (view : StudentsView) : Option StudentsRead :=
  if isLimited call view then
    match view.subscription with
    | none => some .lockCurrentByTenant
    | some subscription =>
      if configuredLimit subscription ≠ none ∧ view.activeStudentCount = none then some .countStudentsByStatus else none
  else none

def nextRead (call : StudentsCall) (view : StudentsView) : Option StudentsRead :=
  match call.operation, view.existingStudent with
  | .updateStudent studentId _, none => some (.findById studentId)
  | _, _ => limitRead call view

def readInto (read : StudentsRead) (view : StudentsView) (db : StudentsDb) : StudentsView :=
  match read with
  | .findById studentId => { view with existingStudent := some (db.students.find studentId) }
  | .lockCurrentByTenant => { view with subscription := some (Subscriptions.lockCurrentByTenant db.subscriptions) }
  | .countStudentsByStatus => { view with activeStudentCount := some (countStudentsByStatus .active db) }

def assertActiveStudentLimit (call : StudentsCall) (view : StudentsView) : Except Exception Unit :=
  if isLimited call view then
    match view.subscription.bind configuredLimit, view.activeStudentCount with
    | some limit, some activeStudentCount =>
      failIf (limit ≤ activeStudentCount)
        (.paymentRequired ("Current subscription limit \"" ++ maxActiveKey ++ "\" has been reached"))
    | _, _ => .ok ()
  else .ok ()

def checkStudent (student : StudentEntity) (db : StudentsDb) : Except Exception Unit := do
  failIf (isBlank student.admissionNumber) (.database "ck_students_admission_number_not_blank")
  failIf (isBlank student.firstName) (.database "ck_students_first_name_not_blank")
  failIf (isBlank student.lastName) (.database "ck_students_last_name_not_blank")
  failIf (∃ other ∈ db.students.rows, other.id ≠ student.id ∧ other.admissionNumber = student.admissionNumber)
    (.database "uq_students_tenant_admission_number")

def rethrowUniqueConstraint (error : Exception) : Exception :=
  match error with
  | .database "uq_students_tenant_admission_number" =>
    .conflict "student admission number already exists in this tenant"
  | other => other

def newStudent (call : StudentsCall) (dto : CreateStudentDto) : StudentEntity where
  id := call.newStudentId
  admissionNumber := JsText.trim dto.admissionNumber
  firstName := JsText.trim dto.firstName
  lastName := JsText.trim dto.lastName
  middleName := readString dto.middleName
  status := dto.nextStatus
  dateOfBirth := dto.dateOfBirth
  gender := dto.gender
  primaryGuardianName := readString dto.primaryGuardianName
  primaryGuardianPhone := readString dto.primaryGuardianPhone
  metadata := dto.metadata.getD []
  createdByUserId := call.userId.filter fun userId => userId ≠ "" ∧ userId ≠ "anonymous"
  createdAt := call.now
  updatedAt := call.now

def insertStudent (student : StudentEntity) : Transaction StudentsDb Exception StudentEntity := do
  let db ← current
  monadLift (checkStudent student db)
  let students ← required (db.students.tryInsert student) (.database "students_pkey")
  write fun db => { db with students }
  return student

def createStudent (call : StudentsCall) (dto : CreateStudentDto) (view : StudentsView) :
    Transaction StudentsDb Exception StudentEntity := do
  monadLift (assertActiveStudentLimit call view)
  mapError rethrowUniqueConstraint do
    let student ← insertStudent (newStudent call dto)
    monadLift call.publishStudentCreated
    monadLift call.recordUsage
    return student

def UpdateStudentDto.applyTo (dto : UpdateStudentDto) (now : Int) (student : StudentEntity) : StudentEntity :=
  if dto = ⟨none, none, none, none, none, none, none, none, none, none⟩ then student
  else
    { student with
      admissionNumber := (dto.admissionNumber.map JsText.trim).getD student.admissionNumber
      firstName := (dto.firstName.map JsText.trim).getD student.firstName
      lastName := (dto.lastName.map JsText.trim).getD student.lastName
      middleName := dto.middleName.map JsText.trim <|> student.middleName
      status := dto.status.getD student.status
      dateOfBirth := dto.dateOfBirth <|> student.dateOfBirth
      gender := dto.gender <|> student.gender
      primaryGuardianName := dto.primaryGuardianName.map JsText.trim <|> student.primaryGuardianName
      primaryGuardianPhone := dto.primaryGuardianPhone.map JsText.trim <|> student.primaryGuardianPhone
      metadata := dto.metadata.getD student.metadata
      updatedAt := now }

theorem UpdateStudentDto.applyTo_id (dto : UpdateStudentDto) (now : Int) (student : StudentEntity) :
    (dto.applyTo now student).id = student.id := by
  unfold applyTo
  split <;> rfl

theorem UpdateStudentDto.applyTo_status (dto : UpdateStudentDto) (now : Int) (student : StudentEntity) :
    (dto.applyTo now student).status = dto.nextStatus student := by
  unfold applyTo
  split
  · next empty =>
    rw [empty]
    rfl
  · rfl

def updateStudent (call : StudentsCall) (studentId : String) (dto : UpdateStudentDto) (view : StudentsView) :
    Transaction StudentsDb Exception StudentEntity := do
  let _existingStudent ← required view.existingStudent.join (.notFound s!"Student \"{studentId}\" was not found")
  monadLift (assertActiveStudentLimit call view)
  let db ← current
  let student ← required (db.students.find studentId) (.notFound s!"Student \"{studentId}\" was not found")
  mapError rethrowUniqueConstraint (monadLift (checkStudent (dto.applyTo call.now student) db))
  write fun db =>
    { db with students := db.students.update studentId (dto.applyTo call.now) (dto.applyTo_id call.now) }
  return dto.applyTo call.now student

def perform (call : StudentsCall) (view : StudentsView) : Transaction StudentsDb Exception StudentEntity :=
  match call.operation with
  | .createStudent dto => createStudent call dto view
  | .updateStudent studentId dto => updateStudent call studentId dto view

/-- The calls side by side: each reads what is committed, waits for the row of the subscription where it locks it, and
keeps that row until its writes take effect. -/
def studentsProtocol : Protocol StudentsDb StudentsCall String StudentsView (Except Exception StudentEntity) where
  start _ := ⟨none, none, none⟩
  stage call _ view db := (nextRead call view).elim view fun read => readInto read view db
  held _ _ view := (view.subscription.join.map (·.id)).toList
  ready call _ view := (nextRead call view).isNone
  settle call view db := attempt (perform call view) db

end ShuleHub.Students
