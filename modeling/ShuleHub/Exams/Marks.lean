import ShuleHub.Runtime
import ShuleHub.Lib.KeyedTable
import ShuleHub.Lib.JsValue
import ShuleHub.Lib.Snapshots

/-! The exams of one school: the series and their assessments, and the marks that teachers enter and exams officers
correct, each with its audit log. -/

namespace ShuleHub.Exams

open Transaction Snapshots

inductive ExamSeriesStatus where
  | draft
  | submitted
  | reviewed
  | locked
  | published
deriving DecidableEq

structure ExamSeries where
  id : String
  academicTermId : String
  name : String
  startsOn : Int
  endsOn : Int
  status : ExamSeriesStatus
  lockedAt : Option Int
  publishedAt : Option Int
  createdByUserId : Option String
  datesInOrder : startsOn ≤ endsOn

/-- A row of `exam_assessments`, with `max_score` in hundredths and `weight` in ten thousandths. -/
structure ExamAssessment where
  id : String
  examSeriesId : String
  subjectId : String
  name : String
  maxScore : Int
  weight : Int
  createdByUserId : Option String
  maxScorePositive : 0 < maxScore
  weightPositive : 0 < weight

inductive AssignmentStatus where
  | active
  | inactive
deriving DecidableEq

structure TeacherSubjectAssignment where
  teacherUserId : String
  academicTermId : String
  classSectionId : String
  subjectId : String
  status : AssignmentStatus

abbrev Score := {hundredths : Int // 0 ≤ hundredths}

structure ExamMark where
  id : String
  examSeriesId : String
  assessmentId : String
  academicTermId : String
  classSectionId : String
  subjectId : String
  studentId : String
  score : Score
  remarks : Option String
  enteredByUserId : String
  updatedByUserId : Option String
  updatedAt : Int

structure ExamMarkAuditLog where
  markId : String
  examSeriesId : String
  assessmentId : String
  studentId : String
  action : String
  actorUserId : String
  previousScore : Option Score
  newScore : Score
  reason : Option String
  metadata : Metadata

abbrev ExamMarks := KeyedTable ExamMark String (·.id)

structure ExamsDb where
  series : KeyedTable ExamSeries String (·.id)
  assessments : KeyedTable ExamAssessment String (·.id)
  assignments : List TeacherSubjectAssignment
  marks : ExamMarks
  auditLogs : List ExamMarkAuditLog

abbrev ExamsTransaction := Transaction ExamsDb Exception

abbrev ExamsSession := Transaction (Session ExamsDb) Exception

/-- What a call takes from outside: the user of the request, `NOW()` and the id that the database generates. -/
structure CallContext where
  userId : Option String
  role : Option String
  permissions : List String
  now : Int
  newId : String

variable (context : CallContext)

structure CreateExamSeriesDto where
  academicTermId : String
  name : String
  startsOn : Int
  endsOn : Int

structure CreateExamAssessmentDto where
  examSeriesId : String
  subjectId : String
  name : String
  maxScore : Numeric.Double
  weight : Numeric.Double

structure EnterExamMarkDto where
  examSeriesId : String
  assessmentId : String
  academicTermId : String
  classSectionId : String
  subjectId : String
  studentId : String
  score : Numeric.Double
  remarks : Option String

variable (dto : EnterExamMarkDto) (value : Numeric.Double) (actorUserId : String)

structure CorrectLockedExamMarkDto where
  markId : String
  score : Numeric.Double
  reason : String

def OFFICER_PERMISSIONS : List String := ["exams:review", "exams:approve", "*:*"]

def OFFICER_ROLES : List String := ["owner", "admin", "platform_owner", "superadmin", "exams_officer"]

def CallContext.isExamsOfficer : Prop :=
  (∃ role ∈ context.role, role ∈ OFFICER_ROLES) ∨ ∃ permission ∈ context.permissions, permission ∈ OFFICER_PERMISSIONS
deriving Decidable

def requireUserId : Except Exception String :=
  match context.userId.filter (· ≠ "") with
  | some userId => .ok userId
  | none => .error (.unauthorized "Authenticated user context is required for exams operations")

def requireText (value fieldName : String) : Except Exception String :=
  if JsText.trim value = "" then .error (.badRequest s!"{fieldName} is required") else .ok (JsText.trim value)

def requirePositiveNumber (fieldName : String) : Except Exception ℚ :=
  match value with
  | .finite value => if 0 < value then .ok value else .error (.badRequest s!"{fieldName} must be positive")
  | .notFinite => .error (.badRequest s!"{fieldName} must be positive")

def requireNonNegativeNumber (fieldName : String) : Except Exception ℚ :=
  match value with
  | .finite value => if 0 ≤ value then .ok value else .error (.badRequest s!"{fieldName} must be non-negative")
  | .notFinite => .error (.badRequest s!"{fieldName} must be non-negative")

def storeScore (value : ℚ) : Except Exception Score :=
  match Numeric.store 8 2 value with
  | none => .error (.database "numeric field overflow")
  | some hundredths =>
    if allowed : 0 ≤ hundredths then .ok ⟨hundredths, allowed⟩ else .error (.database "ck_exam_marks_score")

def scoreOf : Except Exception Score := do
  storeScore (← requireNonNegativeNumber value "Score")

def isNamed (academicTermId name : String) (series : ExamSeries) : Prop :=
  series.academicTermId = academicTermId ∧ series.name = name
deriving Decidable

def createSeries (dto : CreateExamSeriesDto) : ExamsTransaction ExamSeries := do
  let academicTermId ← requireText dto.academicTermId "Academic term"
  let name ← requireText dto.name "Exam series name"
  let db ← current
  failIf (∃ row ∈ db.series.rows, isNamed academicTermId name row) (.database "uq_exam_series_term_name")
  if datesInOrder : dto.startsOn ≤ dto.endsOn then
    let series : ExamSeries :=
      { id := context.newId, academicTermId, name, startsOn := dto.startsOn, endsOn := dto.endsOn, status := .draft,
        lockedAt := none, publishedAt := none, createdByUserId := context.userId, datesInOrder }
    let stored ← required (db.series.tryInsert series) (.database "exam_series_pkey")
    write fun db => { db with series := stored }
    return series
  else
    fail (.database "ck_exam_series_dates")

def isScoped (examSeriesId subjectId name : String) (assessment : ExamAssessment) : Prop :=
  assessment.examSeriesId = examSeriesId ∧ assessment.subjectId = subjectId ∧ assessment.name = name
deriving Decidable

def storePositive (scale : Nat) (value : ℚ) (constraint : String) : Except Exception {units : Int // 0 < units} :=
  match Numeric.store 8 scale value with
  | none => .error (.database "numeric field overflow")
  | some units => if positive : 0 < units then .ok ⟨units, positive⟩ else .error (.database constraint)

/-- Nothing says that the series exists. -/
def createAssessment (dto : CreateExamAssessmentDto) : ExamsTransaction ExamAssessment := do
  let examSeriesId ← requireText dto.examSeriesId "Exam series"
  let subjectId ← requireText dto.subjectId "Subject"
  let name ← requireText dto.name "Assessment name"
  let maxScore ← requirePositiveNumber dto.maxScore "Max score"
  let weight ← requirePositiveNumber dto.weight "Assessment weight"
  let storedMaxScore ← storePositive 2 maxScore "ck_exam_assessments_max_score"
  let storedWeight ← storePositive 4 weight "ck_exam_assessments_weight"
  let db ← current
  failIf (∃ row ∈ db.assessments.rows, isScoped examSeriesId subjectId name row)
    (.database "uq_exam_assessments_scope")
  let assessment : ExamAssessment :=
    { id := context.newId, examSeriesId, subjectId, name, maxScore := storedMaxScore.1, weight := storedWeight.1,
      createdByUserId := context.userId, maxScorePositive := storedMaxScore.2, weightPositive := storedWeight.2 }
  let stored ← required (db.assessments.tryInsert assessment) (.database "exam_assessments_pkey")
  write fun db => { db with assessments := stored }
  return assessment

def isAssigned (teacherUserId academicTermId classSectionId subjectId : String)
    (assignment : TeacherSubjectAssignment) : Prop :=
  assignment.teacherUserId = teacherUserId ∧ assignment.academicTermId = academicTermId ∧
    assignment.classSectionId = classSectionId ∧ assignment.subjectId = subjectId ∧ assignment.status = .active
deriving Decidable

def findTeacherAssignment (teacherUserId academicTermId classSectionId subjectId : String) (db : ExamsDb) :
    Option TeacherSubjectAssignment :=
  db.assignments.find? fun row => isAssigned teacherUserId academicTermId classSectionId subjectId row

def isClosed (status : ExamSeriesStatus) (lockedAt publishedAt : Option Int) : Prop :=
  lockedAt ≠ none ∨ publishedAt ≠ none ∨ status = .locked ∨ status = .published
deriving Decidable

def isSeriesClosed (examSeriesId : String) (db : ExamsDb) : Prop :=
  ∃ series ∈ db.series.find examSeriesId, isClosed series.status series.lockedAt series.publishedAt
deriving Decidable

def isMarkOf (assessmentId studentId : String) (mark : ExamMark) : Prop :=
  mark.assessmentId = assessmentId ∧ mark.studentId = studentId
deriving Decidable

def EnterExamMarkDto.newMark (context : CallContext) (actorUserId : String) (score : Score) :
    ExamMark where
  id := context.newId
  examSeriesId := dto.examSeriesId
  assessmentId := dto.assessmentId
  academicTermId := dto.academicTermId
  classSectionId := dto.classSectionId
  subjectId := dto.subjectId
  studentId := dto.studentId
  score
  remarks := readString dto.remarks
  enteredByUserId := actorUserId
  updatedByUserId := some actorUserId
  updatedAt := context.now

def EnterExamMarkDto.overwrite (context : CallContext) (actorUserId : String) (score : Score)
    (mark : ExamMark) : ExamMark :=
  { mark with
    score
    remarks := readString dto.remarks
    updatedByUserId := some actorUserId
    updatedAt := context.now }

theorem EnterExamMarkDto.overwrite_id (dto : EnterExamMarkDto) (context : CallContext) (actorUserId : String)
    (score : Score) (mark : ExamMark) : (dto.overwrite context actorUserId score mark).id = mark.id := rfl

def findMark (assessmentId studentId : String) (marks : ExamMarks) : Option ExamMark :=
  marks.rows.find? fun mark => isMarkOf assessmentId studentId mark

def upsertMark (dto : EnterExamMarkDto) (score : Score) :
    ExamsTransaction ExamMark := do
  let db ← current
  match findMark dto.assessmentId dto.studentId db.marks with
  | some existing =>
    write fun db => { db with
      marks := db.marks.update existing.id (dto.overwrite context actorUserId score)
        (dto.overwrite_id context actorUserId score) }
    return dto.overwrite context actorUserId score existing
  | none =>
    let stored ← required (db.marks.tryInsert (dto.newMark context actorUserId score)) (.database "exam_marks_pkey")
    write fun db => { db with marks := stored }
    return dto.newMark context actorUserId score

def appendMarkAuditLog (log : ExamMarkAuditLog) : ExamsTransaction Unit :=
  write fun db => { db with auditLogs := db.auditLogs ++ [log] }

def EnterExamMarkDto.auditLog (actorUserId markId : String) (score : Score) :
    ExamMarkAuditLog where
  markId
  examSeriesId := dto.examSeriesId
  assessmentId := dto.assessmentId
  studentId := dto.studentId
  action := "grade.updated"
  actorUserId
  previousScore := none
  newScore := score
  reason := none
  metadata := [("class_section_id", .str dto.classSectionId), ("subject_id", .str dto.subjectId)]

def assertAssigned (dto : EnterExamMarkDto) : ExamsSession Unit :=
  if context.isExamsOfficer then pure ()
  else do
    let seen ← snapshot
    failIf (findTeacherAssignment actorUserId dto.academicTermId dto.classSectionId dto.subjectId seen = none)
      (.forbidden "Teacher is not assigned to this subject and class section")

def enterMark : ExamsSession ExamMark := do
  let actorUserId ← requireUserId context
  assertAssigned context actorUserId dto
  let seen ← snapshot
  failIf (isSeriesClosed dto.examSeriesId seen)
    (.forbidden "Exam series is locked; use an audited correction workflow")
  let score ← scoreOf dto.score
  onTables do
    let mark ← upsertMark context actorUserId dto score
    appendMarkAuditLog (dto.auditLog actorUserId mark.id score)
    return mark

def corrected (score : Score) (mark : ExamMark) : ExamMark :=
  { mark with
    score
    updatedByUserId := some actorUserId
    updatedAt := context.now }

theorem corrected_id (context : CallContext) (actorUserId : String) (score : Score) (mark : ExamMark) :
    (corrected context actorUserId score mark).id = mark.id := rfl

def correctionLog (actorUserId reason : String) (existing : ExamMark) (score : Score) : ExamMarkAuditLog where
  markId := existing.id
  examSeriesId := existing.examSeriesId
  assessmentId := existing.assessmentId
  studentId := existing.studentId
  action := "grade.updated"
  actorUserId
  previousScore := some existing.score
  newScore := score
  reason := some reason
  metadata := [("correction", .bool true)]

def correctLockedMark (dto : CorrectLockedExamMarkDto) : ExamsTransaction ExamMark := do
  failIf (¬ context.isExamsOfficer) (.forbidden "Exam officer approval is required to correct locked marks")
  let actorUserId ← requireUserId context
  let reason ← requireText dto.reason "Correction reason"
  let db ← current
  let existing ← required (db.marks.find dto.markId) (.notFound s!"Exam mark \"{dto.markId}\" was not found")
  let score ← scoreOf dto.score
  write fun db => { db with
    marks := db.marks.update dto.markId (corrected context actorUserId score)
      (corrected_id context actorUserId score) }
  appendMarkAuditLog (correctionLog actorUserId reason existing score)
  return corrected context actorUserId score existing

structure SeriesClosing where
  examSeriesId : String
  status : ExamSeriesStatus
  lockedAt : Option Int
  publishedAt : Option Int
  closes : isClosed status lockedAt publishedAt

def SeriesClosing.close (closing : SeriesClosing) (series : ExamSeries) : ExamSeries :=
  { series with
    status := closing.status
    lockedAt := closing.lockedAt
    publishedAt := closing.publishedAt }

theorem SeriesClosing.close_id (closing : SeriesClosing) (series : ExamSeries) :
    (closing.close series).id = series.id := rfl

def closeSeries (closing : SeriesClosing) : ExamsTransaction Unit :=
  write fun db => { db with series := db.series.update closing.examSeriesId closing.close closing.close_id }

inductive ExamsOperation where
  | createSeries (dto : CreateExamSeriesDto)
  | createAssessment (dto : CreateExamAssessmentDto)
  | enterMark (dto : EnterExamMarkDto)
  | correctLockedMark (dto : CorrectLockedExamMarkDto)
  | closeSeries (closing : SeriesClosing)

structure ExamsCall where
  context : CallContext
  operation : ExamsOperation

inductive ExamsResponse where
  | series (series : ExamSeries)
  | assessment (assessment : ExamAssessment)
  | mark (mark : ExamMark)
  | closed

def perform (call : ExamsCall) : ExamsSession ExamsResponse :=
  match call.operation with
  | .createSeries dto => do return .series (← onTables (createSeries call.context dto))
  | .createAssessment dto => do return .assessment (← onTables (createAssessment call.context dto))
  | .enterMark dto => do return .mark (← enterMark call.context dto)
  | .correctLockedMark dto => do return .mark (← onTables (correctLockedMark call.context dto))
  | .closeSeries closing => do
    onTables (closeSeries closing)
    return .closed

end ShuleHub.Exams
