import ShuleHub.Exams.MarkWrites

/-! The marks of series that are locked or published, under entries, corrections and closings in any interleaving. -/

namespace ShuleHub.Exams

open Runs Transaction Snapshots KeyedTable

def isOfClosedSeries (assessmentId : String) (db : ExamsDb) : Prop :=
  ∃ assessment ∈ db.assessments.find assessmentId, isSeriesClosed assessment.examSeriesId db
deriving Decidable

def recordsCorrection (mark : ExamMark) (log : ExamMarkAuditLog) : Prop :=
  log.markId = mark.id ∧ log.newScore = mark.score ∧ ∃ reason ∈ log.reason, reason ≠ ""
deriving Decidable

/-- The call corrects the mark for an exams officer and adds the reason to the audit log. -/
def isCorrectionOf (mark : ExamMark) (call : ExamsCall) (before after : ExamsDb) : Prop :=
  match call.operation with
  | .correctLockedMark dto =>
    dto.markId = mark.id ∧ call.context.isExamsOfficer ∧
      ∃ log ∈ after.auditLogs.drop before.auditLogs.length, recordsCorrection mark log
  | _ => False

instance (mark : ExamMark) (call : ExamsCall) (before after : ExamsDb) :
    Decidable (isCorrectionOf mark call before after) := by
  unfold isCorrectionOf
  split <;> infer_instance

/-- What a lock promises about each call: a series stays closed, and its marks stay unless they are corrected. -/
structure LocksMarks (call : ExamsCall) (before after : ExamsDb) : Prop where
  lasts : ∀ assessmentId, isOfClosedSeries assessmentId before → isOfClosedSeries assessmentId after
  remain : ∀ mark ∈ before.marks.rows, ∃ later ∈ after.marks.rows,
    later.id = mark.id ∧ later.assessmentId = mark.assessmentId ∧ later.studentId = mark.studentId
  changes : ∀ mark ∈ after.marks.rows, isOfClosedSeries mark.assessmentId before →
    (∃ earlier ∈ before.marks.rows, earlier.id = mark.id ∧ earlier.score = mark.score ∧
      earlier.remarks = mark.remarks) ∨ isCorrectionOf mark call before after

/-- An entry that passes its checks is for an assessment whose series is open when it takes effect. -/
def EntersOpenSeries (transaction : InFlight ExamsDb ExamsCall) (db : ExamsDb) : Prop :=
  match transaction.request.operation with
  | .enterMark dto => passesChecks transaction dto db → ¬ isOfClosedSeries dto.assessmentId db
  | _ => True

instance (transaction : InFlight ExamsDb ExamsCall) (db : ExamsDb) : Decidable (EntersOpenSeries transaction db) := by
  unfold EntersOpenSeries
  split <;> infer_instance

section Steps

variable {call : ExamsCall} {db : ExamsDb} {assessmentId examSeriesId : String} {after : ExamsDb}

theorem locksMarks_of_unchanged (marks : after.marks = db.marks)
    (lasts : ∀ assessmentId, isOfClosedSeries assessmentId db → isOfClosedSeries assessmentId after) :
    LocksMarks call db after := by
  refine ⟨lasts, ?_, ?_⟩
  · intro mark member
    rw [marks]
    exact ⟨mark, member, rfl, rfl, rfl⟩
  · intro mark member _
    rw [marks] at member
    exact .inl ⟨mark, member, rfl, rfl, rfl⟩

theorem isOfClosedSeries_mono
    (assessments : ∀ assessment, db.assessments.find assessmentId = some assessment →
      after.assessments.find assessmentId = some assessment)
    (series : ∀ examSeriesId, isSeriesClosed examSeriesId db → isSeriesClosed examSeriesId after)
    (closed : isOfClosedSeries assessmentId db) : isOfClosedSeries assessmentId after := by
  obtain ⟨assessment, found, closed⟩ := closed
  exact ⟨assessment, assessments assessment found, series _ closed⟩

theorem isSeriesClosed_insert (series : ExamSeries) (fresh : ∀ other ∈ db.series.rows, other.id ≠ series.id)
    (closed : isSeriesClosed examSeriesId db) :
    isSeriesClosed examSeriesId { db with series := db.series.insert series fresh } := by
  obtain ⟨row, found, closed⟩ := closed
  exact ⟨row, db.series.find_insert_of_some fresh found, closed⟩

theorem isSeriesClosed_close (closing : SeriesClosing) (closed : isSeriesClosed examSeriesId db) :
    isSeriesClosed examSeriesId
      { db with series := db.series.update closing.examSeriesId closing.close closing.close_id } := by
  obtain ⟨row, found, closed⟩ := closed
  by_cases own : row.id = closing.examSeriesId
  · have same : examSeriesId = closing.examSeriesId := ((find_eq_some _).mp found).2.symm.trans own
    have updated : (db.series.update closing.examSeriesId closing.close closing.close_id).find examSeriesId =
        some (closing.close row) := by
      rw [same] at found ⊢
      rw [find_update, Option.mem_def.mp found, Option.map_some]
    exact ⟨closing.close row, updated, closing.closes⟩
  · have differs : examSeriesId ≠ closing.examSeriesId := by
      intro same
      exact own (((find_eq_some _).mp found).2.trans same)
    have kept : (db.series.update closing.examSeriesId closing.close closing.close_id).find examSeriesId = some row :=
      (find_update_other _ differs).trans found
    exact ⟨row, kept, closed⟩

theorem Entered.locksMarks {transaction : InFlight ExamsDb ExamsCall} {dto : EnterExamMarkDto}
    (entered : Entered transaction dto db after) (opened : ¬ isOfClosedSeries dto.assessmentId db) :
    LocksMarks transaction.request db after := by
  obtain ⟨actorUserId, score, mark, marks, -, -, -, upserted, rfl⟩ := entered.written
  refine ⟨fun _ closed => closed, ?_, ?_⟩
  · intro old member
    by_cases same : old.id = mark.id
    · refine ⟨mark, upserted.put.own.1, same.symm, ?_⟩
      cases upserted with
      | again existing found =>
        obtain rfl := eq_of_key member (findMark_some found).1 same
        exact ⟨rfl, rfl⟩
      | afresh absent fresh => exact absurd same (fresh old member)
    · exact ⟨old, (upserted.put.others old same).mpr member, rfl, rfl, rfl⟩
  · intro written member closed
    rcases upserted.put.cases member with rfl | ⟨old, -⟩
    · rw [upserted.own.1.1] at closed
      exact absurd closed opened
    · exact .inl ⟨written, old, rfl, rfl, rfl⟩

theorem requireText_ok {value fieldName text : String} (required : requireText value fieldName = .ok text) :
    text = JsText.trim value ∧ text ≠ "" := by
  unfold requireText at required
  split at required
  · cases required
  · next present =>
    cases required
    exact ⟨rfl, present⟩

theorem Corrected.locksMarks {dto : CorrectLockedExamMarkDto}
    (asked : call.operation = .correctLockedMark dto) (moved : Corrected call.context dto db after) :
    LocksMarks call db after := by
  obtain ⟨actorUserId, reason, existing, score, marks, given, present, own, -, put, rfl⟩ := moved.written
  refine ⟨fun _ closed => closed, ?_, ?_⟩
  · intro mark member
    by_cases same : mark.id = existing.id
    · obtain rfl := eq_of_key member present same
      exact ⟨_, put.own.1, rfl, rfl, rfl⟩
    · exact ⟨mark, (put.others mark same).mpr member, rfl, rfl, rfl⟩
  · intro mark member _
    rcases put.cases member with rfl | ⟨old, -⟩
    · right
      rw [isCorrectionOf, asked]
      refine ⟨own.symm, moved.officer, correctionLog actorUserId reason existing score, ?_, ?_⟩
      · rw [List.drop_left]
        exact List.mem_singleton_self _
      · exact ⟨rfl, rfl, reason, rfl, (requireText_ok given).2⟩
    · exact .inl ⟨mark, old, rfl, rfl, rfl⟩

theorem settle_locksMarks (transaction : InFlight ExamsDb ExamsCall) (enters : EntersOpenSeries transaction db) :
    LocksMarks transaction.request db (settle perform transaction db).1 := by
  apply settle_performed (LocksMarks transaction.request db) (locksMarks_of_unchanged rfl fun _ closed => closed)
  intro after performed
  cases performed with
  | seriesCreated series fresh =>
    apply locksMarks_of_unchanged
    · rfl
    · intro assessmentId
      exact isOfClosedSeries_mono (fun _ found => found) fun _ => isSeriesClosed_insert series fresh
  | assessmentCreated assessment fresh =>
    apply locksMarks_of_unchanged
    · rfl
    · intro assessmentId
      exact isOfClosedSeries_mono (fun _ => db.assessments.find_insert_of_some fresh) fun _ closed => closed
  | entered dto asked moved =>
    rw [EntersOpenSeries, asked] at enters
    exact moved.locksMarks (enters moved.passed)
  | corrected dto asked moved => exact moved.locksMarks asked
  | closed closing =>
    apply locksMarks_of_unchanged
    · rfl
    · intro assessmentId
      exact isOfClosedSeries_mono (fun _ found => found) fun _ => isSeriesClosed_close closing

end Steps

/-- The marks of a closed series change by corrections only, in every run whose entries are for series that are open
when they take effect. -/
theorem closed_marks_corrected (start : ExamsDb) (events : List (Snapshots.Event ExamsCall))
    (enters : Meets (step perform) (Committing EntersOpenSeries) (World.idle start) events) :
    Along (step perform) (fun world => ∀ done ∈ world.finished, LocksMarks done.request done.before done.after)
      (World.idle start) events := by
  have lawful : Along (step perform) (fun world => True ∧
      ∀ done ∈ world.finished, LocksMarks done.request done.before done.after) (World.idle start) events :=
    along_of_laws (fun _ => True) LocksMarks
      (fun transaction _ _ _ admits => ⟨trivial, settle_locksMarks transaction admits⟩) trivial enters
  exact along_imp (fun _ laws => laws.2) lawful

def endTerm (id : String) : ExamSeries where
  id
  academicTermId := "term-1"
  name := id
  startsOn := 0
  endsOn := 5
  status := .draft
  lockedAt := none
  publishedAt := none
  createdByUserId := none
  datesInOrder := by decide

def mathsPaper : ExamAssessment where
  id := "paper-1"
  examSeriesId := "series-1"
  subjectId := "maths"
  name := "Paper 1"
  maxScore := 10000
  weight := 10000
  createdByUserId := none
  maxScorePositive := by decide
  weightPositive := by decide

def school : ExamsDb where
  series := (KeyedTable.empty.put (endTerm "series-1")).put (endTerm "series-2")
  assessments := KeyedTable.empty.put mathsPaper
  assignments := [⟨"teacher-1", "term-1", "class-1", "maths", .active⟩]
  marks := .empty
  auditLogs := []

def teacher (newId : String) : CallContext where
  userId := some "teacher-1"
  role := some "teacher"
  permissions := ["exams:enter-marks"]
  now := 0
  newId

def officer : CallContext where
  userId := some "officer-1"
  role := some "exams_officer"
  permissions := []
  now := 0
  newId := "unused"

/-- The teacher enters a mark of a student for the paper, naming one of the series. -/
def entry (newId examSeriesId : String) (score : ℚ) : ExamsCall where
  context := teacher newId
  operation := .enterMark
    { examSeriesId, assessmentId := "paper-1", academicTermId := "term-1", classSectionId := "class-1",
      subjectId := "maths", studentId := "student-1", score := .finite score, remarks := none }

def correction (score : ℚ) : ExamsCall where
  context := officer
  operation := .correctLockedMark { markId := "mark-1", score := .finite score, reason := "recount" }

def locking : ExamsCall where
  context := officer
  operation := .closeSeries
    { examSeriesId := "series-1", status := .locked, lockedAt := some 0, publishedAt := none, closes := by decide }

theorem closed_marks_corrected_once :
    Along (step perform) (fun world => ∀ done ∈ world.finished, LocksMarks done.request done.before done.after)
      (World.idle school)
      [.begin (entry "mark-1" "series-1" 84), .commit 0, .begin locking, .commit 0, .begin (correction 86), .commit 0,
        .begin (entry "mark-1" "series-1" 90), .commit 0] :=
  closed_marks_corrected school _ (by decide +kernel)

/-- An entry that names the other series changes a mark of the locked one. -/
theorem closed_mark_overwritten :
    ¬ ∀ (start : ExamsDb) (events : List (Snapshots.Event ExamsCall)),
      Along (step perform) (fun world => ∀ done ∈ world.finished, LocksMarks done.request done.before done.after)
        (World.idle start) events := by
  intro always
  let events : List (Snapshots.Event ExamsCall) :=
    [.begin (entry "mark-1" "series-1" 84), .commit 0, .begin locking, .commit 0,
      .begin (entry "mark-2" "series-2" 90), .commit 0]
  have locks := run_of_along (always school events)
  have changed : ∃ done ∈ (run (step perform) (World.idle school) events).finished,
      ∃ mark ∈ done.after.marks.rows, isOfClosedSeries mark.assessmentId done.before ∧
        (∀ earlier ∈ done.before.marks.rows, earlier.id = mark.id → earlier.score ≠ mark.score) ∧
        ¬ isCorrectionOf mark done.request done.before done.after := by
    decide +kernel
  obtain ⟨done, finished, mark, member, closed, differs, uncorrected⟩ := changed
  rcases (locks done finished).changes mark member closed with ⟨earlier, old, same, score, -⟩ | corrects
  · exact differs earlier old same score
  · exact uncorrected corrects

end ShuleHub.Exams
