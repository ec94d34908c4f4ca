import ShuleHub.Exams.Marks

/-! What each call on series, assessments and marks has written when it succeeds. -/

namespace ShuleHub.Exams

open Transaction Snapshots KeyedTable

variable (transaction : InFlight ExamsDb ExamsCall) (context : CallContext)

def mayEnter (actorUserId : String) (dto : EnterExamMarkDto) (seen : ExamsDb) : Prop :=
  context.isExamsOfficer ∨
    findTeacherAssignment actorUserId dto.academicTermId dto.classSectionId dto.subjectId seen ≠ none
deriving Decidable

def seriesSeen (db : ExamsDb) : ExamsDb :=
  if transaction.request.context.isExamsOfficer then transaction.snapshots.headD db
  else transaction.snapshots.tail.headD db

def authorized (session : Session ExamsDb) : Session ExamsDb :=
  if context.isExamsOfficer then session else session.rest

theorem authorized_tables (context : CallContext) (session : Session ExamsDb) :
    (authorized context session).tables = session.tables := by
  unfold authorized
  split <;> rfl

theorem seriesSeen_eq (transaction : InFlight ExamsDb ExamsCall) (db : ExamsDb) :
    (authorized transaction.request.context (.begun db transaction.snapshots)).snapshots.headD
        (authorized transaction.request.context (.begun db transaction.snapshots)).committed =
      seriesSeen transaction db := by
  unfold authorized seriesSeen
  split <;> rfl

def passesChecks (dto : EnterExamMarkDto) (db : ExamsDb) : Prop :=
  (∃ actorUserId ∈ (requireUserId transaction.request.context).toOption,
    mayEnter transaction.request.context actorUserId dto (transaction.snapshots.headD db)) ∧
    ¬ isSeriesClosed dto.examSeriesId (seriesSeen transaction db) ∧ (scoreOf dto.score).toOption ≠ none
deriving Decidable

/-- An entry overwrites the mark of its assessment and student, or writes their first one. -/
inductive Upserted (context : CallContext) (actorUserId : String) (dto : EnterExamMarkDto) (score : Score)
    (marks : ExamMarks) : ExamMark → ExamMarks → Prop
  | again (existing : ExamMark) (found : findMark dto.assessmentId dto.studentId marks = some existing) :
    Upserted context actorUserId dto score marks (dto.overwrite context actorUserId score existing)
      (marks.update existing.id (dto.overwrite context actorUserId score) (dto.overwrite_id context actorUserId score))
  | afresh (absent : findMark dto.assessmentId dto.studentId marks = none)
    (fresh : ∀ other ∈ marks.rows, other.id ≠ context.newId) :
    Upserted context actorUserId dto score marks (dto.newMark context actorUserId score)
      (marks.insert (dto.newMark context actorUserId score) fresh)

section Marks

variable {context : CallContext} {actorUserId : String} {dto : EnterExamMarkDto} {score : Score}
  {marks later : ExamMarks} {mark : ExamMark} {db after : ExamsDb}

theorem findMark_some {assessmentId studentId : String}
    (found : findMark assessmentId studentId marks = some mark) :
    mark ∈ marks.rows ∧ isMarkOf assessmentId studentId mark :=
  ⟨List.mem_of_find?_eq_some found, by simpa using List.find?_some found⟩

theorem Upserted.put (upserted : Upserted context actorUserId dto score marks mark later) :
    marks.Put mark.id mark later := by
  cases upserted with
  | again existing found => exact .update _ (dto.overwrite_id context actorUserId score) (findMark_some found).1 rfl
  | afresh absent fresh => exact .insert fresh

theorem Upserted.own (upserted : Upserted context actorUserId dto score marks mark later) :
    isMarkOf dto.assessmentId dto.studentId mark ∧ mark.score = score := by
  cases upserted with
  | again existing found => exact ⟨(findMark_some found).2, rfl⟩
  | afresh absent fresh => exact ⟨⟨rfl, rfl⟩, rfl⟩

theorem upsertMark_ok (ran : (upsertMark context actorUserId dto score).run db = .ok (mark, after)) :
    ∃ marks, Upserted context actorUserId dto score db.marks mark marks ∧ after = { db with marks } := by
  simp only [upsertMark, run_bind_ok, run_current_ok] at ran
  obtain ⟨_, _, ⟨rfl, rfl⟩, ran⟩ := ran
  split at ran
  · next existing found =>
    simp only [run_bind_ok, run_write_ok, run_pure_ok] at ran
    obtain ⟨_, _, rfl, rfl, rfl⟩ := ran
    exact ⟨_, .again existing found, rfl⟩
  · next absent =>
    simp only [run_bind_ok, run_required_ok, run_write_ok, run_pure_ok, tryInsert_eq_some] at ran
    obtain ⟨_, _, ⟨⟨fresh, rfl⟩, rfl⟩, _, _, rfl, rfl, rfl⟩ := ran
    exact ⟨_, .afresh absent fresh, rfl⟩

end Marks

/-- What an entry writes: the mark, and a log that knows nothing of the score before. -/
structure Entered (dto : EnterExamMarkDto) (db after : ExamsDb) : Prop where
  passed : passesChecks transaction dto db
  written : ∃ actorUserId score mark marks, requireUserId transaction.request.context = .ok actorUserId ∧
    mayEnter transaction.request.context actorUserId dto (transaction.snapshots.headD db) ∧
    scoreOf dto.score = .ok score ∧
    Upserted transaction.request.context actorUserId dto score db.marks mark marks ∧
    after = { db with marks, auditLogs := db.auditLogs ++ [dto.auditLog actorUserId mark.id score] }

structure Corrected (dto : CorrectLockedExamMarkDto) (db after : ExamsDb) : Prop where
  officer : context.isExamsOfficer
  written : ∃ actorUserId reason existing score marks, requireText dto.reason "Correction reason" = .ok reason ∧
    existing ∈ db.marks.rows ∧ existing.id = dto.markId ∧ scoreOf dto.score = .ok score ∧
    db.marks.Put existing.id (corrected context actorUserId score existing) marks ∧
    after = { db with marks, auditLogs := db.auditLogs ++ [correctionLog actorUserId reason existing score] }

section Outcomes

variable {context : CallContext} {db after : ExamsDb}
  {dto : EnterExamMarkDto} {later : Session ExamsDb} {mark : ExamMark}

theorem createSeries_ok {dto : CreateExamSeriesDto} {series : ExamSeries}
    (ran : (createSeries context dto).run db = .ok (series, after)) :
    ∃ fresh, after = { db with series := db.series.insert series fresh } := by
  simp only [createSeries, run_bind_ok, run_lift_ok, run_current_ok, run_failIf_ok] at ran
  obtain ⟨academicTermId, _, ⟨-, rfl⟩, name, _, ⟨-, rfl⟩, _, _, ⟨rfl, rfl⟩, _, _, ⟨-, rfl⟩, ran⟩ := ran
  split at ran
  · simp only [run_bind_ok, run_required_ok, run_write_ok, run_pure_ok, tryInsert_eq_some] at ran
    obtain ⟨_, _, ⟨⟨fresh, rfl⟩, rfl⟩, _, _, rfl, rfl, rfl⟩ := ran
    exact ⟨fresh, rfl⟩
  · exact absurd ran run_fail_ok

theorem createAssessment_ok {dto : CreateExamAssessmentDto} {assessment : ExamAssessment}
    (ran : (createAssessment context dto).run db = .ok (assessment, after)) :
    ∃ fresh, after = { db with assessments := db.assessments.insert assessment fresh } := by
  simp only [createAssessment, run_bind_ok, run_lift_ok, run_current_ok, run_failIf_ok, run_required_ok,
    run_write_ok, run_pure_ok, tryInsert_eq_some] at ran
  obtain ⟨examSeriesId, _, ⟨-, rfl⟩, subjectId, _, ⟨-, rfl⟩, name, _, ⟨-, rfl⟩, maxScore, _, ⟨-, rfl⟩, weight, _,
    ⟨-, rfl⟩, storedMaxScore, _, ⟨-, rfl⟩, storedWeight, _, ⟨-, rfl⟩, _, _, ⟨rfl, rfl⟩, _, _, ⟨-, rfl⟩, _, _,
    ⟨⟨fresh, rfl⟩, rfl⟩, _, _, rfl, rfl, rfl⟩ := ran
  exact ⟨fresh, rfl⟩

theorem assertAssigned_ok {actorUserId : String} {session : Session ExamsDb} :
    (assertAssigned context actorUserId dto).run session = .ok ((), later) ↔
      mayEnter context actorUserId dto (session.snapshots.headD session.committed) ∧
        authorized context session = later := by
  unfold assertAssigned authorized mayEnter
  by_cases officer : context.isExamsOfficer
  · simp [officer]
  · simp [officer, snapshot_ok, and_comm]

theorem enterMark_ok {transaction : InFlight ExamsDb ExamsCall}
    (ran : (enterMark transaction.request.context dto).run (.begun db transaction.snapshots) = .ok (mark, later)) :
    Entered transaction dto db later.tables := by
  simp only [enterMark, appendMarkAuditLog, run_bind_ok, run_lift_ok, run_failIf_ok, snapshot_ok, run_onTables_ok,
    run_write_ok, run_pure_ok] at ran
  obtain ⟨actorUserId, _, ⟨user, rfl⟩, _, _, assigned, _, _, ⟨rfl, rfl⟩, _, _, ⟨opened, rfl⟩, score, _, ⟨scored, rfl⟩, _,
    ⟨_, _, upserts, _, _, rfl, rfl, rfl⟩, rfl⟩ := ran
  obtain ⟨allowed, rfl⟩ := assertAssigned_ok.mp assigned
  rw [seriesSeen_eq] at opened
  rw [Session.rest_tables, authorized_tables] at upserts
  obtain ⟨marks, upserted, rfl⟩ := upsertMark_ok upserts
  refine ⟨⟨⟨actorUserId, by rw [user]; rfl, allowed⟩, opened, by rw [scored]; simp [Except.toOption]⟩, ?_⟩
  exact ⟨actorUserId, score, _, marks, user, allowed, scored, upserted, rfl⟩

theorem correctLockedMark_ok {dto : CorrectLockedExamMarkDto}
    (ran : (correctLockedMark context dto).run db = .ok (mark, after)) : Corrected context dto db after := by
  simp only [correctLockedMark, appendMarkAuditLog, run_bind_ok, run_failIf_ok, run_lift_ok, run_current_ok,
    run_required_ok, run_write_ok, run_pure_ok, not_not] at ran
  obtain ⟨_, _, ⟨officer, rfl⟩, actorUserId, _, ⟨user, rfl⟩, reason, _, ⟨given, rfl⟩, _, _, ⟨rfl, rfl⟩, existing, _,
    ⟨found, rfl⟩, score, _, ⟨scored, rfl⟩, _, _, rfl, _, _, rfl, rfl, rfl⟩ := ran
  obtain ⟨member, own⟩ := (find_eq_some _).mp found
  refine ⟨officer, actorUserId, reason, existing, score, _, given, member, own, scored, ?_, rfl⟩
  rw [← own]
  exact .update _ (corrected_id context actorUserId score) member rfl

end Outcomes

inductive Performed (transaction : InFlight ExamsDb ExamsCall) (db : ExamsDb) : ExamsDb → Prop
  | seriesCreated (series : ExamSeries) (fresh : ∀ other ∈ db.series.rows, other.id ≠ series.id) :
    Performed transaction db { db with series := db.series.insert series fresh }
  | assessmentCreated (assessment : ExamAssessment) (fresh : ∀ other ∈ db.assessments.rows, other.id ≠ assessment.id) :
    Performed transaction db { db with assessments := db.assessments.insert assessment fresh }
  | entered {after : ExamsDb} (dto : EnterExamMarkDto) (asked : transaction.request.operation = .enterMark dto)
    (moved : Entered transaction dto db after) : Performed transaction db after
  | corrected {after : ExamsDb} (dto : CorrectLockedExamMarkDto)
    (asked : transaction.request.operation = .correctLockedMark dto)
    (moved : Corrected transaction.request.context dto db after) : Performed transaction db after
  | closed (closing : SeriesClosing) :
    Performed transaction db { db with
      series := db.series.update closing.examSeriesId closing.close closing.close_id }

section Calls

variable {transaction : InFlight ExamsDb ExamsCall} {db : ExamsDb}

theorem perform_ok {response : ExamsResponse} {session : Session ExamsDb}
    (ran : (perform transaction.request).run (.begun db transaction.snapshots) = .ok (response, session)) :
    Performed transaction db session.tables := by
  obtain ⟨⟨context, operation⟩, snapshots⟩ := transaction
  cases operation with
  | createSeries dto =>
    simp only [perform, run_bind_ok, run_onTables_ok, run_pure_ok] at ran
    obtain ⟨series, _, ⟨_, created, rfl⟩, rfl, rfl⟩ := ran
    obtain ⟨fresh, rfl⟩ := createSeries_ok created
    exact .seriesCreated series fresh
  | createAssessment dto =>
    simp only [perform, run_bind_ok, run_onTables_ok, run_pure_ok] at ran
    obtain ⟨assessment, _, ⟨_, created, rfl⟩, rfl, rfl⟩ := ran
    obtain ⟨fresh, rfl⟩ := createAssessment_ok created
    exact .assessmentCreated assessment fresh
  | enterMark dto =>
    simp only [perform, run_bind_ok, run_pure_ok] at ran
    obtain ⟨_, _, entered, rfl, rfl⟩ := ran
    exact .entered dto rfl (enterMark_ok entered)
  | correctLockedMark dto =>
    simp only [perform, run_bind_ok, run_onTables_ok, run_pure_ok] at ran
    obtain ⟨_, _, ⟨_, corrected, rfl⟩, rfl, rfl⟩ := ran
    exact .corrected dto rfl (correctLockedMark_ok corrected)
  | closeSeries closing =>
    simp only [perform, closeSeries, run_bind_ok, run_onTables_ok, run_write_ok, run_pure_ok] at ran
    obtain ⟨_, _, ⟨_, rfl, rfl⟩, rfl, rfl⟩ := ran
    exact .closed closing

theorem settle_performed (property : ExamsDb → Prop) (before : property db)
    (succeeds : ∀ after, Performed transaction db after → property after) :
    property (settle perform transaction db).1 :=
  settle_preserves before fun _ session ran => succeeds session.tables (perform_ok ran)

end Calls

end ShuleHub.Exams
