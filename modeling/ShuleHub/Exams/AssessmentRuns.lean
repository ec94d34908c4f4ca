import ShuleHub.Exams.LockedSeriesRuns

/-! Marks and their assessments under calls in any interleaving: when a mark agrees with its assessment, and when the
teacher who enters it is assigned to it. -/

namespace ShuleHub.Exams

open Runs Transaction Snapshots

/-- The assessment of the mark is there, and the mark has its series, its subject and at most its maximum score. -/
def agrees (mark : ExamMark) (db : ExamsDb) : Prop :=
  ∃ assessment ∈ db.assessments.find mark.assessmentId, mark.examSeriesId = assessment.examSeriesId ∧
    mark.subjectId = assessment.subjectId ∧ 0 ≤ mark.score.1 ∧ mark.score.1 ≤ assessment.maxScore
deriving Decidable

def isAssignedFor (userId : String) (mark : ExamMark) (db : ExamsDb) : Prop :=
  ∃ assessment ∈ db.assessments.find mark.assessmentId, ∃ series ∈ db.series.find assessment.examSeriesId,
    ∃ assignment ∈ db.assignments,
      isAssigned userId series.academicTermId mark.classSectionId assessment.subjectId assignment
deriving Decidable

def ChangesOwnMarks (call : ExamsCall) (before after : ExamsDb) : Prop :=
  ¬ call.context.isExamsOfficer → ∀ mark ∈ after.marks.rows, mark ∉ before.marks.rows →
    ∃ userId ∈ call.context.userId, isAssignedFor userId mark after

/-- A request names the term of the series, the subject of the assessment and the class section of the mark. -/
def namesTeaching (dto : EnterExamMarkDto) (assessment : ExamAssessment) (db : ExamsDb) : Prop :=
  dto.subjectId = assessment.subjectId ∧
    (∃ series ∈ db.series.find assessment.examSeriesId, series.academicTermId = dto.academicTermId) ∧
    ∀ mark ∈ findMark dto.assessmentId dto.studentId db.marks, mark.classSectionId = dto.classSectionId
deriving Decidable

def isWithin (context : CallContext) (dto : EnterExamMarkDto) (assessment : ExamAssessment) (db : ExamsDb) : Prop :=
  (∀ score ∈ (scoreOf dto.score).toOption, score.1 ≤ assessment.maxScore) ∧
    (findMark dto.assessmentId dto.studentId db.marks = none →
      dto.examSeriesId = assessment.examSeriesId ∧ dto.subjectId = assessment.subjectId) ∧
    (context.isExamsOfficer ∨ namesTeaching dto assessment db)
deriving Decidable

/-- The request of an entry that passes its checks, and of a correction, is within the assessment of its mark. -/
def NamesItsAssessment (transaction : InFlight ExamsDb ExamsCall) (db : ExamsDb) : Prop :=
  match transaction.request.operation with
  | .enterMark dto => passesChecks transaction dto db →
    ∃ assessment ∈ db.assessments.find dto.assessmentId, isWithin transaction.request.context dto assessment db
  | .correctLockedMark dto => ∀ mark ∈ db.marks.find dto.markId,
    ∀ assessment ∈ db.assessments.find mark.assessmentId, ∀ score ∈ (scoreOf dto.score).toOption,
      score.1 ≤ assessment.maxScore
  | _ => True

instance : ∀ transaction db, Decidable (NamesItsAssessment transaction db)
  | ⟨⟨_, .enterMark _⟩, _⟩, _ => inferInstanceAs (Decidable (_ → _))
  | ⟨⟨_, .correctLockedMark _⟩, _⟩, _ => inferInstanceAs (Decidable (∀ _ ∈ _, _))
  | ⟨⟨_, .createSeries _⟩, _⟩, _ | ⟨⟨_, .createAssessment _⟩, _⟩, _ | ⟨⟨_, .closeSeries _⟩, _⟩, _ => .isTrue trivial

section Steps

variable {db after : ExamsDb} {mark : ExamMark} {transaction : InFlight ExamsDb ExamsCall}
  {context : CallContext} {actorUserId : String} {dto : EnterExamMarkDto} {score : Score} {marks : ExamMarks}
  {assessment : ExamAssessment} {call : ExamsCall}

theorem agrees_congr (same : ∀ assessment, db.assessments.find mark.assessmentId = some assessment →
    after.assessments.find mark.assessmentId = some assessment) (before : agrees mark db) : agrees mark after := by
  obtain ⟨assessment, found, agreed⟩ := before
  exact ⟨assessment, same assessment found, agreed⟩

theorem requireUserId_ok
    (user : requireUserId context = .ok actorUserId) : actorUserId ∈ context.userId := by
  unfold requireUserId at user
  split at user
  · next userId found =>
    cases user
    exact (Option.filter_eq_some_iff.mp found).1
  · cases user

theorem Upserted.agrees
    (upserted : Upserted context actorUserId dto score db.marks mark marks) (agree : ∀ mark ∈ db.marks.rows, agrees mark db)
    (found : db.assessments.find dto.assessmentId = some assessment) (within : isWithin context dto assessment db)
    (scored : scoreOf dto.score = .ok score) : agrees mark db := by
  have bounded : score.1 ≤ assessment.maxScore := within.1 score (by rw [scored]; rfl)
  cases upserted with
  | again existing present =>
    obtain ⟨member, same, -⟩ := findMark_some present
    obtain ⟨own, known, series, subject, -, -⟩ := agree existing member
    rw [same] at known
    obtain rfl : own = assessment := Option.some.inj (known.symm.trans found)
    exact ⟨own, same ▸ found, series, subject, score.2, bounded⟩
  | afresh absent fresh =>
    obtain ⟨series, subject⟩ := within.2.1 absent
    exact ⟨assessment, found, series, subject, score.2, bounded⟩

theorem Upserted.assigned {seen : ExamsDb}
    (upserted : Upserted context actorUserId dto score db.marks mark marks)
    (found : db.assessments.find dto.assessmentId = some assessment) (teaching : namesTeaching dto assessment db)
    (assigned : findTeacherAssignment actorUserId dto.academicTermId dto.classSectionId dto.subjectId seen ≠ none)
    (same : seen.assignments = db.assignments) : isAssignedFor actorUserId mark db := by
  obtain ⟨subject, ⟨series, known, term⟩, sections⟩ := teaching
  obtain ⟨assignment, assigns⟩ := Option.ne_none_iff_exists'.mp assigned
  have member : assignment ∈ db.assignments := same ▸ List.mem_of_find?_eq_some assigns
  have active : isAssigned actorUserId dto.academicTermId dto.classSectionId dto.subjectId assignment := by
    simpa using List.find?_some assigns
  rw [← term, subject] at active
  have classSection : mark.classSectionId = dto.classSectionId := by
    cases upserted with
    | again existing present => exact sections existing present
    | afresh absent fresh => rfl
  rw [← classSection] at active
  have own : mark.assessmentId = dto.assessmentId := upserted.own.1.1
  exact ⟨assessment, own ▸ found, series, known, assignment, member, active⟩

structure KeepsAgreement (call : ExamsCall) (db after : ExamsDb) : Prop where
  assignments : after.assignments = db.assignments
  agree : ∀ mark ∈ after.marks.rows, agrees mark after
  changes : ChangesOwnMarks call db after

theorem keepsAgreement_of_unchanged (agree : ∀ mark ∈ db.marks.rows, agrees mark db)
    (assignments : after.assignments = db.assignments) (marks : after.marks = db.marks)
    (assessments : ∀ assessmentId assessment, db.assessments.find assessmentId = some assessment →
      after.assessments.find assessmentId = some assessment) : KeepsAgreement call db after := by
  refine ⟨assignments, ?_, ?_⟩
  · intro mark member
    rw [marks] at member
    exact agrees_congr (assessments mark.assessmentId) (agree mark member)
  · intro _ mark member new
    rw [marks] at member
    exact absurd member new

theorem Entered.keepsAgreement (entered : Entered transaction dto db after)
    (agree : ∀ mark ∈ db.marks.rows, agrees mark db)
    (seen : (transaction.snapshots.headD db).assignments = db.assignments)
    (names : ∃ assessment ∈ db.assessments.find dto.assessmentId, isWithin transaction.request.context dto assessment db) :
    KeepsAgreement transaction.request db after := by
  obtain ⟨actorUserId, score, written, marks, user, allowed, scored, upserted, rfl⟩ := entered.written
  obtain ⟨assessment, found, within⟩ := names
  refine ⟨rfl, ?_, ?_⟩
  · intro mark member
    rcases upserted.put.cases member with rfl | ⟨old, -⟩
    · exact upserted.agrees agree found within scored
    · exact agree mark old
  · intro teaches mark member new
    rcases upserted.put.cases member with rfl | ⟨old, -⟩
    · have teaching := within.2.2.resolve_left teaches
      have assigned := allowed.resolve_left teaches
      exact ⟨actorUserId, requireUserId_ok user, upserted.assigned found teaching assigned seen⟩
    · exact absurd old new

theorem Corrected.keepsAgreement {dto : CorrectLockedExamMarkDto}
    (moved : Corrected call.context dto db after) (agree : ∀ mark ∈ db.marks.rows, agrees mark db)
    (within : ∀ mark ∈ db.marks.find dto.markId, ∀ assessment ∈ db.assessments.find mark.assessmentId,
      ∀ score ∈ (scoreOf dto.score).toOption, score.1 ≤ assessment.maxScore) :
    KeepsAgreement call db after := by
  obtain ⟨actorUserId, reason, existing, score, marks, -, present, own, scored, put, rfl⟩ := moved.written
  refine ⟨rfl, ?_, fun teaches => absurd moved.officer teaches⟩
  intro mark member
  rcases put.cases member with rfl | ⟨old, -⟩
  · obtain ⟨assessment, found, series, subject, -, -⟩ := agree existing present
    have known : db.marks.find dto.markId = some existing := (KeyedTable.find_eq_some _).mpr ⟨present, own⟩
    have bounded := within existing known assessment found score (by rw [scored]; rfl)
    exact ⟨assessment, found, series, subject, score.2, bounded⟩
  · exact agree mark old

theorem settle_keepsAgreement (transaction : InFlight ExamsDb ExamsCall)
    (agree : ∀ mark ∈ db.marks.rows, agrees mark db)
    (seen : (transaction.snapshots.headD db).assignments = db.assignments)
    (names : NamesItsAssessment transaction db) :
    KeepsAgreement transaction.request db (settle perform transaction db).1 := by
  apply settle_performed (KeepsAgreement transaction.request db)
  · exact keepsAgreement_of_unchanged agree rfl rfl fun _ _ found => found
  · intro after performed
    cases performed with
    | seriesCreated series fresh => exact keepsAgreement_of_unchanged agree rfl rfl fun _ _ found => found
    | assessmentCreated assessment fresh =>
      apply keepsAgreement_of_unchanged agree
      · rfl
      · rfl
      · exact fun _ _ => db.assessments.find_insert_of_some fresh
    | entered dto asked moved =>
      rw [NamesItsAssessment, asked] at names
      exact moved.keepsAgreement agree seen (names moved.passed)
    | corrected dto asked moved =>
      rw [NamesItsAssessment, asked] at names
      exact moved.keepsAgreement agree names
    | closed closing => exact keepsAgreement_of_unchanged agree rfl rfl fun _ _ found => found

end Steps

/-- Every mark agrees with its assessment, and teachers write marks only where they are assigned, in every run whose
requests are within the assessments they name. -/
theorem marks_within_assessments (start : ExamsDb) (events : List (Snapshots.Event ExamsCall))
    (agree : ∀ mark ∈ start.marks.rows, agrees mark start)
    (names : Meets (step perform) (Committing NamesItsAssessment) (World.idle start) events) :
    Along (step perform) (fun world => (∀ mark ∈ world.db.marks.rows, agrees mark world.db) ∧
      ∀ done ∈ world.finished, ChangesOwnMarks done.request done.before done.after) (World.idle start) events := by
  have lawful : Along (step perform) (fun world =>
      (world.db.assignments = start.assignments ∧ ∀ mark ∈ world.db.marks.rows, agrees mark world.db) ∧
        ∀ done ∈ world.finished, ChangesOwnMarks done.request done.before done.after) (World.idle start) events := by
    apply along_of_laws
      (fun db => db.assignments = start.assignments ∧ ∀ mark ∈ db.marks.rows, agrees mark db) ChangesOwnMarks _
      ⟨rfl, agree⟩ names
    intro transaction db inv earlier admits
    have seen : (transaction.snapshots.headD db).assignments = db.assignments := by
      have source := (Session.begun db transaction.snapshots).head_source
      rcases source with same | member
      · exact congrArg ExamsDb.assignments same
      · exact (earlier _ member).1.trans inv.1.symm
    have kept := settle_keepsAgreement transaction inv.2 seen admits
    exact ⟨⟨kept.assignments.trans inv.1, kept.agree⟩, kept.changes⟩
  exact along_imp (fun _ holds => ⟨holds.1.2, holds.2⟩) lawful

theorem marks_within_assessments_once :
    Along (step perform) (fun world => (∀ mark ∈ world.db.marks.rows, agrees mark world.db) ∧
      ∀ done ∈ world.finished, ChangesOwnMarks done.request done.before done.after) (World.idle school)
      [.begin (entry "mark-1" "series-1" 84), .commit 0, .begin (entry "mark-1" "series-1" 90), .commit 0] :=
  marks_within_assessments school _ (by decide +kernel) (by decide +kernel)

/-- A request that names another series than that of its assessment, with more than the maximum score. -/
theorem mark_beyond_assessment :
    ¬ ∀ (start : ExamsDb) (events : List (Snapshots.Event ExamsCall)), (∀ mark ∈ start.marks.rows, agrees mark start) →
      Along (step perform) (fun world => (∀ mark ∈ world.db.marks.rows, agrees mark world.db) ∧
        ∀ done ∈ world.finished, ChangesOwnMarks done.request done.before done.after) (World.idle start) events := by
  intro always
  have holds := run_of_along (always school [.begin (entry "mark-1" "series-2" 840), .commit 0] (by decide +kernel))
  exact absurd holds.1 (by decide +kernel)

end ShuleHub.Exams
