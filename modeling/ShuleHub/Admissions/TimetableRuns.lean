import ShuleHub.Admissions.EnrollmentRuns

/-! Subjects and timetables of students under registrations and moves one after the other: when they follow the
enrolments. -/

namespace ShuleHub.Admissions

open Runs Transaction Snapshots KeyedTable

variable (collation : Collation)

def isEnrolled (enrollments : AcademicEnrollments) (studentId academicEnrollmentId : String) : Prop :=
  ∃ row ∈ enrollments.rows, row.id = academicEnrollmentId ∧ isActiveOf studentId row
deriving Decidable

/-- Every subject and every timetable row that is active is of an active enrolment of its student. -/
structure FollowsEnrollments (db : AdmissionsDb) : Prop where
  subjects : ∀ row ∈ db.subjectEnrollments.rows, row.status = .active →
    isEnrolled db.enrollments row.studentId row.academicEnrollmentId
  timetable : ∀ row ∈ db.timetableEnrollments.rows, row.status = .active →
    isEnrolled db.enrollments row.studentId row.academicEnrollmentId

def broughtBy (dto : AdvanceAcademicLifecycleDto) (db : AdmissionsDb) : ClassEnrollments :=
  if JsText.trim dto.action = "promotion" then takenClasses "" "" (dto.classSection collation db) db else ⟨[], []⟩

/-- A promotion that takes up the enrolment it has just completed. -/
def takesUpAgain (context : CallContext) (studentId : String)
    (dto : AdvanceAcademicLifecycleDto) (enrollment : AcademicEnrollment) (db : AdmissionsDb) : Prop :=
  JsText.trim dto.action = "promotion" ∧
    (enrollmentOfYear studentId (dto.academicYear collation context db)
      (withClosed enrollment.id .completed db.enrollments)).map (·.id) = some enrollment.id
deriving Decidable

/-- The subjects and timetable rows of an enrolment that a move closes are all among those it brings. -/
def LeavesNothing (call : AdmissionsCall) (db : AdmissionsDb) : Prop :=
  match call.operation with
  | .advanceStudentAcademicLifecycle studentId dto =>
    ∀ enrollment ∈ lockedEnrollment studentId db db,
      takesUpAgain collation call.context studentId dto enrollment db ∨
        (∀ row ∈ db.subjectEnrollments.rows, row.status = .active → row.academicEnrollmentId = enrollment.id →
          row.subjectOfferingId ∈ (broughtBy collation dto db).subjectEnrollments.map (·.subjectOfferingId)) ∧
        ∀ row ∈ db.timetableEnrollments.rows, row.status = .active → row.academicEnrollmentId = enrollment.id →
          row.timetableSlotId ∈ (broughtBy collation dto db).timetableEnrollments.map (·.timetableSlotId)
  | _ => True

instance (collation : Collation) : ∀ call db, Decidable (LeavesNothing collation call db)
  | ⟨_, .advanceStudentAcademicLifecycle _ _⟩, _ => inferInstanceAs (Decidable (∀ _ ∈ _, _ ∨ _ ∧ _))
  | ⟨_, .updateApplication _ _⟩, _ | ⟨_, .registerApprovedApplication _ _⟩, _ | ⟨_, .assignAllocation _ _⟩, _ =>
    .isTrue trivial

section Moves

variable {collation : Collation} {context : CallContext} {db after : AdmissionsDb} {studentId : String}
  {input : EnrollmentInput} {enrollment : AcademicEnrollment} {enrollments later : AcademicEnrollments}
  {academicEnrollmentId movedId : String} {classSection : Option AcademicClassSection}
  {dto : AdvanceAcademicLifecycleDto} {counted cleared : AdmissionsDb} {activeEnrollment : AcademicEnrollment}

theorem Enrolled.endsNone (enrolled : Enrolled context input enrollments enrollment later)
    {studentId : String} (before : isEnrolled enrollments studentId academicEnrollmentId) :
    isEnrolled later studentId academicEnrollmentId := by
  obtain ⟨row, member, same, active⟩ := before
  by_cases taken : row.id = enrollment.id
  · obtain ⟨owner, -, status⟩ := enrolled.returned
    have own := (enrolled.takenUp member taken).1
    exact ⟨enrollment, enrolled.rows.mpr (.inl rfl), taken.symm.trans same,
      owner.trans (own.symm.trans active.1), status⟩
  · exact ⟨row, enrolled.rows.mpr (.inr ⟨member, taken⟩), same, active⟩

theorem withClosed_isEnrolled {status : EnrollmentStatus} {closed : AcademicEnrollment}
    (member : closed ∈ enrollments.rows) (other : academicEnrollmentId ≠ closed.id)
    (before : isEnrolled enrollments studentId academicEnrollmentId) :
    isEnrolled (withClosed closed.id status enrollments) studentId academicEnrollmentId := by
  obtain ⟨row, present, same, active⟩ := before
  exact ⟨row, (withClosed_rows status member).mpr (.inr ⟨present, fun own => other (same.symm.trans own)⟩), same, active⟩

theorem Enrolled.own (enrolled : Enrolled context input enrollments enrollment later) :
    isEnrolled later input.studentId enrollment.id := by
  obtain ⟨owner, -, status⟩ := enrolled.returned
  exact ⟨enrollment, enrolled.rows.mpr (.inl rfl), rfl, owner, status⟩

theorem takenClasses_subjects
    {row : SubjectEnrollment} (member : row ∈ (takenClasses studentId academicEnrollmentId classSection db).subjectEnrollments) :
    row.studentId = studentId ∧ row.academicEnrollmentId = academicEnrollmentId := by
  cases classSection with
  | none => cases member
  | some chosen =>
    obtain ⟨offering, -, rfl⟩ := List.mem_map.mp member
    exact ⟨rfl, rfl⟩

theorem takenClasses_timetable
    {row : TimetableEnrollment}
    (member : row ∈ (takenClasses studentId academicEnrollmentId classSection db).timetableEnrollments) :
    row.studentId = studentId ∧ row.academicEnrollmentId = academicEnrollmentId := by
  cases classSection with
  | none => cases member
  | some chosen =>
    obtain ⟨slot, -, rfl⟩ := List.mem_map.mp member
    exact ⟨rfl, rfl⟩

theorem takenClasses_ids (db : AdmissionsDb) (studentId academicEnrollmentId : String)
    (classSection : Option AcademicClassSection) :
    (takenClasses studentId academicEnrollmentId classSection db).subjectEnrollments.map (·.subjectOfferingId) =
        (takenClasses "" "" classSection db).subjectEnrollments.map (·.subjectOfferingId) ∧
      (takenClasses studentId academicEnrollmentId classSection db).timetableEnrollments.map (·.timetableSlotId) =
        (takenClasses "" "" classSection db).timetableEnrollments.map (·.timetableSlotId) := by
  cases classSection with
  | none => exact ⟨rfl, rfl⟩
  | some chosen =>
    simp only [takenClasses, Option.elim, classEnrollments, List.map_map]
    exact ⟨rfl, rfl⟩

theorem putInto_follows {rows : ClassEnrollments}
    (subjects : ∀ row ∈ rows.subjectEnrollments, isEnrolled after.enrollments row.studentId row.academicEnrollmentId)
    (timetable : ∀ row ∈ rows.timetableEnrollments, isEnrolled after.enrollments row.studentId row.academicEnrollmentId)
    (oldSubjects : ∀ row ∈ after.subjectEnrollments.rows, row.status = .active →
      (∀ new ∈ rows.subjectEnrollments, (row.studentId, row.subjectOfferingId) ≠ (new.studentId, new.subjectOfferingId)) →
      isEnrolled after.enrollments row.studentId row.academicEnrollmentId)
    (oldTimetable : ∀ row ∈ after.timetableEnrollments.rows, row.status = .active →
      (∀ new ∈ rows.timetableEnrollments, (row.studentId, row.timetableSlotId) ≠ (new.studentId, new.timetableSlotId)) →
      isEnrolled after.enrollments row.studentId row.academicEnrollmentId) :
    FollowsEnrollments (rows.putInto after) := by
  refine ⟨fun row member active => ?_, fun row member active => ?_⟩
  · rcases mem_foldl_put member with new | ⟨old, apart⟩
    · exact subjects row new
    · exact oldSubjects row old active apart
  · rcases mem_foldl_put member with new | ⟨old, apart⟩
    · exact timetable row new
    · exact oldTimetable row old active apart

theorem Registered.follows {application : AdmissionApplication} {dto : RegisterApplicationDto} {student : StudentEntity}
    (moved : Registered collation context application dto counted cleared db student after)
    (follows : FollowsEnrollments db) : FollowsEnrollments after := by
  obtain ⟨fresh, allocations, enrollment, enrollments, -, enrolled, rfl⟩ := moved.written
  have own : isEnrolled enrollments student.id enrollment.id := enrolled.own
  refine putInto_follows (fun row member => ?_) (fun row member => ?_) (fun row member active _ => ?_)
    fun row member active _ => ?_
  · obtain ⟨owner, of⟩ := takenClasses_subjects member
    rw [owner, of]
    exact own
  · obtain ⟨owner, of⟩ := takenClasses_timetable member
    rw [owner, of]
    exact own
  · exact enrolled.endsNone (follows.subjects row member active)
  · exact enrolled.endsNone (follows.timetable row member active)

theorem Enrolled.staysEnrolled
    (enrolled : Enrolled context input (withClosed activeEnrollment.id .completed db.enrollments) enrollment later)
    (member : activeEnrollment ∈ db.enrollments.rows) (before : isEnrolled db.enrollments studentId academicEnrollmentId)
    (other : academicEnrollmentId ≠ activeEnrollment.id) :
    isEnrolled later studentId academicEnrollmentId :=
  enrolled.endsNone (withClosed_isEnrolled member other before)

theorem Promoted.follows
    (moved : Promoted collation context movedId activeEnrollment dto counted cleared db after)
    (active : activeEnrollment ∈ db.enrollments.rows ∧ isActiveOf movedId activeEnrollment)
    (promotes : JsText.trim dto.action = "promotion") (follows : FollowsEnrollments db)
    (leaves : takesUpAgain collation context movedId dto activeEnrollment db ∨
      (∀ row ∈ db.subjectEnrollments.rows, row.status = .active → row.academicEnrollmentId = activeEnrollment.id →
        row.subjectOfferingId ∈ (broughtBy collation dto db).subjectEnrollments.map (·.subjectOfferingId)) ∧
      ∀ row ∈ db.timetableEnrollments.rows, row.status = .active → row.academicEnrollmentId = activeEnrollment.id →
        row.timetableSlotId ∈ (broughtBy collation dto db).timetableEnrollments.map (·.timetableSlotId)) :
    FollowsEnrollments after := by
  obtain ⟨className, streamName, next, enrollments, allocations, fresh, enrolled, -, rfl⟩ := moved.written
  obtain ⟨member, ownActive⟩ := active
  have own : isEnrolled enrollments movedId next.id := enrolled.own
  have owns {studentId : String} (before : isEnrolled db.enrollments studentId activeEnrollment.id) :
      studentId = movedId := by
    obtain ⟨row, present, same, active⟩ := before
    obtain rfl := eq_of_key present member same
    exact active.1.symm.trans ownActive.1
  have again (taken : takesUpAgain collation context movedId dto activeEnrollment db) :
      next.id = activeEnrollment.id := by
    obtain ⟨row, found, same⟩ := Option.map_eq_some_iff.mp taken.2
    cases enrolled with
    | again other stored =>
      obtain rfl : row = other := Option.some.inj (found.symm.trans stored)
      exact same
    | afresh absent =>
      have absent : enrollmentOfYear movedId (dto.academicYear collation context db)
        (withClosed activeEnrollment.id .completed db.enrollments) = none := absent
      exact absurd (found.symm.trans absent) (by simp)
  have brought : broughtBy collation dto db = takenClasses "" "" (dto.classSection collation db) db := if_pos promotes
  obtain ⟨subjectIds, slotIds⟩ :=
    takenClasses_ids db movedId next.id (dto.classSection collation db)
  refine putInto_follows (fun row new => ?_) (fun row new => ?_) (fun row old isOn apart => ?_)
    fun row old isOn apart => ?_
  · obtain ⟨owner, of⟩ := takenClasses_subjects new
    rw [owner, of]
    exact own
  · obtain ⟨owner, of⟩ := takenClasses_timetable new
    rw [owner, of]
    exact own
  · have before := follows.subjects row old isOn
    by_cases closing : row.academicEnrollmentId = activeEnrollment.id
    · have owner := owns (closing ▸ before)
      rcases leaves with taken | ⟨replaced, -⟩
      · rw [owner, closing, ← again taken]
        exact own
      · have found := replaced row old isOn closing
        rw [brought, ← subjectIds] at found
        obtain ⟨new, present, same⟩ := List.mem_map.mp found
        exact absurd (Prod.ext (owner.trans (takenClasses_subjects present).1.symm) same.symm) (apart new present)
    · exact enrolled.staysEnrolled member before closing
  · have before := follows.timetable row old isOn
    by_cases closing : row.academicEnrollmentId = activeEnrollment.id
    · have owner := owns (closing ▸ before)
      rcases leaves with taken | ⟨-, replaced⟩
      · rw [owner, closing, ← again taken]
        exact own
      · have found := replaced row old isOn closing
        rw [brought, ← slotIds] at found
        obtain ⟨new, present, same⟩ := List.mem_map.mp found
        exact absurd (Prod.ext (owner.trans (takenClasses_timetable present).1.symm) same.symm) (apart new present)
    · exact enrolled.staysEnrolled member before closing

theorem Left.follows {action : AcademicLifecycleAction}
    {enrollmentStatus : EnrollmentStatus}
    (moved : Left context movedId activeEnrollment action enrollmentStatus dto db after)
    (member : activeEnrollment ∈ db.enrollments.rows) (follows : FollowsEnrollments db)
    (subjects : ∀ row ∈ db.subjectEnrollments.rows, row.status = .active →
      row.academicEnrollmentId ≠ activeEnrollment.id)
    (timetable : ∀ row ∈ db.timetableEnrollments.rows, row.status = .active →
      row.academicEnrollmentId ≠ activeEnrollment.id) : FollowsEnrollments after := by
  obtain ⟨status, fresh, rfl⟩ := moved.written
  refine ⟨fun row present isOn => ?_, fun row present isOn => ?_⟩
  · exact withClosed_isEnrolled member (subjects row present isOn) (follows.subjects row present isOn)
  · exact withClosed_isEnrolled member (timetable row present isOn) (follows.timetable row present isOn)

theorem parse_of_promotion {action : String} (named : JsText.trim action = "promotion") :
    parseAcademicLifecycleAction action = .ok .promotion := by
  unfold parseAcademicLifecycleAction
  rw [named]
  rfl

theorem settle_follows (call : AdmissionsCall) (follows : FollowsEnrollments db)
    (leaves : LeavesNothing collation call db) :
    FollowsEnrollments (settle (perform collation) ⟨call, []⟩ db).1 := by
  refine settle_performed FollowsEnrollments follows fun response after performed => ?_
  cases performed with
  | reviewed => exact ⟨follows.subjects, follows.timetable⟩
  | repeated => exact follows
  | registered application dto asked found approved moved => exact moved.follows follows
  | advanced movedId dto activeEnrollment asked locked moved =>
    have asked : call.operation = .advanceStudentAcademicLifecycle movedId dto := asked
    have locked : lockedEnrollment movedId db db = some activeEnrollment := locked
    rw [LeavesNothing, asked] at leaves
    have leaves := leaves activeEnrollment locked
    obtain ⟨found, active⟩ := lockedEnrollment_some locked
    have member := ((find_eq_some _).mp found).1
    cases moved with
    | promoted promotes moved =>
      exact moved.follows ⟨member, active⟩ (promotion_of_parse promotes) follows leaves
    | left action enrollmentStatus leaving moved =>
      have stays : JsText.trim dto.action ≠ "promotion" := fun named =>
        moved.leaves (Except.ok.inj (leaving.symm.trans (parse_of_promotion named)))
      have nothing : broughtBy collation dto db = ⟨[], []⟩ := if_neg stays
      rw [nothing] at leaves
      rcases leaves with taken | ⟨subjects, timetable⟩
      · exact absurd taken.1 stays
      · refine moved.follows member follows (fun row present isOn same => ?_) fun row present isOn same => ?_
        · exact absurd (subjects row present isOn same) List.not_mem_nil
        · exact absurd (timetable row present isOn same) List.not_mem_nil
  | allocated => exact ⟨follows.subjects, follows.timetable⟩

end Moves

/-- Subjects and timetables follow the enrolments in every sequence of calls whose moves bring all that the enrolment
they close has. -/
theorem timetables_follow_enrollments (collation : Collation) (start : AdmissionsDb) (calls : List AdmissionsCall)
    (follows : FollowsEnrollments start)
    (leaves : Meets (alone (perform collation)) (fun world call => LeavesNothing collation call world.db)
      (World.idle start) calls) :
    Along (alone (perform collation)) (fun world => FollowsEnrollments world.db) (World.idle start) calls :=
  along_of_alone (fun db _ => FollowsEnrollments db) (fun db _ => FollowsEnrollments db)
    (fun call _ _ follows leaves => settle_follows call follows leaves) (fun _ _ follows => follows) follows leaves

def mathematicsClass : AdmissionsDb :=
  { oneSeat with
    subjectOfferings := KeyedTable.empty.put
      { id := "offering-1", classSectionId := "section-1", subjectCode := "MAT", subjectName := "Mathematics",
        isActive := true } }

def graduation (studentId : String) : AdmissionsCall where
  context := registrar "2"
  operation := .advanceStudentAcademicLifecycle studentId
    { action := "graduation", className := none, streamName := none, reason := none, notes := none }

theorem timetables_follow_graduation :
    Along (alone (perform caseless)) (fun world => FollowsEnrollments world.db) (World.idle oneSeat)
      [registration "1" "application-1", graduation "student-1"] :=
  timetables_follow_enrollments caseless oneSeat _ ⟨by decide, by decide⟩ (by decide +kernel)

/-- Graduation closes the enrolment and leaves its subjects active. -/
theorem graduates_keep_subjects :
    ¬ ∀ (collation : Collation) (start : AdmissionsDb) (calls : List AdmissionsCall), FollowsEnrollments start →
      Along (alone (perform collation)) (fun world => FollowsEnrollments world.db) (World.idle start) calls := by
  intro always
  have follows := run_of_along (always caseless mathematicsClass
    [registration "1" "application-1", graduation "student-1"] ⟨by decide, by decide⟩)
  exact absurd follows.subjects (by decide +kernel)

end ShuleHub.Admissions
