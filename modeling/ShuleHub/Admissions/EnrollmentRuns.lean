import ShuleHub.Admissions.SeatRuns

/-! The enrolments and allocations of one student under registrations, moves and assignments in any interleaving. -/

namespace ShuleHub.Admissions

open Runs Transaction Snapshots KeyedTable

variable (studentId : String)

def isClosed (row : AcademicEnrollment) : Prop := row.status = .completed ∨ row.status = .withdrawn
deriving Decidable

def AtMostOne {Row : Type} (holds : Row → Prop) (rows : List Row) : Prop :=
  ∀ first ∈ rows, ∀ second ∈ rows, holds first → holds second → first = second

instance {Row : Type} [DecidableEq Row] (holds : Row → Prop) [DecidablePred holds] (rows : List Row) :
    Decidable (AtMostOne holds rows) :=
  inferInstanceAs (Decidable (∀ first ∈ rows, ∀ second ∈ rows, _))

def goesElsewhere (event : AcademicLifecycleEvent) : Prop :=
  ∃ target ∈ event.targetEnrollmentId, target ≠ event.sourceEnrollmentId

structure EnrollmentLaw (db : AdmissionsDb) (finished : List FinishedAdmission) : Prop where
  oneActive : AtMostOne (isActiveOf studentId) db.enrollments.rows
  oneCurrent : AtMostOne (isCurrentOf studentId) db.allocations.rows
  elsewhere : ∀ event ∈ db.lifecycleEvents.rows, event.studentId = studentId → event.eventType = .promotion →
    goesElsewhere event
  closedStay : ∀ done ∈ finished, ∀ row ∈ done.before.enrollments.rows, row.studentId = studentId → isClosed row →
    row ∈ done.after.enrollments.rows

structure RefersToStudent (db : AdmissionsDb) : Prop where
  enrollments : ∀ row ∈ db.enrollments.rows, row.studentId = studentId → db.students.find studentId ≠ none
  allocations : ∀ row ∈ db.allocations.rows, row.studentId = studentId → db.students.find studentId ≠ none

/-- The `UPDATE` of an allocation began when it could see all the current ones. -/
def SeesCurrent (seen db : AdmissionsDb) : Prop :=
  ∀ row ∈ db.allocations.rows, isCurrentOf studentId row →
    ∃ shown ∈ seen.allocations.find row.id, isCurrentOf studentId shown
deriving Decidable

/-- No enrolment of the student for the year of the target is finished, and the active one is for that year only where
the section is known, for which the year is compared. -/
def TakesNewYear (collation : Collation) (context : CallContext) (studentId : String)
    (dto : AdvanceAcademicLifecycleDto) (db : AdmissionsDb) : Prop :=
  ∀ row ∈ db.enrollments.rows, row.studentId = studentId → row.academicYear = dto.academicYear collation context db →
    ¬ isClosed row ∧ (row.status = .active → dto.classSection collation db ≠ none)
deriving Decidable

def MovesOn (collation : Collation) (studentId : String) (transaction : InFlight AdmissionsDb AdmissionsCall)
    (db : AdmissionsDb) : Prop :=
  match transaction.request.operation with
  | .advanceStudentAcademicLifecycle id dto =>
    id = studentId → JsText.trim dto.action = "promotion" →
      TakesNewYear collation transaction.request.context studentId dto db ∧
        SeesCurrent studentId (transaction.snapshots.tail.tail.headD db) db
  | .assignAllocation id _ => id = studentId → SeesCurrent studentId (transaction.snapshots.headD db) db
  | _ => True

instance (collation : Collation) (studentId : String) (transaction : InFlight AdmissionsDb AdmissionsCall)
    (db : AdmissionsDb) : Decidable (MovesOn collation studentId transaction db) := by
  unfold MovesOn
  split <;> infer_instance

section Tables

variable {context : CallContext} {input : EnrollmentInput} {enrollment : AcademicEnrollment}
  {enrollments after : AcademicEnrollments}
  {Row : Type} {row : AcademicEnrollment} {seen db : AdmissionsDb} {allocations : StudentAllocations}

theorem AtMostOne.of_subset {holds : Row → Prop} {rows others : List Row} (one : AtMostOne holds rows)
    (old : ∀ row ∈ others, holds row → row ∈ rows) : AtMostOne holds others :=
  fun first firstMember second secondMember firstHolds secondHolds =>
    one first (old first firstMember firstHolds) second (old second secondMember secondHolds) firstHolds secondHolds

theorem AtMostOne.of_eq {holds : Row → Prop} {rows : List Row} (only : Row)
    (same : ∀ row ∈ rows, holds row → row = only) : AtMostOne holds rows :=
  fun first firstMember second secondMember firstHolds secondHolds =>
    (same first firstMember firstHolds).trans (same second secondMember secondHolds).symm

theorem Enrolled.returned (enrolled : Enrolled context input enrollments enrollment after) :
    enrollment.studentId = input.studentId ∧ enrollment.academicYear = input.academicYear ∧
      enrollment.status = .active := by
  cases enrolled with
  | again row found =>
    have matching := List.find?_some found
    simp only [decide_eq_true_eq] at matching
    exact ⟨matching.1, matching.2, rfl⟩
  | afresh => exact ⟨rfl, rfl, rfl⟩

theorem Enrolled.rows (enrolled : Enrolled context input enrollments enrollment after) :
    row ∈ after.rows ↔ row = enrollment ∨ row ∈ enrollments.rows ∧ row.id ≠ enrollment.id := by
  cases enrolled with
  | again found matching =>
    have member : found ∈ enrollments.rows := List.mem_of_find?_eq_some matching
    rw [mem_update]
    constructor
    · rintro (⟨old, present, same, rfl⟩ | ⟨present, differs⟩)
      · rw [eq_of_key present member same]
        exact .inl rfl
      · exact .inr ⟨present, differs⟩
    · rintro (rfl | ⟨present, differs⟩)
      · exact .inl ⟨found, member, rfl, rfl⟩
      · exact .inr ⟨present, differs⟩
  | afresh absent fresh =>
    rw [mem_insert]
    constructor
    · rintro (present | rfl)
      · exact .inr ⟨present, fresh row present⟩
      · exact .inl rfl
    · rintro (rfl | ⟨present, -⟩)
      · exact .inr rfl
      · exact .inl present

theorem Enrolled.takenUp (enrolled : Enrolled context input enrollments enrollment after)
    (member : row ∈ enrollments.rows) (same : row.id = enrollment.id) :
    row.studentId = input.studentId ∧ row.academicYear = input.academicYear := by
  cases enrolled with
  | again found matching =>
    obtain rfl : row = found := eq_of_key member (List.mem_of_find?_eq_some matching) same
    simpa using List.find?_some matching
  | afresh absent fresh => exact absurd same (fresh row member)

theorem withClosed_rows (status : EnrollmentStatus) {closed : AcademicEnrollment}
    (member : closed ∈ enrollments.rows) :
    row ∈ (withClosed closed.id status enrollments).rows ↔
      row = closeEnrollment status closed ∨ row ∈ enrollments.rows ∧ row.id ≠ closed.id := by
  rw [withClosed, mem_update]
  constructor
  · rintro (⟨old, present, same, rfl⟩ | ⟨present, differs⟩)
    · rw [eq_of_key present member same]
      exact .inl rfl
    · exact .inr ⟨present, differs⟩
  · rintro (rfl | ⟨present, differs⟩)
    · exact .inl ⟨closed, member, rfl, rfl⟩
    · exact .inr ⟨present, differs⟩

theorem closeEnrollment_of_active (status : EnrollmentStatus) (active : row.status = .active) :
    closeEnrollment status row = { row with status } :=
  if_pos active

theorem Allocated.oneCurrent {input : AllocationInput}
    {studentId : String} (allocated : Allocated context input seen db.allocations allocations)
    (one : AtMostOne (isCurrentOf studentId) db.allocations.rows)
    (sees : input.studentId = studentId → SeesCurrent studentId seen db) :
    AtMostOne (isCurrentOf studentId) allocations.rows := by
  obtain ⟨fresh, rfl⟩ := allocated
  have old (row : StudentAllocation) (member : row ∈ (clearAllocations input.studentId seen db.allocations).rows)
      (current : isCurrentOf studentId row) : input.studentId ≠ studentId ∧ row ∈ db.allocations.rows := by
    obtain ⟨before, present, rfl⟩ := mem_modify.mp member
    unfold clearAllocation at current ⊢
    split at current
    · exact absurd current.2 Bool.false_ne_true
    · next unreached =>
      rw [if_neg unreached]
      refine ⟨?_, present⟩
      rintro rfl
      exact unreached ⟨current, sees rfl before present current⟩
  by_cases own : input.studentId = studentId
  · refine AtMostOne.of_eq (input.newRow context) fun row member current => ?_
    rcases mem_insert.mp member with cleared | new
    · exact absurd own (old row cleared current).1
    · exact new
  · refine one.of_subset fun row member current => ?_
    rcases mem_insert.mp member with cleared | rfl
    · exact (old row cleared current).2
    · exact absurd current.1 own

theorem Allocated.students {input : AllocationInput}
    (allocated : Allocated context input seen db.allocations allocations) {row : StudentAllocation}
    (member : row ∈ allocations.rows) :
    row.studentId = input.studentId ∨ ∃ before ∈ db.allocations.rows, before.studentId = row.studentId := by
  obtain ⟨fresh, rfl⟩ := allocated
  rcases mem_insert.mp member with cleared | rfl
  · obtain ⟨before, present, rfl⟩ := mem_modify.mp cleared
    refine .inr ⟨before, present, ?_⟩
    unfold clearAllocation
    split <;> rfl
  · exact .inl rfl

end Tables

section Moves

variable {collation : Collation} {context : CallContext} {studentId : String} {db after : AdmissionsDb}
  {transaction : InFlight AdmissionsDb AdmissionsCall}
  {dto : AdvanceAcademicLifecycleDto} {counted cleared : AdmissionsDb} {movedId : String}
  {activeEnrollment : AcademicEnrollment}

structure KeepsEnrollments (studentId : String) (db after : AdmissionsDb) : Prop where
  refers : RefersToStudent studentId after
  oneActive : AtMostOne (isActiveOf studentId) after.enrollments.rows
  oneCurrent : AtMostOne (isCurrentOf studentId) after.allocations.rows
  elsewhere : ∀ event ∈ after.lifecycleEvents.rows, event.studentId = studentId → event.eventType = .promotion →
    goesElsewhere event
  closedStay : ∀ row ∈ db.enrollments.rows, row.studentId = studentId → isClosed row → row ∈ after.enrollments.rows

theorem Registered.keepsEnrollments {application : AdmissionApplication} {dto : RegisterApplicationDto} {student : StudentEntity}
    (moved : Registered collation context application dto counted cleared db student after)
    (refers : RefersToStudent studentId db) (law : EnrollmentLaw studentId db []) :
    KeepsEnrollments studentId db after := by
  obtain ⟨fresh, allocations, enrollment, enrollments, allocated, enrolled, rfl⟩ := moved.written
  obtain ⟨owner, -, -⟩ := enrolled.returned
  have owner : enrollment.studentId = student.id := owner
  -- The student is new, so nothing refers to it yet.
  have absent (own : student.id = studentId) : db.students.find studentId = none :=
    (find_eq_none _).mpr fun row member => own ▸ fresh row member
  have unenrolled (own : student.id = studentId) (row : AcademicEnrollment) (member : row ∈ db.enrollments.rows) :
      row.studentId ≠ studentId := fun same => refers.enrollments row member same (absent own)
  have unallocated (own : student.id = studentId) (row : StudentAllocation) (member : row ∈ db.allocations.rows) :
      row.studentId ≠ studentId := fun same => refers.allocations row member same (absent own)
  have stored (known : db.students.find studentId ≠ none ∨ student.id = studentId) :
      (db.students.insert student fresh).find studentId ≠ none := by
    intro none
    have missing := (find_eq_none _).mp none
    rcases known with known | own
    · exact known ((find_eq_none _).mpr fun row member =>
        missing row (mem_insert.mpr (.inl member)))
    · exact missing student (mem_insert.mpr (.inr rfl)) own
  refine ⟨⟨fun row member own => ?_, fun row member own => ?_⟩, ?_, ?_, law.elsewhere, fun row member own _ => ?_⟩
  · rcases enrolled.rows.mp member with rfl | ⟨present, -⟩
    · exact stored (.inr (owner.symm.trans own))
    · exact stored (.inl (refers.enrollments row present own))
  · rcases allocated.students member with same | ⟨before, present, same⟩
    · exact stored (.inr (same.symm.trans own))
    · exact stored (.inl (refers.allocations before present (same.trans own)))
  · by_cases own : student.id = studentId
    · refine AtMostOne.of_eq enrollment fun row member active => ?_
      rcases enrolled.rows.mp member with same | ⟨present, -⟩
      · exact same
      · exact absurd active.1 (unenrolled own row present)
    · refine law.oneActive.of_subset fun row member active => ?_
      rcases enrolled.rows.mp member with rfl | ⟨present, -⟩
      · exact absurd (owner.symm.trans active.1) own
      · exact present
  · exact allocated.oneCurrent law.oneCurrent fun own row member current =>
      absurd current.1 (unallocated own row member)
  · refine enrolled.rows.mpr (.inr ⟨member, fun same => ?_⟩)
    obtain ⟨taken, -⟩ := enrolled.takenUp member same
    have taken : row.studentId = student.id := taken
    exact unenrolled (taken.symm.trans own) row member own

theorem Promoted.keepsEnrollments
    (moved : Promoted collation context movedId activeEnrollment dto counted cleared db after)
    (active : activeEnrollment ∈ db.enrollments.rows ∧ isActiveOf movedId activeEnrollment)
    (refers : RefersToStudent studentId db) (law : EnrollmentLaw studentId db [])
    (newYear : movedId = studentId → TakesNewYear collation context studentId dto db)
    (sees : movedId = studentId → SeesCurrent studentId cleared db) : KeepsEnrollments studentId db after := by
  obtain ⟨className, streamName, next, enrollments, allocations, fresh, enrolled, allocated, rfl⟩ := moved.written
  obtain ⟨member, ownActive⟩ := active
  obtain ⟨owner, year, -⟩ := enrolled.returned
  have owner : next.studentId = movedId := owner
  have year : next.academicYear = dto.academicYear collation context db := year
  have closed := closeEnrollment_of_active .completed ownActive.2
  have stored (own : movedId = studentId) : db.students.find studentId ≠ none :=
    refers.enrollments activeEnrollment member (ownActive.1.trans own)
  refine ⟨⟨fun row present own => ?_, fun row present own => ?_⟩, ?_, ?_, fun event recorded own promotion => ?_,
    fun row present own finished => ?_⟩
  · rcases enrolled.rows.mp present with rfl | ⟨old, -⟩
    · exact stored (owner.symm.trans own)
    · rcases (withClosed_rows .completed member).mp old with rfl | ⟨old, -⟩
      · rw [closed] at own
        exact refers.enrollments activeEnrollment member own
      · exact refers.enrollments row old own
  · rcases allocated.students present with same | ⟨before, old, same⟩
    · exact stored (same.symm.trans own)
    · exact refers.allocations before old (same.trans own)
  · by_cases own : movedId = studentId
    · refine AtMostOne.of_eq next fun row present holds => ?_
      rcases enrolled.rows.mp present with same | ⟨old, -⟩
      · exact same
      · rcases (withClosed_rows .completed member).mp old with rfl | ⟨old, differs⟩
        · rw [closed] at holds
          cases holds.2
        · exact absurd (congrArg (·.id) (law.oneActive row old activeEnrollment member holds
            (own ▸ ownActive))) differs
    · refine law.oneActive.of_subset fun row present holds => ?_
      rcases enrolled.rows.mp present with rfl | ⟨old, -⟩
      · exact absurd (owner.symm.trans holds.1) own
      · rcases (withClosed_rows .completed member).mp old with rfl | ⟨old, -⟩
        · rw [closed] at holds
          cases holds.2
        · exact old
  · exact allocated.oneCurrent law.oneCurrent sees
  · have recorded : event ∈ (db.lifecycleEvents.insert _ fresh).rows := recorded
    rcases mem_insert.mp recorded with old | rfl
    · exact law.elsewhere event old own promotion
    · have own : movedId = studentId := ownActive.1.symm.trans own
      refine ⟨next.id, rfl, fun same => ?_⟩
      have same : next.id = activeEnrollment.id := same
      -- The upsert took up the row that was just completed.
      have taken := enrolled.takenUp ((withClosed_rows .completed member).mpr (.inl rfl))
        ((closeEnrollment_id .completed activeEnrollment).trans same.symm)
      rw [closed] at taken
      have sameYear : activeEnrollment.academicYear = dto.academicYear collation context db := taken.2
      have known := (newYear own activeEnrollment member (ownActive.1.trans own) sameYear).2 ownActive.2
      exact moved.otherYear known sameYear.symm
  · have differs : row.id ≠ activeEnrollment.id := by
      intro same
      obtain rfl := eq_of_key present member same
      rcases finished with finished | finished <;> exact absurd (ownActive.2.symm.trans finished) (by decide)
    have kept := (withClosed_rows .completed member).mpr (.inr ⟨present, differs⟩)
    refine enrolled.rows.mpr (.inr ⟨kept, fun same => ?_⟩)
    obtain ⟨taken, sameYear⟩ := enrolled.takenUp kept same
    have own' : movedId = studentId := Eq.trans (Eq.symm taken) own
    exact (newYear own' row present own sameYear).1 finished

theorem Left.keepsEnrollments
    {action : AcademicLifecycleAction} {enrollmentStatus : EnrollmentStatus}
    (moved : Left context movedId activeEnrollment action enrollmentStatus dto db after)
    (active : activeEnrollment ∈ db.enrollments.rows ∧ isActiveOf movedId activeEnrollment)
    (refers : RefersToStudent studentId db) (law : EnrollmentLaw studentId db []) :
    KeepsEnrollments studentId db after := by
  obtain ⟨status, fresh, rfl⟩ := moved.written
  obtain ⟨member, ownActive⟩ := active
  have closed := closeEnrollment_of_active enrollmentStatus ownActive.2
  have closes : enrollmentStatus ≠ .active := by
    rcases moved.closes with rfl | rfl <;> decide
  have stored (known : db.students.find studentId ≠ none) :
      (db.students.update movedId (withStatus status) (withStatus_id status)).find studentId ≠ none := by
    rw [update, find_modify]
    simpa using known
  refine ⟨⟨fun row present own => stored ?_, fun row present own => stored ?_⟩, ?_, law.oneCurrent,
    fun event recorded own promotion => ?_, fun row present own finished => ?_⟩
  · rcases (withClosed_rows enrollmentStatus member).mp present with rfl | ⟨old, -⟩
    · rw [closed] at own
      exact refers.enrollments activeEnrollment member own
    · exact refers.enrollments row old own
  · exact refers.allocations row present own
  · refine law.oneActive.of_subset fun row present holds => ?_
    rcases (withClosed_rows enrollmentStatus member).mp present with rfl | ⟨old, -⟩
    · rw [closed] at holds
      exact absurd holds.2 closes
    · exact old
  · have recorded : event ∈ (db.lifecycleEvents.insert _ fresh).rows := recorded
    rcases mem_insert.mp recorded with old | rfl
    · exact law.elsewhere event old own promotion
    · exact absurd promotion moved.leaves
  · refine (withClosed_rows enrollmentStatus member).mpr (.inr ⟨present, fun same => ?_⟩)
    obtain rfl := eq_of_key present member same
    rcases finished with finished | finished <;> exact absurd (ownActive.2.symm.trans finished) (by decide)

theorem promotion_of_parse {action : String} (parsed : parseAcademicLifecycleAction action = .ok .promotion) :
    JsText.trim action = "promotion" := by
  unfold parseAcademicLifecycleAction at parsed
  split at parsed
  · next named => exact named
  all_goals cases parsed

theorem settle_keepsEnrollments (transaction : InFlight AdmissionsDb AdmissionsCall)
    (refers : RefersToStudent studentId db) (law : EnrollmentLaw studentId db [])
    (moves : MovesOn collation studentId transaction db) :
    KeepsEnrollments studentId db (settle (perform collation) transaction db).1 := by
  have same {after : AdmissionsDb} (students : after.students = db.students)
      (enrollments : after.enrollments = db.enrollments) (allocations : after.allocations = db.allocations)
      (events : after.lifecycleEvents = db.lifecycleEvents) : KeepsEnrollments studentId db after :=
    { refers := ⟨enrollments ▸ students ▸ refers.enrollments, allocations ▸ students ▸ refers.allocations⟩
      oneActive := enrollments ▸ law.oneActive
      oneCurrent := allocations ▸ law.oneCurrent
      elsewhere := events ▸ law.elsewhere
      closedStay := fun row present _ _ => enrollments ▸ present }
  refine settle_performed (KeepsEnrollments studentId db) (same rfl rfl rfl rfl) fun _ after performed => ?_
  cases performed with
  | reviewed => exact same rfl rfl rfl rfl
  | repeated => exact same rfl rfl rfl rfl
  | registered application dto asked found approved moved => exact moved.keepsEnrollments refers law
  | advanced movedId dto activeEnrollment asked locked moved =>
    obtain ⟨found, active⟩ := lockedEnrollment_some locked
    have member := ((find_eq_some _).mp found).1
    cases moved with
    | promoted promotes moved =>
      rw [MovesOn, asked] at moves
      have action := promotion_of_parse promotes
      exact moved.keepsEnrollments ⟨member, active⟩ refers law (fun own => (moves own action).1)
        fun own => (moves own action).2
    | left action enrollmentStatus leaves moved => exact moved.keepsEnrollments ⟨member, active⟩ refers law
  | allocated movedId dto asked stored moved =>
    rw [MovesOn, asked] at moves
    refine ⟨⟨refers.enrollments, fun row present own => ?_⟩, law.oneActive, moved.oneCurrent law.oneCurrent moves,
      law.elsewhere, fun row present _ _ => present⟩
    rcases moved.students present with given | ⟨before, old, given⟩
    · have given : row.studentId = movedId := given
      exact given.symm.trans own ▸ stored
    · exact refers.allocations before old (given.trans own)

end Moves

/-- A student keeps one active enrolment and one current allocation at most, and its enrolments that are finished, in
every run whose promotions go to a year that is new to the student and whose allocations see each other. -/
theorem enrollments_kept (collation : Collation) (studentId : String) (start : AdmissionsDb)
    (events : List (Snapshots.Event AdmissionsCall)) (refers : RefersToStudent studentId start)
    (law : EnrollmentLaw studentId start [])
    (moves : Meets (step (perform collation)) (Committing (MovesOn collation studentId)) (World.idle start) events) :
    Along (step (perform collation)) (fun world => EnrollmentLaw studentId world.db world.finished)
      (World.idle start) events := by
  refine along_of_commits
    (fun db finished => RefersToStudent studentId db ∧ EnrollmentLaw studentId db finished) (EnrollmentLaw studentId)
    (fun _ _ _ => trivial) (fun transaction db finished inv _ moves => ?_) (fun _ _ inv => inv.2) ⟨refers, law⟩ moves
  obtain ⟨refers, law⟩ := inv
  have kept := settle_keepsEnrollments transaction refers
    ⟨law.oneActive, law.oneCurrent, law.elsewhere, fun _ none => by cases none⟩ moves
  refine ⟨kept.refers, kept.oneActive, kept.oneCurrent, kept.elsewhere, fun done member => ?_⟩
  rcases List.mem_append.mp member with old | new
  · exact law.closedStay done old
  · rw [List.mem_singleton.mp new]
    exact kept.closedStay

theorem one_place : some 1 ≠ some 0 := by
  decide

def gradeFive : AcademicClassSection :=
  { gradeFour 1 one_place with id := "section-2", className := "Grade 5", academicYear := "2027" }

def twoClasses : AdmissionsDb :=
  { oneSeat with classSections := oneSeat.classSections.put gradeFive }

def move (number action className streamName : String) : AdmissionsCall where
  context := registrar number
  operation := .advanceStudentAcademicLifecycle "student-1"
    { action, className := some className, streamName := some streamName, reason := none, notes := none }

theorem twoClasses_law : RefersToStudent "student-1" twoClasses ∧ EnrollmentLaw "student-1" twoClasses [] :=
  ⟨⟨by decide +kernel, by decide +kernel⟩, by decide +kernel, by decide +kernel, by simp [twoClasses, oneSeat,
    approvedApplications, AdmissionsDb.empty, empty], by simp⟩

theorem enrollments_kept_promoted :
    Along (step (perform caseless)) (fun world => EnrollmentLaw "student-1" world.db world.finished)
      (World.idle twoClasses)
      [.begin (registration "1" "application-1"), .commit 0, .begin (move "2" "promotion" "Grade 5" "East"), .commit 0,
        .begin (move "3" "graduation" "" ""), .commit 0] :=
  enrollments_kept caseless "student-1" twoClasses _ twoClasses_law.1 twoClasses_law.2 (by decide +kernel)

/-- A promotion into a class that no section has is for the current year, and completes and takes up one enrolment. -/
theorem promotion_returns_to_source :
    ¬ ∀ (collation : Collation) (studentId : String) (start : AdmissionsDb)
      (events : List (Snapshots.Event AdmissionsCall)), RefersToStudent studentId start →
      EnrollmentLaw studentId start [] →
        Along (step (perform collation)) (fun world => EnrollmentLaw studentId world.db world.finished)
          (World.idle start) events := by
  intro always
  let events : List (Snapshots.Event AdmissionsCall) :=
    [.begin (registration "1" "application-1"), .commit 0, .begin (move "2" "promotion" "Grade 6" "North"), .commit 0]
  have law := run_of_along (always caseless "student-1" twoClasses events twoClasses_law.1 twoClasses_law.2)
  have recorded : ∃ event ∈ (run (step (perform caseless)) (World.idle twoClasses) events).db.lifecycleEvents.rows,
      event.studentId = "student-1" ∧ event.eventType = .promotion ∧
        event.targetEnrollmentId = some event.sourceEnrollmentId := by decide +kernel
  obtain ⟨event, member, own, promotion, same⟩ := recorded
  obtain ⟨target, named, differs⟩ := law.elsewhere event member own promotion
  exact differs (Option.some.inj (named.symm.trans same))

end ShuleHub.Admissions
