import ShuleHub.Admissions.Lifecycle

/-! The calls on one application in any interleaving: when its registrations make one student and all return it. -/

namespace ShuleHub.Admissions

open Runs Transaction Snapshots KeyedTable

variable (applicationId : String) (db : AdmissionsDb)

abbrev FinishedAdmission := Snapshots.Finished AdmissionsDb AdmissionsCall Exception AdmissionsResponse

def admittedBy : Option String :=
  (db.applications.find applicationId).bind (·.admittedStudentId)

def isFrom (student : StudentEntity) : Prop :=
  student.admission.map (·.applicationId) = some applicationId
deriving Decidable

def isRegistrationOf (call : AdmissionsCall) : Prop :=
  match call.operation with
  | .registerApprovedApplication id _ => id = applicationId
  | _ => False

instance (applicationId : String) : DecidablePred (isRegistrationOf applicationId) := fun call => by
  unfold isRegistrationOf
  split <;> infer_instance

def returnsStudent (studentId : String) (outcome : Except Exception AdmissionsResponse) : Prop :=
  match outcome with
  | .ok (.registration result) => result.student.id = studentId
  | _ => False

structure RegisteredOnce (finished : List FinishedAdmission) : Prop where
  one : ∀ first ∈ db.students.rows, ∀ second ∈ db.students.rows, isFrom applicationId first →
    isFrom applicationId second → first = second
  lasts : ∀ done ∈ finished, ∀ studentId ∈ admittedBy applicationId done.before,
    admittedBy applicationId done.after = some studentId
  repeats : ∀ done ∈ finished, isRegistrationOf applicationId done.request →
    ∀ studentId ∈ admittedBy applicationId done.before, returnsStudent studentId done.outcome

structure NamesItsStudent : Prop where
  own : ∀ student ∈ db.students.rows, isFrom applicationId student → admittedBy applicationId db = some student.id
  present : ∀ studentId ∈ admittedBy applicationId db, db.students.find studentId ≠ none

/-- A registration finds the application without a student, or with one and still in the status of a registered one. -/
def FindsItRegistered (transaction : InFlight AdmissionsDb AdmissionsCall)
    (db : AdmissionsDb) : Prop :=
  isRegistrationOf applicationId transaction.request → ∀ application ∈ db.applications.find applicationId,
    application.admittedStudentId ≠ none → application.status = "registered"
deriving Decidable

section Steps

variable {collation : Collation} {context : CallContext} {applicationId : String} {db after : AdmissionsDb}
  {session later : Session AdmissionsDb}
  {studentId : String} {dto : RegisterApplicationDto} {counted cleared : AdmissionsDb}
  {application : AdmissionApplication} {student : StudentEntity}

theorem NamesItsStudent.one (names : NamesItsStudent applicationId db) {first second : StudentEntity}
    (firstMember : first ∈ db.students.rows) (secondMember : second ∈ db.students.rows)
    (firstFrom : isFrom applicationId first) (secondFrom : isFrom applicationId second) : first = second := by
  have same := (names.own first firstMember firstFrom).symm.trans (names.own second secondMember secondFrom)
  exact eq_of_key firstMember secondMember (Option.some.inj same)

theorem NamesItsStudent.congr (names : NamesItsStudent applicationId db)
    (students : after.students = db.students) (admitted : admittedBy applicationId after = admittedBy applicationId db) :
    NamesItsStudent applicationId after := by
  refine ⟨?_, ?_⟩
  · rw [students, admitted]
    exact names.own
  · rw [students, admitted]
    exact names.present

theorem NamesItsStudent.status (names : NamesItsStudent applicationId db) {status : String}
    (students : after.students = db.students.update studentId (withStatus status) (withStatus_id status))
    (applications : after.applications = db.applications) : NamesItsStudent applicationId after := by
  have admitted : admittedBy applicationId after = admittedBy applicationId db := by rw [admittedBy, admittedBy, applications]
  refine ⟨fun student member own => ?_, fun wanted named => ?_⟩
  · rw [admitted]
    rw [students] at member
    rcases mem_update.mp member with ⟨old, present, -, rfl⟩ | ⟨present, -⟩
    · exact names.own old present own
    · exact names.own student present own
  · rw [admitted] at named
    have before := names.present wanted named
    rw [students, update, find_modify]
    simpa using before

theorem admittedBy_update {changedId : String} (change : AdmissionApplication → AdmissionApplication)
    (kept : ∀ row, (change row).id = row.id) (same : ∀ row, (change row).admittedStudentId = row.admittedStudentId)
    (changed : after.applications = db.applications.update changedId change kept) :
    admittedBy applicationId after = admittedBy applicationId db := by
  unfold admittedBy
  rw [changed, update, find_modify]
  cases db.applications.find applicationId with
  | none => rfl
  | some row =>
    simp only [Option.map_some, Option.bind_some]
    split
    · exact same row
    · rfl

theorem Advanced.students {activeEnrollment : AcademicEnrollment}
    {dto : AdvanceAcademicLifecycleDto}
    (advanced : Advanced collation context studentId activeEnrollment dto counted cleared db after) :
    after.applications = db.applications ∧ (after.students = db.students ∨
      ∃ status, after.students = db.students.update studentId (withStatus status) (withStatus_id status)) := by
  cases advanced with
  | promoted asked moved =>
    obtain ⟨_, _, _, _, _, _, -, -, rfl⟩ := moved.written
    exact ⟨rfl, .inl rfl⟩
  | left action enrollmentStatus asked moved =>
    obtain ⟨status, _, rfl⟩ := moved.written
    exact ⟨rfl, .inr ⟨status, rfl⟩⟩

theorem Registered.admits
    (moved : Registered collation context application dto counted cleared db student after) :
    isFrom application.id student ∧
      after.applications = db.applications.update application.id (registered student.id) (registered_id student.id) ∧
      ∃ fresh, after.students = db.students.insert student fresh := by
  obtain ⟨fresh, _, _, _, -, -, rfl⟩ := moved.written
  refine ⟨?_, rfl, fresh, rfl⟩
  rw [moved.row]
  rfl

theorem Registered.names
    (moved : Registered collation context application dto counted cleared db student after)
    (names : NamesItsStudent applicationId db) (found : db.applications.find application.id = some application)
    (unset : application.id = applicationId → application.admittedStudentId = none) :
    NamesItsStudent applicationId after ∧
      ∀ studentId ∈ admittedBy applicationId db, admittedBy applicationId after = some studentId := by
  obtain ⟨new, applications, fresh, students⟩ := moved.admits
  by_cases own : application.id = applicationId
  · subst own
    have none : admittedBy application.id db = none := by
      rw [admittedBy, found]
      exact unset rfl
    have named : admittedBy application.id after = some student.id := by
      rw [admittedBy, applications, find_update, found]
      rfl
    refine ⟨⟨fun other member from_ => ?_, fun wanted admitted => ?_⟩, fun studentId admitted => ?_⟩
    · rw [students] at member
      rcases mem_insert.mp member with old | rfl
      · exact absurd ((names.own other old from_).symm.trans none) (by simp)
      · exact named
    · obtain rfl : student.id = wanted := Option.some.inj (named.symm.trans admitted)
      rw [students, find_insert]
      simp
    · exact absurd (none.symm.trans admitted) (by simp)
  · have same : admittedBy applicationId after = admittedBy applicationId db := by
      rw [admittedBy, applications, find_update_other _ (Ne.symm own)]
      rfl
    refine ⟨⟨fun other member from_ => ?_, fun wanted admitted => ?_⟩, fun studentId admitted => same.trans admitted⟩
    · rw [students] at member
      rcases mem_insert.mp member with old | rfl
      · exact same.trans (names.own other old from_)
      · exact absurd (Option.some.inj (new.symm.trans from_)) own
    · rw [students, Ne, find_eq_none]
      have present := names.present wanted (same.symm.trans admitted)
      exact fun absent => present ((find_eq_none _).mpr fun row member =>
        absent row (mem_insert.mpr (.inl member)))

theorem settle_names (transaction : InFlight AdmissionsDb AdmissionsCall) (names : NamesItsStudent applicationId db)
    (finds : FindsItRegistered applicationId transaction db) :
    NamesItsStudent applicationId (settle (perform collation) transaction db).1 ∧
      ∀ studentId ∈ admittedBy applicationId db,
        admittedBy applicationId (settle (perform collation) transaction db).1 = some studentId := by
  have same {after : AdmissionsDb} (students : after.students = db.students)
      (admitted : admittedBy applicationId after = admittedBy applicationId db) :
      NamesItsStudent applicationId after ∧
        ∀ studentId ∈ admittedBy applicationId db, admittedBy applicationId after = some studentId :=
    ⟨names.congr students admitted, fun studentId before => admitted.trans before⟩
  refine settle_performed (fun after => NamesItsStudent applicationId after ∧
    ∀ studentId ∈ admittedBy applicationId db, admittedBy applicationId after = some studentId) (same rfl rfl)
    fun response after performed => ?_
  cases performed with
  | reviewed changedId dto =>
    exact same rfl (admittedBy_update (reviewed _ dto) (reviewed_id _ dto) (fun _ => rfl) rfl)
  | repeated => exact same rfl rfl
  | registered application dto asked found approved moved =>
    refine moved.names names found fun own => ?_
    by_contra set
    have registers : isRegistrationOf applicationId transaction.request := by
      rw [isRegistrationOf, asked]
      exact own
    exact absurd (approved.symm.trans (finds registers application (own ▸ found) set)) (by decide)
  | advanced studentId dto activeEnrollment asked locked moved =>
    obtain ⟨applications, students | ⟨status, students⟩⟩ := moved.students
    · exact same students (by rw [admittedBy, admittedBy, applications])
    · exact ⟨names.status students applications, fun studentId before => by rwa [admittedBy, applications]⟩
  | allocated => exact same rfl rfl

theorem repeatRegistration_runs (session : Session AdmissionsDb)
    (stored : session.tables.students.find studentId = some student) :
    ∃ allocation later, (repeatRegistration studentId).run session =
      .ok (⟨student, allocation, none, [], [], "registered"⟩, later) := by
  simp only [repeatRegistration, findCurrentAllocationByStudentId, run_bind_ok, run_onTables_ok, getStudent_ok,
    snapshot_ok, run_pure_ok]
  exact ⟨_, _, student, _, ⟨_, ⟨stored, rfl⟩, rfl⟩, _, _, ⟨_, _, ⟨rfl, rfl⟩, rfl, rfl⟩, rfl, rfl⟩

theorem settle_repeats (transaction : InFlight AdmissionsDb AdmissionsCall) (names : NamesItsStudent applicationId db)
    (finds : FindsItRegistered applicationId transaction db)
    (registers : isRegistrationOf applicationId transaction.request) (studentId : String)
    (admitted : studentId ∈ admittedBy applicationId db) :
    returnsStudent studentId (settle (perform collation) transaction db).2 := by
  obtain ⟨application, found, named⟩ := Option.bind_eq_some_iff.mp admitted
  have status := finds registers application found (by simp [named])
  obtain ⟨student, stored⟩ := Option.ne_none_iff_exists'.mp (names.present studentId admitted)
  obtain ⟨⟨context, operation⟩, snapshots⟩ := transaction
  cases operation with
  | registerApprovedApplication registeredId dto =>
    obtain rfl : registeredId = applicationId := registers
    obtain ⟨allocation, later, repeated⟩ := repeatRegistration_runs (.begun db snapshots) stored
    have ran : (perform collation ⟨context, .registerApprovedApplication registeredId dto⟩).run (.begun db snapshots) =
        .ok (.registration ⟨student, allocation, none, [], [], "registered"⟩, later) := by
      simp only [perform, registerApprovedApplication, run_bind_ok, run_onTables_ok, requireApplication_ok, run_pure_ok]
      refine ⟨_, later, ⟨application, _, ⟨_, ⟨found, rfl⟩, rfl⟩, ?_⟩, rfl, rfl⟩
      rw [admittedStudent, if_pos status, named]
      exact repeated
    rw [settle_of_ok ran]
    exact ((find_eq_some _).mp stored).2
  | _ => exact absurd registers id

/-- A registration of an application that has a student but another status returns no student, or a new one. -/
theorem settle_breaks (transaction : InFlight AdmissionsDb AdmissionsCall) (names : NamesItsStudent applicationId db)
    (fails : ¬ FindsItRegistered applicationId transaction db) :
    isRegistrationOf applicationId transaction.request ∧ ∃ studentId ∈ admittedBy applicationId db,
      ¬ returnsStudent studentId (settle (perform collation) transaction db).2 := by
  simp only [FindsItRegistered, Classical.not_imp, not_forall] at fails
  obtain ⟨registers, application, found, set, status⟩ := fails
  obtain ⟨studentId, named⟩ := Option.ne_none_iff_exists'.mp set
  have admitted : studentId ∈ admittedBy applicationId db := Option.bind_eq_some_iff.mpr ⟨application, found, named⟩
  refine ⟨registers, studentId, admitted, fun returned => ?_⟩
  obtain ⟨⟨context, operation⟩, snapshots⟩ := transaction
  cases operation with
  | registerApprovedApplication registeredId dto =>
    obtain rfl : registeredId = applicationId := registers
    unfold settle at returned
    split at returned
    · next response session ran =>
      simp only [perform, run_bind_ok, run_pure_ok] at ran
      obtain ⟨result, _, registering, rfl, rfl⟩ := ran
      obtain ⟨other, again, ⟨admitted, -⟩ | ⟨-, moved⟩⟩ := registerApprovedApplication_ok rfl registering
      · obtain rfl : application = other := Option.some.inj (found.symm.trans again)
        rw [admittedStudent, if_neg status] at admitted
        cases admitted
      · obtain ⟨-, -, fresh, -⟩ := moved.admits
        obtain ⟨student, stored⟩ := Option.ne_none_iff_exists'.mp (names.present studentId admitted)
        obtain ⟨member, same⟩ := (find_eq_some _).mp stored
        exact fresh student member (same.trans returned.symm)
    · exact returned
  | _ => exact absurd registers id

end Steps

/-- The registrations of an application make at most one student, which it keeps and which they all return, exactly
when none of them finds a student there under another status. -/
theorem registered_once_iff (collation : Collation) (applicationId : String) (start : AdmissionsDb)
    (events : List (Snapshots.Event AdmissionsCall)) (names : NamesItsStudent applicationId start) :
    Along (step (perform collation)) (fun world => RegisteredOnce applicationId world.db world.finished)
        (World.idle start) events ↔
      Meets (step (perform collation)) (Committing (FindsItRegistered applicationId)) (World.idle start) events := by
  refine along_iff_commits
    (fun db finished => NamesItsStudent applicationId db ∧ RegisteredOnce applicationId db finished)
    (RegisteredOnce applicationId) (fun _ _ _ => trivial) (fun transaction db finished inv _ finds => ?_)
    (fun _ _ inv => inv.2) (fun transaction db finished inv _ fails once => ?_) events
    ⟨names, fun first firstMember second secondMember => names.one firstMember secondMember, by simp, by simp⟩
  · obtain ⟨kept, lasts⟩ := settle_names transaction inv.1 finds
    refine ⟨kept, fun first firstMember second secondMember => kept.one firstMember secondMember, ?_, ?_⟩
    · intro done member
      rcases List.mem_append.mp member with old | new
      · exact inv.2.lasts done old
      · rw [List.mem_singleton.mp new]
        exact lasts
    · intro done member
      rcases List.mem_append.mp member with old | new
      · exact inv.2.repeats done old
      · rw [List.mem_singleton.mp new]
        exact settle_repeats transaction inv.1 finds
  · obtain ⟨registers, studentId, admitted, differs⟩ := settle_breaks transaction inv.1 fails
    exact differs (once.repeats _ (List.mem_append_right _ (List.mem_singleton_self _)) registers studentId admitted)

def applicant : AdmissionApplication where
  id := applicationId
  fullName := "Amina Otieno"
  dateOfBirth := "2016-03-01"
  gender := "Female"
  nationality := "Kenyan"
  previousSchool := none
  kcpeResults := none
  cbcLevel := none
  classApplying := "Grade 4"
  parentName := "Njeri Otieno"
  parentPhone := "0700000000"
  parentEmail := none
  parentOccupation := none
  relationship := "Mother"
  allergies := none
  conditions := none
  emergencyContact := none
  status := "approved"
  interviewDate := none
  reviewNotes := none
  approvedAt := some 0
  admittedStudentId := none

def approvedApplications (applicationIds : List String) : AdmissionsDb :=
  { AdmissionsDb.empty with
    applications := applicationIds.foldl (fun table applicationId => table.put (applicant applicationId)) .empty }

def caseless : Collation where
  lower text := String.ofList (text.toList.map Char.toLower)
  le first second := first ≤ second

def registrar (number : String) : CallContext where
  userId := none
  now := 0
  date := 1767225600000
  newStudentId := "student-" ++ number
  newEnrollmentId := "enrollment-" ++ number
  newAllocationId := "allocation-" ++ number
  newLifecycleEventId := "event-" ++ number
  services := ⟨.ok (), .ok (), .ok (), .ok (), .ok ()⟩

def registration (number applicationId : String) : AdmissionsCall where
  context := registrar number
  operation := .registerApprovedApplication applicationId
    { admissionNumber := "ADM-" ++ number
      className := "Grade 4"
      streamName := "East"
      dormitoryName := none
      transportRoute := none }

def review (status : String) : AdmissionsCall where
  context := registrar "0"
  operation := .updateApplication "application-1" { status := some status, reviewNotes := none, interviewDate := none }

theorem approved_names_student : NamesItsStudent "application-1" (approvedApplications ["application-1"]) :=
  ⟨by decide +kernel, by decide +kernel⟩

theorem registered_once_repeated :
    Along (step (perform caseless)) (fun world => RegisteredOnce "application-1" world.db world.finished)
      (World.idle (approvedApplications ["application-1"]))
      [.begin (registration "1" "application-1"), .begin (registration "2" "application-1"), .commit 0, .commit 0] :=
  (registered_once_iff caseless "application-1" (approvedApplications ["application-1"]) _
    approved_names_student).mpr (by decide +kernel)

/-- An update that approves a registered application again opens it to a second registration. -/
theorem approved_again_admits_twice :
    ¬ ∀ (collation : Collation) (applicationId : String) (start : AdmissionsDb)
      (events : List (Snapshots.Event AdmissionsCall)), NamesItsStudent applicationId start →
        Along (step (perform collation)) (fun world => RegisteredOnce applicationId world.db world.finished)
          (World.idle start) events := by
  intro always
  let events : List (Snapshots.Event AdmissionsCall) :=
    [.begin (registration "1" "application-1"), .commit 0, .begin (review "approved"), .commit 0,
      .begin (registration "2" "application-1"), .commit 0]
  have once := run_of_along
    (always caseless "application-1" (approvedApplications ["application-1"]) events approved_names_student)
  exact absurd once.one (by decide +kernel)

end ShuleHub.Admissions
