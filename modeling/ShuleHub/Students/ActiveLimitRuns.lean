import ShuleHub.Students.Students

/-! The active students of a school under calls side by side: when they keep to the limit of the subscription. -/

namespace ShuleHub.Students

open Transaction Billing Locking Runs

abbrev StudentsTransaction := InFlight StudentsCall StudentsView

abbrev StudentsWorld := World StudentsDb StudentsCall StudentsView (Except Exception StudentEntity)

def StillActive (transaction : StudentsTransaction) (db : StudentsDb) : Prop :=
  match transaction.request.operation with
  | .createStudent _ => True
  | .updateStudent studentId dto =>
    dto.status = some .active → transaction.view.existingStudent.join.map (·.status) = some .active →
      ∀ student ∈ db.students.find studentId, student.status = .active

instance (transaction : StudentsTransaction) (db : StudentsDb) : Decidable (StillActive transaction db) := by
  unfold StillActive
  split <;> infer_instance

/-- The subscription is the current one, with its limit, and the active students keep to it. -/
structure WithinActiveLimit (subscription : SubscriptionEntity) (limit : Nat) (db : StudentsDb) : Prop where
  current : Subscriptions.lockCurrentByTenant db.subscriptions = some subscription
  limited : configuredLimit (some subscription) = some limit
  within : countStudentsByStatus .active db ≤ limit

/-- What a call knows: whoever has counted the active students holds the subscription, and there are no more since. -/
structure CountsUnderLock (subscription : SubscriptionEntity) (transaction : StudentsTransaction) (db : StudentsDb) :
    Prop where
  access : transaction.request.access.isActive = true
  locked : ∀ found ∈ transaction.view.subscription, found = some subscription
  counted : ∀ count ∈ transaction.view.activeStudentCount,
    transaction.view.subscription = some (some subscription) ∧ countStudentsByStatus .active db ≤ count

section Steps

variable {subscription : SubscriptionEntity} {limit : Nat} {transaction : StudentsTransaction} {call : StudentsCall}
  {view : StudentsView} {db after : StudentsDb} {result : StudentEntity} {student : StudentEntity} {studentId : String}

theorem insertStudent_ok
    (ran : (insertStudent student).run db = .ok (result, after)) :
    ∃ fresh, after = { db with students := db.students.insert student fresh } := by
  simp only [insertStudent, run_bind_ok, run_current_ok, run_lift_ok, run_required_ok, run_write_ok, run_pure_ok,
    KeyedTable.tryInsert_eq_some] at ran
  obtain ⟨_, _, ⟨rfl, rfl⟩, _, _, ⟨-, rfl⟩, students, _, ⟨⟨fresh, rfl⟩, rfl⟩, _, _, rfl, rfl, rfl⟩ := ran
  exact ⟨fresh, rfl⟩

theorem createStudent_ok {dto : CreateStudentDto} (ran : (createStudent call dto view).run db = .ok (result, after)) :
    assertActiveStudentLimit call view = .ok () ∧
      ∃ fresh, after = { db with students := db.students.insert (newStudent call dto) fresh } := by
  simp only [createStudent, run_bind_ok, run_lift_ok, run_mapError_ok, run_pure_ok] at ran
  obtain ⟨_, _, ⟨asserted, rfl⟩, student, _, inserted, _, _, ⟨-, rfl⟩, _, _, ⟨-, rfl⟩, rfl, rfl⟩ := ran
  exact ⟨asserted, insertStudent_ok inserted⟩

theorem updateStudent_ok {dto : UpdateStudentDto}
    (ran : (updateStudent call studentId dto view).run db = .ok (result, after)) :
    ∃ existingStudent student, view.existingStudent.join = some existingStudent ∧
      assertActiveStudentLimit call view = .ok () ∧ db.students.find studentId = some student ∧
      after = { db with
        students := db.students.update studentId (dto.applyTo call.now) (dto.applyTo_id call.now) } := by
  simp only [updateStudent, run_bind_ok, run_required_ok, run_lift_ok, run_current_ok, run_mapError_ok, run_write_ok,
    run_pure_ok] at ran
  obtain ⟨existingStudent, _, ⟨found, rfl⟩, _, _, ⟨asserted, rfl⟩, _, _, ⟨rfl, rfl⟩, student, _, ⟨stored, rfl⟩, _, _,
    ⟨-, rfl⟩, _, _, rfl, -, rfl⟩ := ran
  exact ⟨existingStudent, student, found, asserted, stored, rfl⟩

theorem countStudentsByStatus_insert (student : StudentEntity)
    (fresh : ∀ other ∈ db.students.rows, other.id ≠ student.id) :
    countStudentsByStatus .active { db with students := db.students.insert student fresh } =
      countStudentsByStatus .active db + if student.status = .active then 1 else 0 := by
  rw [countStudentsByStatus, KeyedTable.total_insert]
  rfl

theorem countStudentsByStatus_update (dto : UpdateStudentDto) (now : Int) (stored : db.students.find studentId = some student) :
    countStudentsByStatus .active
          { db with students := db.students.update studentId (dto.applyTo now) (dto.applyTo_id now) } +
        (if student.status = .active then 1 else 0) =
      countStudentsByStatus .active db + if dto.nextStatus student = .active then 1 else 0 := by
  have counted : Table.total (fun student : StudentEntity => student.status = .active) (fun _ => 1)
        (db.students.update studentId (dto.applyTo now) (dto.applyTo_id now)).rows +
          (if student.status = .active then 1 else 0) =
      Table.total (fun student : StudentEntity => student.status = .active) (fun _ => 1) db.students.rows +
        if (dto.applyTo now student).status = .active then 1 else 0 := db.students.total_update stored
  rw [dto.applyTo_status now student] at counted
  exact counted

theorem assertActiveStudentLimit_ok (asserted : assertActiveStudentLimit call view = .ok ())
    (limited : configuredLimit (some subscription) = some limit) (applies : isLimited call view)
    (locked : ∀ found ∈ view.subscription, found = some subscription) (ready : limitRead call view = none) :
    ∃ count ∈ view.activeStudentCount, count < limit := by
  rw [limitRead, if_pos applies] at ready
  rw [assertActiveStudentLimit, if_pos applies] at asserted
  cases known : view.subscription with
  | none =>
    rw [known] at ready
    cases ready
  | some found =>
    obtain rfl := locked found known
    rw [known] at ready
    simp only [limited, ne_eq, reduceCtorEq, not_false_eq_true, true_and] at ready
    cases counted : view.activeStudentCount with
    | none => simp [counted] at ready
    | some count =>
      rw [known, counted] at asserted
      simp only [Option.bind_some, limited, Outcome.failIf_ok] at asserted
      exact ⟨count, rfl, by omega⟩

theorem perform_active (knows : CountsUnderLock subscription transaction db)
    (limited : configuredLimit (some subscription) = some limit)
    (ready : nextRead transaction.request transaction.view = none) (still : StillActive transaction db)
    (ran : (perform transaction.request transaction.view).run db = .ok (result, after)) :
    after.subscriptions = db.subscriptions ∧
      (countStudentsByStatus .active after ≤ countStudentsByStatus .active db ∨
        countStudentsByStatus .active after ≤ countStudentsByStatus .active db + 1 ∧
          ∃ count ∈ transaction.view.activeStudentCount, count < limit) := by
  obtain ⟨call, stages, view⟩ := transaction
  have access : call.access.isActive = true := knows.access
  have locked : ∀ found ∈ view.subscription, found = some subscription := knows.locked
  cases operation : call.operation with
  | createStudent dto =>
    simp only [perform, operation] at ran
    simp only [nextRead, operation] at ready
    obtain ⟨asserted, fresh, rfl⟩ := createStudent_ok ran
    refine ⟨rfl, ?_⟩
    rw [countStudentsByStatus_insert]
    by_cases active : dto.nextStatus = .active
    · have applies : isLimited call view := by
        refine ⟨access, (dto.nextStatus, none), ?_, active, nofun⟩
        simp only [statuses, operation]
        rfl
      refine .inr ⟨?_, assertActiveStudentLimit_ok asserted limited applies locked ready⟩
      split <;> omega
    · have status : (newStudent call dto).status ≠ .active := active
      rw [if_neg status]
      exact .inl (Nat.le_refl _)
  | updateStudent studentId dto =>
    simp only [perform, operation] at ran
    obtain ⟨existingStudent, student, found, asserted, stored, rfl⟩ := updateStudent_ok ran
    refine ⟨rfl, ?_⟩
    have counted := countStudentsByStatus_update dto call.now stored
    have ready : limitRead call view = none := by
      cases read : view.existingStudent with
      | none =>
        rw [read] at found
        cases found
      | some _ =>
        simp only [nextRead, operation, read] at ready
        exact ready
    by_cases unchanged : dto.nextStatus student = .active → student.status = .active
    · left
      by_cases active : student.status = .active
      · rw [if_pos active] at counted
        split at counted <;> omega
      · rw [if_neg active, if_neg fun next => active (unchanged next)] at counted
        omega
    · obtain ⟨next, inactive⟩ := Classical.not_imp.mp unchanged
      have asked : dto.status = some .active := by
        cases named : dto.status with
        | none =>
          rw [UpdateStudentDto.nextStatus, named] at next
          exact absurd next inactive
        | some status =>
          rw [UpdateStudentDto.nextStatus, named] at next
          exact congrArg some next
      have activates : isActivating (dto.nextStatus existingStudent) (some existingStudent.status) := by
        refine ⟨by rw [UpdateStudentDto.nextStatus, asked]; rfl, fun same => ?_⟩
        simp only [StillActive, operation, found, Option.map_some] at still
        exact inactive (still asked same student stored)
      have applies : isLimited call view := by
        refine ⟨access, (dto.nextStatus existingStudent, some existingStudent.status), ?_, activates⟩
        simp only [statuses, operation, found]
        rfl
      refine .inr ⟨?_, assertActiveStudentLimit_ok asserted limited applies locked ready⟩
      rw [if_neg inactive, if_pos next] at counted
      omega

theorem subscription_of_count (asked : nextRead call view = some .countStudentsByStatus) :
    ∃ found, view.subscription = some found := by
  have limits : limitRead call view = some .countStudentsByStatus := by
    unfold nextRead at asked
    split at asked
    · cases asked
    · exact asked
  unfold limitRead at limits
  split at limits
  · split at limits
    · cases limits
    · next found known => exact ⟨found, known⟩
  · cases limits

theorem locks_of_subscription (known : view.subscription = some (some subscription)) (stages : Nat) :
    subscription.id ∈ locks studentsProtocol ⟨call, stages, view⟩ := by
  simp [locks, studentsProtocol, known]

theorem acquires_count (good : WithinActiveLimit subscription limit db)
    (knows : CountsUnderLock subscription transaction db)
    (unready : studentsProtocol.ready transaction.request transaction.stages transaction.view = false) :
    CountsUnderLock subscription (next studentsProtocol transaction db) db := by
  obtain ⟨call, stages, view⟩ := transaction
  cases asked : nextRead call view with
  | none => simp [studentsProtocol, asked] at unready
  | some read =>
    have viewed : (next studentsProtocol ⟨call, stages, view⟩ db).view = readInto read view db := by
      simp [next, studentsProtocol, asked]
    refine ⟨knows.access, ?_, ?_⟩
    · rw [viewed]
      cases read with
      | findById studentId => exact knows.locked
      | lockCurrentByTenant =>
        intro found seen
        obtain rfl : Subscriptions.lockCurrentByTenant db.subscriptions = found := Option.some.inj seen
        exact good.current
      | countStudentsByStatus => exact knows.locked
    · rw [viewed]
      cases read with
      | findById studentId => exact knows.counted
      | lockCurrentByTenant =>
        intro count seen
        exact ⟨congrArg some good.current, (knows.counted count seen).2⟩
      | countStudentsByStatus =>
        intro count seen
        obtain rfl : countStudentsByStatus .active db = count := Option.some.inj seen
        obtain ⟨found, known⟩ := subscription_of_count asked
        exact ⟨known.trans (congrArg some (knows.locked found known)), Nat.le_refl _⟩

theorem settles_within (good : WithinActiveLimit subscription limit db)
    (knows : CountsUnderLock subscription transaction db)
    (ready : studentsProtocol.ready transaction.request transaction.stages transaction.view = true)
    (still : StillActive transaction db) :
    WithinActiveLimit subscription limit
        (studentsProtocol.settle transaction.request transaction.view db).1 ∧
      ∀ other, Apart studentsProtocol other transaction → CountsUnderLock subscription other db →
        CountsUnderLock subscription other
          (studentsProtocol.settle transaction.request transaction.view db).1 := by
  have settled : (studentsProtocol.settle transaction.request transaction.view db).1 =
      (attempt (perform transaction.request transaction.view) db).1 := rfl
  rw [settled]
  cases outcome : (perform transaction.request transaction.view).run db with
  | error error =>
    rw [attempt_error.mpr ⟨outcome, rfl⟩]
    exact ⟨good, fun _ _ known => known⟩
  | ok value =>
    obtain ⟨result, after⟩ := value
    rw [attempt_ok.mpr outcome]
    have asked : nextRead transaction.request transaction.view = none := Option.isNone_iff_eq_none.mp ready
    obtain ⟨same, fewer | ⟨more, count, counted, below⟩⟩ := perform_active knows good.limited asked still outcome
    · refine ⟨⟨same ▸ good.current, good.limited, fewer.trans good.within⟩, fun other apart known => ?_⟩
      exact ⟨known.access, known.locked, fun seen member =>
        ⟨(known.counted seen member).1, fewer.trans (known.counted seen member).2⟩⟩
    · obtain ⟨held, atMost⟩ := knows.counted count counted
      have within : countStudentsByStatus .active after ≤ limit := by omega
      refine ⟨⟨same ▸ good.current, good.limited, within⟩, fun other apart known => ?_⟩
      refine ⟨known.access, known.locked, fun seen member => ?_⟩
      -- Only one call can hold the subscription, and only its holder has counted.
      exact absurd (locks_of_subscription held transaction.stages)
        (apart _ (locks_of_subscription (known.counted seen member).1 other.stages))

theorem studentsProtocol_sustains (subscription : SubscriptionEntity) (limit : Nat) :
    Sustains studentsProtocol (fun call => call.access.isActive = true) StillActive
      (WithinActiveLimit subscription limit) (CountsUnderLock subscription) where
  startsFree _ := rfl
  begins call db access _ := by
    refine ⟨access, fun found read => ?_, fun count read => ?_⟩ <;> cases read
  acquires transaction db good knows unready := acquires_count good knows unready
  settles transaction db good knows ready still := settles_within good knows ready still

end Steps

/-- The active students never exceed the limit of the subscription in any interleaving of calls whose updates to
active do not rest on a status that has gone since they read it. -/
theorem active_students_limited (subscription : SubscriptionEntity) (limit : Nat) (start : StudentsDb)
    (events : List (Event StudentsCall)) (within : WithinActiveLimit subscription limit start)
    (access : ∀ call, Event.begin call ∈ events → call.access.isActive = true)
    (still : Meets (step studentsProtocol) (Finishing studentsProtocol StillActive)
      (World.idle start : StudentsWorld) events) :
    Along (step studentsProtocol) (fun world => countStudentsByStatus .active world.db ≤ limit)
      (World.idle start : StudentsWorld) events :=
  along_of_sustains (studentsProtocol_sustains subscription limit) (fun _ good => good.within) within access still

def oneStudentLimit : SubscriptionEntity :=
  { activeSubscription with limits := [(maxActiveKey, literal "1")] }

def schoolStudent (number : String) (status : StudentStatus) : StudentEntity where
  id := "student-" ++ number
  admissionNumber := "ADM-" ++ number
  firstName := "Amina"
  lastName := "Otieno"
  middleName := none
  status
  dateOfBirth := none
  gender := none
  primaryGuardianName := none
  primaryGuardianPhone := none
  metadata := []
  createdByUserId := none
  createdAt := 0
  updatedAt := 0

def twoStudents : StudentsDb where
  subscriptions := KeyedTable.empty.put oneStudentLimit
  students := (KeyedTable.empty.put (schoolStudent "1" .active)).put (schoolStudent "2" .inactive)

def oneStudentAccess : BillingAccessContextState :=
  BillingAccess.buildAccessState (some (oneStudentLimit, BillingLifecycle.buildOverview oneStudentLimit 1))

theorem oneStudentAccess_active : oneStudentAccess.isActive = true := by decide +kernel

def statusUpdate (number : String) (status : StudentStatus) : StudentsCall where
  now := 0
  userId := none
  newStudentId := ""
  access := oneStudentAccess
  publishStudentCreated := .ok ()
  recordUsage := .ok ()
  operation := .updateStudent ("student-" ++ number)
    { admissionNumber := none
      firstName := none
      lastName := none
      middleName := none
      status := some status
      dateOfBirth := none
      gender := none
      primaryGuardianName := none
      primaryGuardianPhone := none
      metadata := none }

theorem twoStudents_within : WithinActiveLimit oneStudentLimit 1 twoStudents :=
  ⟨by decide +kernel, by decide +kernel, by decide +kernel⟩

theorem statusUpdate_access (number : String) (status : StudentStatus) :
    (statusUpdate number status).access.isActive = true := oneStudentAccess_active

/-- Two updates to active at once: the second one waits for the first one and is refused. -/
theorem active_students_limited_waiting :
    Along (step studentsProtocol) (fun world => countStudentsByStatus .active world.db ≤ 1)
      (World.idle twoStudents : StudentsWorld)
      [.begin (statusUpdate "1" .inactive), .advance 0, .finish 0, .begin (statusUpdate "1" .active),
        .begin (statusUpdate "2" .active), .advance 0, .advance 1, .advance 0, .advance 1, .advance 0, .finish 0,
        .advance 0, .advance 0, .finish 0] :=
  active_students_limited oneStudentLimit 1 twoStudents _ twoStudents_within
    (fun call begun => by
      simp only [List.mem_cons, Event.begin.injEq, reduceCtorEq, false_or, or_false, List.not_mem_nil] at begun
      rcases begun with rfl | rfl | rfl <;> exact statusUpdate_access _ _)
    (by decide +kernel)

/-- The first update read its student as active, so it passes no check, and writes that again once another student has
taken the place. -/
theorem active_limit_passed_by :
    ¬ ∀ (subscription : SubscriptionEntity) (limit : Nat) (start : StudentsDb) (events : List (Event StudentsCall)),
      WithinActiveLimit subscription limit start →
      (∀ call, Event.begin call ∈ events → call.access.isActive = true) →
        Along (step studentsProtocol) (fun world => countStudentsByStatus .active world.db ≤ limit)
          (World.idle start : StudentsWorld) events := by
  intro always
  let events : List (Event StudentsCall) :=
    [.begin (statusUpdate "1" .active), .advance 0, .begin (statusUpdate "1" .inactive), .advance 1, .finish 0,
      .begin (statusUpdate "2" .active), .advance 1, .advance 0, .advance 0, .finish 0, .finish 0]
  have within := run_of_along (always oneStudentLimit 1 twoStudents events twoStudents_within fun call begun => by
    simp only [events, List.mem_cons, Event.begin.injEq, reduceCtorEq, false_or, or_false, List.not_mem_nil] at begun
    rcases begun with rfl | rfl | rfl <;> exact statusUpdate_access _ _)
  exact absurd within (by decide +kernel)

end ShuleHub.Students
