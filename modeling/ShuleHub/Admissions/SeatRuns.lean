import ShuleHub.Admissions.ApplicationRuns

/-! The seats of a class section under registrations and promotions in any interleaving. -/

namespace ShuleHub.Admissions

open Runs Transaction Snapshots Table

def enrollingSection (collation : Collation) (call : AdmissionsCall) (db : AdmissionsDb) :
    Option AcademicClassSection :=
  match call.operation with
  | .registerApprovedApplication _ dto => dto.classSection collation db
  | .advanceStudentAcademicLifecycle _ dto => dto.classSection collation db
  | _ => none

def countedOn (transaction : InFlight AdmissionsDb AdmissionsCall) (db : AdmissionsDb) : AdmissionsDb :=
  match transaction.request.operation with
  | .advanceStudentAcademicLifecycle _ _ => transaction.snapshots.tail.headD db
  | _ => transaction.snapshots.headD db

/-- A section that is full when the transaction takes effect was full when its seats were counted. -/
def CountsSeats (collation : Collation) (classSectionId : String) (capacity : Nat)
    (transaction : InFlight AdmissionsDb AdmissionsCall) (db : AdmissionsDb) : Prop :=
  (enrollingSection collation transaction.request db).map (·.id) = some classSectionId →
    capacity ≤ activeEnrollments classSectionId db →
      capacity ≤ activeEnrollments classSectionId (countedOn transaction db)
deriving Decidable

section Seats

variable {collation : Collation} {context : CallContext} {input : EnrollmentInput} {enrollment : AcademicEnrollment}
  {enrollments after : AcademicEnrollments} {classSectionId : String}
  {className streamName : String} {row : AcademicClassSection}

theorem withClosed_seats {enrollmentId : String} {status : EnrollmentStatus} (closes : status ≠ .active) :
    total (takesSeat classSectionId) (fun _ => 1) (withClosed enrollmentId status enrollments).rows ≤
      total (takesSeat classSectionId) (fun _ => 1) enrollments.rows := by
  rw [withClosed, KeyedTable.update, KeyedTable.modify, total_map]
  apply total_le
  intro row _ seated
  split at seated
  · unfold closeEnrollment at seated
    split at seated
    · exact absurd seated.2 closes
    · exact seated
  · exact seated

theorem Enrolled.seats (enrolled : Enrolled context input enrollments enrollment after) :
    total (takesSeat classSectionId) (fun _ => 1) after.rows ≤
      total (takesSeat classSectionId) (fun _ => 1) enrollments.rows +
        if input.classSectionId = some classSectionId then 1 else 0 := by
  cases enrolled with
  | again row found =>
    have member : row ∈ enrollments.rows := List.mem_of_find?_eq_some found
    have counted : total (takesSeat classSectionId) (fun _ => 1)
          (enrollments.update row.id input.takeUp input.takeUp_id).rows +
            (if takesSeat classSectionId row then 1 else 0) =
        total (takesSeat classSectionId) (fun _ => 1) enrollments.rows +
          if takesSeat classSectionId (input.takeUp row) then 1 else 0 :=
      enrollments.total_update (enrollments.find_self member)
    have same : takesSeat classSectionId (input.takeUp row) ↔ input.classSectionId = some classSectionId :=
      and_iff_left rfl
    simp only [same] at counted
    omega
  | afresh absent fresh =>
    have same : takesSeat classSectionId (input.newRow context) ↔ input.classSectionId = some classSectionId :=
      and_iff_left rfl
    rw [KeyedTable.total_insert]
    simp only [same]
    exact Nat.le_refl _

variable {classSection : AcademicClassSection} {capacity : Nat} {db : AdmissionsDb}
  {transaction : InFlight AdmissionsDb AdmissionsCall}

theorem selectedSection_mem
    (selected : selectedSection collation className streamName db = some row) : row ∈ db.classSections.rows :=
  (List.mem_filter.mp ((List.mem_insertionSort _).mp (List.mem_of_head? selected))).1

theorem promotionSection_mem {dto : AdvanceAcademicLifecycleDto}
    (chosen : dto.classSection collation db = some row) : row ∈ db.classSections.rows := by
  obtain ⟨className, -, chosen⟩ := Option.bind_eq_some_iff.mp chosen
  obtain ⟨streamName, -, selected⟩ := Option.bind_eq_some_iff.mp chosen
  exact selectedSection_mem selected

theorem enrolled_within {chosen : Option AcademicClassSection} {counted : AdmissionsDb}
    {applicationId studentId : String}
    (known : db.classSections.find classSection.id = some classSection) (limited : classSection.capacity = some capacity)
    (within : activeEnrollments classSection.id db ≤ capacity)
    (stored : ∀ row ∈ chosen, row ∈ db.classSections.rows)
    (seats : ∀ row ∈ chosen, ∀ limit ∈ row.capacity, activeEnrollments row.id counted < limit)
    (counts : chosen.map (·.id) = some classSection.id → capacity ≤ activeEnrollments classSection.id db →
      capacity ≤ activeEnrollments classSection.id counted)
    (freed : total (takesSeat classSection.id) (fun _ => 1) enrollments.rows ≤ activeEnrollments classSection.id db)
    (enrolled : Enrolled context (enrollmentInput context applicationId studentId className streamName chosen)
      enrollments enrollment after) :
    total (takesSeat classSection.id) (fun _ => 1) after.rows ≤ capacity := by
  have taken : total (takesSeat classSection.id) (fun _ => 1) after.rows ≤
      total (takesSeat classSection.id) (fun _ => 1) enrollments.rows +
        if chosen.map (·.id) = some classSection.id then 1 else 0 := enrolled.seats
  by_cases own : chosen.map (·.id) = some classSection.id
  · rw [if_pos own] at taken
    obtain ⟨row, found, same⟩ := Option.map_eq_some_iff.mp own
    obtain rfl : row = classSection :=
      KeyedTable.eq_of_key (stored row found) ((KeyedTable.find_eq_some _).mp known).1 same
    have room := seats row found capacity limited
    have full := counts own
    omega
  · rw [if_neg own] at taken
    omega

theorem settle_seats (transaction : InFlight AdmissionsDb AdmissionsCall)
    (known : db.classSections.find classSection.id = some classSection) (limited : classSection.capacity = some capacity)
    (within : activeEnrollments classSection.id db ≤ capacity)
    (counts : CountsSeats collation classSection.id capacity transaction db) :
    (settle (perform collation) transaction db).1.classSections = db.classSections ∧
      activeEnrollments classSection.id (settle (perform collation) transaction db).1 ≤ capacity := by
  refine settle_performed (fun after => after.classSections = db.classSections ∧
    activeEnrollments classSection.id after ≤ capacity) ⟨rfl, within⟩ fun response after performed => ?_
  cases performed with
  | reviewed => exact ⟨rfl, within⟩
  | repeated => exact ⟨rfl, within⟩
  | registered application dto asked found approved moved =>
    obtain ⟨_, _, _, _, -, enrolled, rfl⟩ := moved.written
    rw [CountsSeats, enrollingSection, countedOn, asked] at counts
    exact ⟨rfl, enrolled_within known limited within (fun row => selectedSection_mem) moved.seats counts
      (Nat.le_refl _) enrolled⟩
  | advanced studentId dto activeEnrollment asked locked moved =>
    cases moved with
    | promoted promotes moved =>
      obtain ⟨_, _, _, _, _, _, enrolled, -, rfl⟩ := moved.written
      rw [CountsSeats, enrollingSection, countedOn, asked] at counts
      exact ⟨rfl, enrolled_within known limited within (fun row => promotionSection_mem) moved.seats counts
        (withClosed_seats (by decide)) enrolled⟩
    | left action enrollmentStatus leaves moved =>
      obtain ⟨_, _, rfl⟩ := moved.written
      have closes : enrollmentStatus ≠ .active := by
        rcases moved.closes with rfl | rfl <;> decide
      exact ⟨rfl, (withClosed_seats closes).trans within⟩
  | allocated => exact ⟨rfl, within⟩

end Seats

/-- A section keeps to its capacity in every run whose registrations and promotions count its seats as they are. -/
theorem capacity_kept (collation : Collation) (start : AdmissionsDb) (events : List (Snapshots.Event AdmissionsCall))
    (classSection : AcademicClassSection) (capacity : Nat)
    (known : start.classSections.find classSection.id = some classSection)
    (limited : classSection.capacity = some capacity)
    (within : activeEnrollments classSection.id start ≤ capacity)
    (counts : Meets (step (perform collation)) (Committing (CountsSeats collation classSection.id capacity))
      (World.idle start) events) :
    Along (step (perform collation)) (fun world => activeEnrollments classSection.id world.db ≤ capacity)
      (World.idle start) events :=
  along_of_commits
    (fun db _ => db.classSections.find classSection.id = some classSection ∧
      activeEnrollments classSection.id db ≤ capacity)
    (fun db _ => activeEnrollments classSection.id db ≤ capacity) (fun _ _ _ => trivial)
    (fun transaction db _ inv _ counts => by
      obtain ⟨sections, seats⟩ := settle_seats transaction inv.1 limited inv.2 counts
      exact ⟨sections ▸ inv.1, seats⟩)
    (fun _ _ inv => inv.2) ⟨known, within⟩ counts

def gradeFour (capacity : Nat) (positive : some capacity ≠ some 0) : AcademicClassSection where
  id := "section-1"
  className := "Grade 4"
  streamName := "East"
  academicYear := "2026"
  capacity := some capacity
  isActive := true
  createdAt := 0
  capacityPositive := positive

def oneSeat : AdmissionsDb :=
  { approvedApplications ["application-1", "application-2"] with
    classSections := KeyedTable.empty.put (gradeFour 1 (by decide)) }

theorem capacity_kept_once :
    Along (step (perform caseless)) (fun world => activeEnrollments "section-1" world.db ≤ 1) (World.idle oneSeat)
      [.begin (registration "1" "application-1"), .commit 0, .begin (registration "2" "application-2"), .commit 0] :=
  capacity_kept caseless oneSeat _ (gradeFour 1 (by decide)) 1 (by decide +kernel) rfl (by decide +kernel)
    (by decide +kernel)

/-- The second registration began to wait for the section while the first one held it, and counted no one. -/
theorem one_seat_taken_twice :
    ¬ ∀ (collation : Collation) (start : AdmissionsDb) (events : List (Snapshots.Event AdmissionsCall))
      (classSection : AcademicClassSection) (capacity : Nat),
      start.classSections.find classSection.id = some classSection → classSection.capacity = some capacity →
      activeEnrollments classSection.id start ≤ capacity →
        Along (step (perform collation)) (fun world => activeEnrollments classSection.id world.db ≤ capacity)
          (World.idle start) events := by
  intro always
  let events : List (Snapshots.Event AdmissionsCall) :=
    [.begin (registration "1" "application-1"), .begin (registration "2" "application-2"), .read 1, .commit 0, .commit 0]
  have seats := run_of_along (always caseless oneSeat events (gradeFour 1 (by decide)) 1 (by decide +kernel) rfl
    (by decide +kernel))
  exact absurd seats (by decide +kernel)

end ShuleHub.Admissions
