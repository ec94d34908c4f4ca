import ShuleHub.Timetable.Slots

/-! The slots under creations and publications in any interleaving: when no two of them clash. -/

namespace ShuleHub.Timetable

open Runs Transaction Snapshots

def NoClash (db : TimetableDb) : Prop :=
  ∀ first ∈ db.slots.rows, ∀ second ∈ db.slots.rows, first.id ≠ second.id → first.status ≠ .cancelled →
    ¬ clashes first second
deriving Decidable

/-- A creation for which a clashing slot is committed has found one when it looked for conflicts. -/
def FindsItsClash (transaction : InFlight TimetableDb TimetableCall) (db : TimetableDb) : Prop :=
  match transaction.request.operation with
  | .createSlot dto => ∀ slot ∈ (dto.requestedSlot transaction.request.context).toOption,
    (∀ other ∈ db.slots.rows, other.id ≠ slot.id) → (∃ other ∈ db.slots.rows, clashes slot other) →
      ∃ other ∈ (transaction.snapshots.headD db).slots.rows, clashes slot other
  | .publishVersion _ => True

instance (transaction : InFlight TimetableDb TimetableCall) (db : TimetableDb) :
    Decidable (FindsItsClash transaction db) := by
  unfold FindsItsClash
  split <;> infer_instance

section Steps

variable {slot other : TimetableSlot} {db : TimetableDb}
  {dto : CreateTimetableSlotDto} {transaction : InFlight TimetableDb TimetableCall}

theorem Period.overlaps_symm {first second : Period} (overlaps : first.overlaps second) : second.overlaps first := by
  obtain ⟨year, term, day, left, right⟩ := overlaps
  exact ⟨year.symm, term.symm, day.symm, right, left⟩

theorem sharesWith_symm (shared : sharesWith slot other) : sharesWith other slot := by
  rcases shared with teacher | classSection | ⟨room, same⟩
  · exact .inl teacher.symm
  · exact .inr (.inl classSection.symm)
  · exact .inr (.inr ⟨same ▸ room, same.symm⟩)

theorem clashes_symm (active : slot.status ≠ .cancelled) (clash : clashes slot other) : clashes other slot :=
  ⟨active, Period.overlaps_symm clash.2.1, sharesWith_symm clash.2.2⟩

/-- Inserting a slot keeps the others apart, and exactly one that clashes with none of them from it. -/
theorem noClash_insert {logs : List TimetableAuditLog} (fresh : ∀ other ∈ db.slots.rows, other.id ≠ slot.id)
    (apart : NoClash db) (active : slot.status ≠ .cancelled) :
    NoClash { db with slots := db.slots.insert slot fresh, auditLogs := logs } ↔
      ∀ other ∈ db.slots.rows, ¬ clashes slot other := by
  have rows : ∀ row, row ∈ (db.slots.insert slot fresh).rows ↔ row ∈ db.slots.rows ∨ row = slot :=
    fun _ => KeyedTable.mem_insert
  constructor
  · intro holds other member
    exact holds slot ((rows slot).mpr (.inr rfl)) other ((rows other).mpr (.inl member)) (fresh other member).symm active
  · intro free first firstMember second secondMember differs firstActive clash
    rcases (rows first).mp firstMember with firstOld | rfl
    · rcases (rows second).mp secondMember with secondOld | rfl
      · exact apart first firstOld second secondOld differs firstActive clash
      · exact free first firstOld (clashes_symm firstActive clash)
    · rcases (rows second).mp secondMember with secondOld | rfl
      · exact free second secondOld clash
      · exact differs rfl

theorem requestedSlot_ok {context : CallContext}
    (requested : dto.requestedSlot context = .ok slot) : slot.status ≠ .cancelled := by
  simp only [CreateTimetableSlotDto.requestedSlot, Outcome.bind_ok] at requested
  obtain ⟨startsAt, -, endsAt, -, stored⟩ := requested
  rw [(newSlot_ok stored).2.1]
  decide

theorem settle_noClash (transaction : InFlight TimetableDb TimetableCall) (apart : NoClash db)
    (finds : FindsItsClash transaction db) : NoClash (settle perform transaction db).1 := by
  apply settle_performed NoClash apart
  intro after performed
  cases performed with
  | created dto slot asked requested free fresh =>
    rw [FindsItsClash, asked] at finds
    apply (noClash_insert fresh apart (requestedSlot_ok requested)).mpr
    intro other member clash
    obtain ⟨seen, present, earlier⟩ :=
      finds slot (Outcome.toOption_eq_some.mpr requested) fresh ⟨other, member, clash⟩
    exact free seen present earlier
  | published dto asked moved =>
    obtain ⟨_, _, rfl⟩ := moved.written
    exact apart

theorem settle_of_createSlot
    {session : Session TimetableDb} (asked : transaction.request.operation = .createSlot dto)
    (created : (createSlot transaction.request.context dto).run (.begun db transaction.snapshots) =
      .ok (slot, session)) : settle perform transaction db = (session.tables, .ok (.slot slot)) := by
  apply settle_of_ok
  simp only [perform, asked, run_bind_ok, run_pure_ok]
  exact ⟨slot, session, created, rfl, rfl⟩

theorem settle_createSlot
    (asked : transaction.request.operation = .createSlot dto)
    (stored : dto.requestedSlot transaction.request.context = .ok slot)
    (free : ∀ other ∈ (transaction.snapshots.headD db).slots.rows, ¬ clashes slot other)
    (fresh : ∀ other ∈ db.slots.rows, other.id ≠ slot.id) :
    (settle perform transaction db).1 = { db with
      slots := db.slots.insert slot fresh
      auditLogs := db.auditLogs ++ [slotLog transaction.request.context slot] } := by
  rw [settle_of_createSlot asked (createSlot_ok.mpr ⟨stored, free, fresh, rfl⟩)]
  rfl

theorem settle_clash (transaction : InFlight TimetableDb TimetableCall) (apart : NoClash db)
    (misses : ¬ FindsItsClash transaction db) : ¬ NoClash (settle perform transaction db).1 := by
  unfold FindsItsClash at misses
  split at misses
  · next dto asked =>
    simp only [not_forall, not_exists, not_and, exists_prop] at misses
    obtain ⟨slot, requested, fresh, ⟨other, member, clash⟩, free⟩ := misses
    have stored := Outcome.toOption_eq_some.mp requested
    rw [settle_createSlot asked stored free fresh, noClash_insert fresh apart (requestedSlot_ok stored)]
    intro apartFromAll
    exact apartFromAll other member clash
  · exact absurd trivial misses

end Steps

/-- No two slots clash in exactly the runs whose creations all find what they clash with. -/
theorem slots_apart_iff (start : TimetableDb) (events : List (Snapshots.Event TimetableCall)) (apart : NoClash start) :
    Along (step perform) (fun world => NoClash world.db) (World.idle start) events ↔
      Meets (step perform) (Committing FindsItsClash) (World.idle start) events :=
  along_iff_commits (fun db _ => NoClash db) (fun db _ => NoClash db) (fun _ _ _ => trivial)
    (fun transaction _ _ apart _ finds => settle_noClash transaction apart finds) (fun _ _ apart => apart)
    (fun transaction _ _ apart _ misses => settle_clash transaction apart misses) events apart

def emptyTimetable : TimetableDb where
  slots := .empty
  versions := .empty
  auditLogs := []

def lesson (newId classSectionId : String) : TimetableCall where
  context := ⟨some "user-1", 0, newId⟩
  operation := .createSlot
    { academicYear := "2026", termName := "Term 2", classSectionId, subjectId := "maths", teacherId := "teacher-1",
      roomId := none, dayOfWeek := 1, startsAt := "08:00", endsAt := "08:40" }

theorem slots_apart_refused :
    Along (step perform) (fun world => NoClash world.db) (World.idle emptyTimetable)
      [.begin (lesson "slot-1" "class-1"), .commit 0, .begin (lesson "slot-2" "class-2"), .commit 0] :=
  (slots_apart_iff emptyTimetable _ (by decide +kernel)).mpr (by decide +kernel)

/-- Two creations look for conflicts before either has committed. -/
theorem teacher_booked_twice :
    ¬ ∀ (start : TimetableDb) (events : List (Snapshots.Event TimetableCall)), NoClash start →
      Along (step perform) (fun world => NoClash world.db) (World.idle start) events := by
  intro always
  have apart := run_of_along (always emptyTimetable
    [.begin (lesson "slot-1" "class-1"), .begin (lesson "slot-2" "class-2"), .read 1, .commit 0, .commit 0]
    (by decide +kernel))
  exact absurd apart (by decide +kernel)

end ShuleHub.Timetable
