import ShuleHub.Timetable.OverlapRuns

/-! What is published of a year and term under creations and publications in any interleaving. -/

namespace ShuleHub.Timetable

open Runs Transaction Snapshots

variable (academicYear termName : String)

def isPublished (db : TimetableDb) : Prop :=
  db.versions.find (academicYear, termName, .published) ≠ none
deriving Decidable

def publishes (call : TimetableCall) : Prop :=
  match call.operation with
  | .publishVersion dto => dto.academicYear = academicYear ∧ dto.termName = termName
  | .createSlot _ => False

instance (academicYear termName : String) : DecidablePred (publishes academicYear termName) := fun call => by
  unfold publishes
  split <;> infer_instance

def asksFor (query : PublishedSchedulesQuery) : Prop :=
  readString query.academicYear = some academicYear ∧ readString query.termName = some termName
deriving Decidable

/-- What a publication promises about each call after it, until the next one for its year and term. -/
structure FreezesSchedules (textLe : String → String → Bool) (call : TimetableCall) (before after : TimetableDb) :
    Prop where
  lasts : ∀ academicYear termName, isPublished academicYear termName before → isPublished academicYear termName after
  frozen : ∀ academicYear termName query, asksFor academicYear termName query →
    isPublished academicYear termName before → ¬ publishes academicYear termName call →
      listPublishedSchedules textLe query after = listPublishedSchedules textLe query before

/-- A creation that goes through is for a year and term of which nothing is published. -/
def CreatesUnpublished (transaction : InFlight TimetableDb TimetableCall) (db : TimetableDb) : Prop :=
  match transaction.request.operation with
  | .createSlot dto => ∀ slot ∈ (dto.requestedSlot transaction.request.context).toOption,
    (∀ other ∈ (transaction.snapshots.headD db).slots.rows, ¬ clashes slot other) →
      (∀ other ∈ db.slots.rows, other.id ≠ slot.id) → ¬ isPublished slot.academicYear slot.termName db
  | .publishVersion _ => True

instance : ∀ transaction db, Decidable (CreatesUnpublished transaction db)
  | ⟨⟨_, .createSlot _⟩, _⟩, _ => inferInstanceAs (Decidable (∀ _ ∈ _, _ → _))
  | ⟨⟨_, .publishVersion _⟩, _⟩, _ => .isTrue trivial

section Steps

variable {textLe : String → String → Bool} {academicYear termName : String} {query : PublishedSchedulesQuery}
  {call : TimetableCall} {db : TimetableDb}

theorem isAskedFor_key {version : TimetableVersion} (asks : asksFor academicYear termName query)
    (asked : isAskedFor query version) : version.academicYear = academicYear ∧ version.termName = termName :=
  ⟨asked.2.1 academicYear asks.1, asked.2.2 termName asks.2⟩

theorem listPublishedSchedules_congr {after : TimetableDb}
    (versions : (after.versions.rows.filter fun version => isAskedFor query version) =
      db.versions.rows.filter fun version => isAskedFor query version)
    (slots : ∀ version, isAskedFor query version → (after.slots.rows.filter fun slot => isSlotOf version slot) =
      db.slots.rows.filter fun slot => isSlotOf version slot) :
    listPublishedSchedules textLe query after = listPublishedSchedules textLe query db := by
  have joined : publishedSchedules query after = publishedSchedules query db := by
    unfold publishedSchedules
    rw [versions]
    apply List.flatMap_congr
    intro version member
    have asked : isAskedFor query version := by simpa using (List.mem_filter.mp member).2
    rw [slots version asked]
  rw [listPublishedSchedules, listPublishedSchedules, joined]

theorem created_freezes {slot : TimetableSlot} {logs : List TimetableAuditLog}
    (fresh : ∀ other ∈ db.slots.rows, other.id ≠ slot.id)
    (unpublished : ¬ isPublished slot.academicYear slot.termName db) :
    FreezesSchedules textLe call db { db with slots := db.slots.insert slot fresh, auditLogs := logs } := by
  refine ⟨fun _ _ published => published, ?_⟩
  intro academicYear termName query asks published _
  apply listPublishedSchedules_congr
  · rfl
  · intro version asked
    obtain ⟨year, term⟩ := isAskedFor_key asks asked
    have other : ¬ isSlotOf version slot := by
      intro own
      rw [own.1, own.2.1, year, term] at unpublished
      exact unpublished published
    exact KeyedTable.filter_insert fresh other

theorem Published.freezes {context : CallContext} {dto : PublishTimetableVersionDto} {after : TimetableDb}
    (renews : call.operation = .publishVersion dto) (moved : Published context dto db after) :
    FreezesSchedules textLe call db after := by
  obtain ⟨id, log, rfl⟩ := moved.written
  have versions : ∀ key, (db.versions.put (dto.version context id)).find key =
      if key = dto.key then some (dto.version context id) else db.versions.find key := fun _ => db.versions.find_put
  constructor
  · intro academicYear termName published
    unfold isPublished
    rw [versions]
    split
    · simp
    · exact published
  · intro academicYear termName query asks _ other
    apply listPublishedSchedules_congr
    · apply KeyedTable.filter_put
      intro version sameKey asked
      obtain ⟨year, term⟩ := isAskedFor_key asks asked
      have own : version.academicYear = dto.academicYear ∧ version.termName = dto.termName := by
        simp only [TimetableVersion.key, PublishTimetableVersionDto.version, Prod.mk.injEq] at sameKey
        exact ⟨sameKey.1, sameKey.2.1⟩
      rw [publishes, renews] at other
      exact other ⟨own.1.symm.trans year, own.2.symm.trans term⟩
    · intro _ _
      rfl

theorem settle_freezes (transaction : InFlight TimetableDb TimetableCall)
    (unpublished : CreatesUnpublished transaction db) :
    FreezesSchedules textLe transaction.request db (settle perform transaction db).1 := by
  apply settle_performed (FreezesSchedules textLe transaction.request db)
  · exact ⟨fun _ _ published => published, fun _ _ _ _ _ _ => rfl⟩
  · intro after performed
    cases performed with
    | created dto slot asked requested free fresh =>
      rw [CreatesUnpublished, asked] at unpublished
      exact created_freezes fresh (unpublished slot (Outcome.toOption_eq_some.mpr requested) free fresh)
    | published dto asked moved => exact moved.freezes asked

end Steps

/-- What is published of a year and term stays until its next publication, in every run whose slots are created before
their term is published. -/
theorem published_schedules_frozen (textLe : String → String → Bool) (start : TimetableDb)
    (events : List (Snapshots.Event TimetableCall))
    (unpublished : Meets (step perform) (Committing CreatesUnpublished) (World.idle start) events) :
    Along (step perform) (fun world => ∀ done ∈ world.finished,
      FreezesSchedules textLe done.request done.before done.after) (World.idle start) events := by
  have lawful : Along (step perform) (fun world => True ∧ ∀ done ∈ world.finished,
      FreezesSchedules textLe done.request done.before done.after) (World.idle start) events :=
    along_of_laws (fun _ => True) (FreezesSchedules textLe)
      (fun transaction _ _ _ admits => ⟨trivial, settle_freezes transaction admits⟩) trivial unpublished
  exact along_imp (fun _ laws => laws.2) lawful

def publication (newId : String) : TimetableCall where
  context := ⟨some "user-1", 0, newId⟩
  operation := .publishVersion { academicYear := "2026", termName := "Term 2", notes := none }

def termTwo : PublishedSchedulesQuery where
  academicYear := some "2026"
  termName := some "Term 2"

theorem published_schedules_frozen_once :
    Along (step perform) (fun world => ∀ done ∈ world.finished,
        FreezesSchedules (fun first second => first ≤ second) done.request done.before done.after)
      (World.idle emptyTimetable)
      [.begin (lesson "slot-1" "class-1"), .commit 0, .begin (publication "version-1"), .commit 0,
        .begin (lesson "slot-2" "class-2"), .commit 0] :=
  published_schedules_frozen (fun first second => first ≤ second) emptyTimetable _ (by decide +kernel)

/-- A slot that is created after the publication is listed with it. -/
theorem slot_joins_published :
    ¬ ∀ (textLe : String → String → Bool) (start : TimetableDb) (events : List (Snapshots.Event TimetableCall)),
      Along (step perform) (fun world => ∀ done ∈ world.finished,
        FreezesSchedules textLe done.request done.before done.after) (World.idle start) events := by
  intro always
  let events : List (Snapshots.Event TimetableCall) :=
    [.begin (publication "version-1"), .commit 0, .begin (lesson "slot-1" "class-1"), .commit 0]
  have freezes := run_of_along (always (fun _ _ => true) emptyTimetable events)
  have joined : ∃ done ∈ (run (step perform) (World.idle emptyTimetable) events).finished,
      isPublished "2026" "Term 2" done.before ∧ ¬ publishes "2026" "Term 2" done.request ∧
        listPublishedSchedules (fun _ _ => true) termTwo done.after ≠
          listPublishedSchedules (fun _ _ => true) termTwo done.before := by
    decide +kernel
  obtain ⟨done, finished, published, creates, differs⟩ := joined
  exact differs ((freezes done finished).frozen "2026" "Term 2" termTwo (by decide +kernel) published creates)

end ShuleHub.Timetable
