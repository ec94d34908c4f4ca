import ShuleHub.Runtime
import ShuleHub.Lib.KeyedTable
import ShuleHub.Lib.Snapshots

/-! The timetable of one school: slots that are created one by one, and the versions that publish the slots of a
year and term. -/

namespace ShuleHub.Timetable

open Transaction Snapshots

inductive SlotStatus where
  | draft
  | published
  | cancelled
deriving DecidableEq

structure TimetableSlot where
  id : String
  academicYear : String
  termName : String
  classSectionId : String
  subjectId : String
  teacherId : String
  roomId : Option String
  dayOfWeek : Int
  startsAt : Nat
  endsAt : Nat
  status : SlotStatus
  createdByUserId : Option String
  dayInWeek : 1 ≤ dayOfWeek ∧ dayOfWeek ≤ 7
  timesInOrder : startsAt < endsAt

inductive VersionStatus where
  | draft
  | published
  | archived
deriving DecidableEq

structure TimetableVersion where
  id : String
  academicYear : String
  termName : String
  status : VersionStatus
  immutable : Bool
  notes : Option String
  publishedByUserId : Option String
  publishedAt : Option Int

def TimetableVersion.key (version : TimetableVersion) : String × String × VersionStatus :=
  (version.academicYear, version.termName, version.status)

structure TimetableAuditLog where
  versionId : Option String
  slotId : Option String
  actorUserId : Option String
  action : String
  metadata : Metadata

structure TimetableDb where
  slots : KeyedTable TimetableSlot String (·.id)
  versions : KeyedTable TimetableVersion (String × String × VersionStatus) TimetableVersion.key
  auditLogs : List TimetableAuditLog

abbrev TimetableTransaction := Transaction TimetableDb Exception

abbrev TimetableSession := Transaction (Session TimetableDb) Exception

structure CallContext where
  userId : Option String
  now : Int
  newId : String

variable (context : CallContext)

def CallContext.actorUserId : Option String :=
  context.userId.filter fun userId => userId ≠ "" ∧ userId ≠ "anonymous"

structure CreateTimetableSlotDto where
  academicYear : String
  termName : String
  classSectionId : String
  subjectId : String
  teacherId : String
  roomId : Option String
  dayOfWeek : Int
  startsAt : String
  endsAt : String

structure PublishTimetableVersionDto where
  academicYear : String
  termName : String
  notes : Option String

variable (dto : PublishTimetableVersionDto) (slot : TimetableSlot)

def timeOf (text : String) : Except Exception Nat :=
  match text.toList with
  | [h₁, h₂, ':', m₁, m₂] =>
    let hours := 10 * JsText.digitValue h₁ + JsText.digitValue h₂
    let minutes := 10 * JsText.digitValue m₁ + JsText.digitValue m₂
    if [h₁, h₂, m₁, m₂].all Char.isDigit ∧ minutes < 60 ∧ 60 * hours + minutes ≤ 1440 then .ok (60 * hours + minutes)
    else .error (.database "invalid input syntax for type time")
  | _ => .error (.database "invalid input syntax for type time")

inductive ConflictType where
  | teacher
  | classSection
  | room
deriving DecidableEq

def ConflictType.text : ConflictType → String
  | .teacher => "teacher"
  | .classSection => "class"
  | .room => "room"

structure TimetableConflict where
  type : ConflictType
  slotId : String

structure Period where
  academicYear : String
  termName : String
  dayOfWeek : Int
  startsAt : Nat
  endsAt : Nat

def TimetableSlot.period : Period :=
  { academicYear := slot.academicYear, termName := slot.termName, dayOfWeek := slot.dayOfWeek,
    startsAt := slot.startsAt, endsAt := slot.endsAt }

def Period.overlaps (first second : Period) : Prop :=
  first.academicYear = second.academicYear ∧ first.termName = second.termName ∧ first.dayOfWeek = second.dayOfWeek ∧
    first.startsAt < second.endsAt ∧ second.startsAt < first.endsAt
deriving Decidable

def conflictsOf (type : ConflictType) (shares : TimetableSlot → Prop) [DecidablePred shares] (period : Period)
    (db : TimetableDb) : List TimetableConflict :=
  (db.slots.rows.filter fun slot => shares slot ∧ slot.status ≠ .cancelled ∧ slot.period.overlaps period).map fun slot =>
    { type, slotId := slot.id }

def CreateTimetableSlotDto.period (dto : CreateTimetableSlotDto) (startsAt endsAt : Nat) : Period :=
  { academicYear := dto.academicYear, termName := dto.termName, dayOfWeek := dto.dayOfWeek, startsAt, endsAt }

/-- Without a room in the request nothing is equal to it. -/
def findSlotConflicts (dto : CreateTimetableSlotDto) (startsAt endsAt : Nat) (db : TimetableDb) :
    List TimetableConflict :=
  conflictsOf .teacher (fun slot => slot.teacherId = dto.teacherId) (dto.period startsAt endsAt) db ++
    conflictsOf .classSection (fun slot => slot.classSectionId = dto.classSectionId) (dto.period startsAt endsAt) db ++
    conflictsOf .room (fun slot => slot.roomId ≠ none ∧ slot.roomId = dto.roomId) (dto.period startsAt endsAt) db

def conflictMessage (conflicts : List TimetableConflict) : String :=
  let conflictTypes := ", ".intercalate ((conflicts.map (·.type)).eraseDups.map ConflictType.text)
  s!"Timetable {conflictTypes} conflict detected"

def CreateTimetableSlotDto.newSlot (dto : CreateTimetableSlotDto) (context : CallContext) (startsAt endsAt : Nat) :
    Except Exception TimetableSlot :=
  if dayInWeek : 1 ≤ dto.dayOfWeek ∧ dto.dayOfWeek ≤ 7 then
    if timesInOrder : startsAt < endsAt then
      .ok { id := context.newId, academicYear := dto.academicYear, termName := dto.termName,
            classSectionId := dto.classSectionId, subjectId := dto.subjectId, teacherId := dto.teacherId,
            roomId := dto.roomId, dayOfWeek := dto.dayOfWeek, startsAt, endsAt, status := .draft,
            createdByUserId := context.actorUserId, dayInWeek, timesInOrder }
    else .error (.database "ck_timetable_slot_time_order")
  else .error (.database "timetable_slots_day_of_week_check")

def appendAuditLog (log : TimetableAuditLog) : TimetableTransaction Unit :=
  write fun db => { db with auditLogs := db.auditLogs ++ [log] }

def slotLog : TimetableAuditLog where
  versionId := none
  slotId := some slot.id
  actorUserId := context.actorUserId
  action := "timetable.slot.created"
  metadata := [("class_section_id", .str slot.classSectionId), ("teacher_id", .str slot.teacherId),
    ("room_id", jsonText slot.roomId)]

def insertSlot : TimetableTransaction TimetableSlot := do
  let db ← current
  let stored ← required (db.slots.tryInsert slot) (.database "timetable_slots_pkey")
  write fun db => { db with slots := stored }
  appendAuditLog (slotLog context slot)
  return slot

def createSlot (dto : CreateTimetableSlotDto) : TimetableSession TimetableSlot := do
  let startsAt ← timeOf dto.startsAt
  let endsAt ← timeOf dto.endsAt
  let seen ← snapshot
  failIf (findSlotConflicts dto startsAt endsAt seen ≠ [])
    (.badRequest (conflictMessage (findSlotConflicts dto startsAt endsAt seen)))
  let slot ← dto.newSlot context startsAt endsAt
  onTables (insertSlot context slot)

def sharesWith (first second : TimetableSlot) : Prop :=
  first.teacherId = second.teacherId ∨ first.classSectionId = second.classSectionId ∨
    first.roomId ≠ none ∧ first.roomId = second.roomId
deriving Decidable

def isVersionConflict (academicYear termName : String) (left right : TimetableSlot) : Prop :=
  left.academicYear = academicYear ∧ left.termName = termName ∧ left.status ≠ .cancelled ∧ right.id ≠ left.id ∧
    right.period.overlaps left.period ∧ sharesWith right left
deriving Decidable

def hasVersionConflicts (db : TimetableDb) : Prop :=
  ∃ left ∈ db.slots.rows, ∃ right ∈ db.slots.rows, isVersionConflict dto.academicYear dto.termName left right
deriving Decidable

def PublishTimetableVersionDto.key : String × String × VersionStatus :=
  (dto.academicYear, dto.termName, .published)

def PublishTimetableVersionDto.version (context : CallContext) (id : String) :
    TimetableVersion where
  id
  academicYear := dto.academicYear
  termName := dto.termName
  status := .published
  immutable := true
  notes := dto.notes
  publishedByUserId := context.actorUserId
  publishedAt := some context.now

def versionLog (version : TimetableVersion) : TimetableAuditLog where
  versionId := some version.id
  slotId := none
  actorUserId := context.actorUserId
  action := "timetable.version.published"
  metadata := [("academic_year", .str version.academicYear), ("term_name", .str version.termName),
    ("immutable", .bool true)]

def upsertVersion :
    TimetableTransaction TimetableVersion := do
  let db ← current
  failIf (db.versions.find dto.key = none ∧ ∃ row ∈ db.versions.rows, row.id = context.newId)
    (.database "timetable_versions_pkey")
  let version := dto.version context (((db.versions.find dto.key).map (·.id)).getD context.newId)
  write fun db => { db with versions := db.versions.put version }
  appendAuditLog (versionLog context version)
  return version

def publishVersion : TimetableSession TimetableVersion := do
  let seen ← snapshot
  failIf (hasVersionConflicts dto seen) (.badRequest "Timetable version has unresolved conflicts")
  onTables (upsertVersion context dto)

structure PublishedSchedule where
  versionId : String
  academicYear : String
  termName : String
  publishedAt : Option Int
  slotId : String
  classSectionId : String
  subjectId : String
  teacherId : String
  roomId : Option String
  dayOfWeek : Int
  startsAt : Nat
  endsAt : Nat
  status : SlotStatus
deriving DecidableEq

def scheduleOf (version : TimetableVersion) (slot : TimetableSlot) : PublishedSchedule where
  versionId := version.id
  academicYear := version.academicYear
  termName := version.termName
  publishedAt := version.publishedAt
  slotId := slot.id
  classSectionId := slot.classSectionId
  subjectId := slot.subjectId
  teacherId := slot.teacherId
  roomId := slot.roomId
  dayOfWeek := slot.dayOfWeek
  startsAt := slot.startsAt
  endsAt := slot.endsAt
  status := slot.status

structure PublishedSchedulesQuery where
  academicYear : Option String
  termName : Option String

/-- A published version that the query asks for: a text that is missing or blank asks for all. -/
def isAskedFor (query : PublishedSchedulesQuery) (version : TimetableVersion) : Prop :=
  version.status = .published ∧ (∀ academicYear ∈ readString query.academicYear, version.academicYear = academicYear) ∧
    ∀ termName ∈ readString query.termName, version.termName = termName
deriving Decidable

def isSlotOf (version : TimetableVersion) (slot : TimetableSlot) : Prop :=
  slot.academicYear = version.academicYear ∧ slot.termName = version.termName ∧ slot.status ≠ .cancelled
deriving Decidable

def isPublishedAfter : Option Int → Option Int → Prop
  | some first, some second => second < first
  | some _, none => True
  | none, _ => False

instance : DecidableRel isPublishedAfter := fun first second => by
  unfold isPublishedAfter
  split <;> infer_instance

def isListedBefore (textLe : String → String → Bool) (first second : PublishedSchedule) : Prop :=
  isPublishedAfter first.publishedAt second.publishedAt ∨ first.publishedAt = second.publishedAt ∧
    (first.dayOfWeek < second.dayOfWeek ∨ first.dayOfWeek = second.dayOfWeek ∧
      (first.startsAt < second.startsAt ∨ first.startsAt = second.startsAt ∧
        textLe first.classSectionId second.classSectionId))
deriving Decidable

def publishedSchedules (query : PublishedSchedulesQuery) (db : TimetableDb) : List PublishedSchedule :=
  (db.versions.rows.filter fun version => isAskedFor query version).flatMap fun version =>
    (db.slots.rows.filter fun slot => isSlotOf version slot).map (scheduleOf version)

def listPublishedSchedules (textLe : String → String → Bool) (query : PublishedSchedulesQuery) (db : TimetableDb) :
    List PublishedSchedule :=
  ((publishedSchedules query db).insertionSort (isListedBefore textLe)).take 500

inductive TimetableOperation where
  | createSlot (dto : CreateTimetableSlotDto)
  | publishVersion (dto : PublishTimetableVersionDto)

structure TimetableCall where
  context : CallContext
  operation : TimetableOperation

inductive TimetableResponse where
  | slot (slot : TimetableSlot)
  | version (version : TimetableVersion)

def perform (call : TimetableCall) : TimetableSession TimetableResponse :=
  match call.operation with
  | .createSlot dto => do return .slot (← createSlot call.context dto)
  | .publishVersion dto => do return .version (← publishVersion call.context dto)

def CreateTimetableSlotDto.requestedSlot (dto : CreateTimetableSlotDto) (context : CallContext) :
    Except Exception TimetableSlot := do
  dto.newSlot context (← timeOf dto.startsAt) (← timeOf dto.endsAt)

def clashes (slot other : TimetableSlot) : Prop :=
  other.status ≠ .cancelled ∧ other.period.overlaps slot.period ∧ sharesWith other slot
deriving Decidable

section Outcomes

variable {context : CallContext} {dto : CreateTimetableSlotDto} {slot : TimetableSlot} {db after : TimetableDb}

theorem conflictsOf_eq_nil {type : ConflictType} {shares : TimetableSlot → Prop} [DecidablePred shares]
    {period : Period} : conflictsOf type shares period db = [] ↔
      ∀ other ∈ db.slots.rows, other.status ≠ .cancelled → other.period.overlaps period → ¬ shares other := by
  simp only [conflictsOf, List.map_eq_nil_iff, List.filter_eq_nil_iff, decide_eq_true_eq]
  constructor
  · intro free other member active overlaps shared
    exact free other member ⟨shared, active, overlaps⟩
  · intro free other member found
    exact free other member found.2.1 found.2.2 found.1

theorem newSlot_ok {startsAt endsAt : Nat} (stored : dto.newSlot context startsAt endsAt = .ok slot) :
    slot.id = context.newId ∧ slot.status = .draft ∧ slot.period = dto.period startsAt endsAt ∧
      slot.teacherId = dto.teacherId ∧ slot.classSectionId = dto.classSectionId ∧ slot.roomId = dto.roomId := by
  unfold CreateTimetableSlotDto.newSlot at stored
  split at stored
  · split at stored
    · cases stored
      exact ⟨rfl, rfl, rfl, rfl, rfl, rfl⟩
    · cases stored
  · cases stored

theorem findSlotConflicts_eq_nil {startsAt endsAt : Nat} (stored : dto.newSlot context startsAt endsAt = .ok slot) :
    findSlotConflicts dto startsAt endsAt db = [] ↔ ∀ other ∈ db.slots.rows, ¬ clashes slot other := by
  obtain ⟨-, -, period, teacher, classSection, room⟩ := newSlot_ok stored
  simp only [findSlotConflicts, List.append_eq_nil_iff, conflictsOf_eq_nil, ← period, ← teacher, ← classSection, ← room]
  constructor
  · rintro ⟨⟨teachers, classes⟩, rooms⟩ other member ⟨active, overlaps, shared⟩
    rcases shared with shared | shared | shared
    · exact teachers other member active overlaps shared
    · exact classes other member active overlaps shared
    · exact rooms other member active overlaps shared
  · intro free
    refine ⟨⟨?_, ?_⟩, ?_⟩
    · intro other member active overlaps shared
      exact free other member ⟨active, overlaps, .inl shared⟩
    · intro other member active overlaps shared
      exact free other member ⟨active, overlaps, .inr (.inl shared)⟩
    · intro other member active overlaps shared
      exact free other member ⟨active, overlaps, .inr (.inr shared)⟩

theorem insertSlot_ok {result : TimetableSlot} : (insertSlot context slot).run db = .ok (result, after) ↔
    ∃ fresh : ∀ other ∈ db.slots.rows, other.id ≠ slot.id, slot = result ∧
      { db with slots := db.slots.insert slot fresh, auditLogs := db.auditLogs ++ [slotLog context slot] } = after := by
  simp only [insertSlot, appendAuditLog, run_bind_ok, run_current_ok, run_required_ok, run_write_ok, run_pure_ok,
    KeyedTable.tryInsert_eq_some]
  constructor
  · rintro ⟨_, _, ⟨rfl, rfl⟩, _, _, ⟨⟨fresh, rfl⟩, rfl⟩, _, _, rfl, _, _, rfl, rfl, rfl⟩
    exact ⟨fresh, rfl, rfl⟩
  · rintro ⟨fresh, rfl, rfl⟩
    exact ⟨_, _, ⟨rfl, rfl⟩, _, _, ⟨⟨fresh, rfl⟩, rfl⟩, (), _, rfl, (), _, rfl, rfl, rfl⟩

theorem createSlot_ok {session later : Session TimetableDb} :
    (createSlot context dto).run session = .ok (slot, later) ↔ dto.requestedSlot context = .ok slot ∧
      (∀ other ∈ (session.snapshots.headD session.committed).slots.rows, ¬ clashes slot other) ∧
      ∃ fresh : ∀ other ∈ session.tables.slots.rows, other.id ≠ slot.id, later = { session.rest with
        tables := { session.tables with
          slots := session.tables.slots.insert slot fresh
          auditLogs := session.tables.auditLogs ++ [slotLog context slot] } } := by
  simp only [createSlot, CreateTimetableSlotDto.requestedSlot, run_bind_ok, run_lift_ok, run_failIf_ok, snapshot_ok,
    run_onTables_ok, insertSlot_ok, Outcome.bind_ok, not_not]
  constructor
  · rintro ⟨startsAt, _, ⟨starts, rfl⟩, endsAt, _, ⟨ends, rfl⟩, _, _, ⟨rfl, rfl⟩, _, _, ⟨free, rfl⟩, _, _,
      ⟨stored, rfl⟩, _, ⟨fresh, rfl, rfl⟩, rfl⟩
    exact ⟨⟨startsAt, starts, endsAt, ends, stored⟩, (findSlotConflicts_eq_nil stored).mp free, fresh, rfl⟩
  · rintro ⟨⟨startsAt, starts, endsAt, ends, stored⟩, free, fresh, rfl⟩
    exact ⟨startsAt, _, ⟨starts, rfl⟩, endsAt, _, ⟨ends, rfl⟩, _, _, ⟨rfl, rfl⟩, (), _,
      ⟨(findSlotConflicts_eq_nil stored).mpr free, rfl⟩, slot, _, ⟨stored, rfl⟩, _, ⟨fresh, rfl, rfl⟩, rfl⟩

end Outcomes

structure Published (db after : TimetableDb) : Prop where
  written : ∃ id log, after = { db with
    versions := db.versions.put (dto.version context id), auditLogs := db.auditLogs ++ [log] }

theorem publishVersion_ok {context : CallContext} {dto : PublishTimetableVersionDto} {version : TimetableVersion}
    {session later : Session TimetableDb} (ran : (publishVersion context dto).run session = .ok (version, later)) :
    Published context dto session.tables later.tables := by
  simp only [publishVersion, upsertVersion, appendAuditLog, run_bind_ok, run_failIf_ok, snapshot_ok, run_onTables_ok,
    run_current_ok, run_write_ok, run_pure_ok] at ran
  obtain ⟨_, _, ⟨-, rfl⟩, _, _, ⟨-, rfl⟩, _, ⟨_, _, ⟨rfl, rfl⟩, _, _, ⟨-, rfl⟩, _, _, rfl, _, _, rfl, rfl, rfl⟩, rfl⟩ := ran
  exact ⟨_, _, rfl⟩

inductive Performed (transaction : InFlight TimetableDb TimetableCall) (db : TimetableDb) : TimetableDb → Prop
  | created (dto : CreateTimetableSlotDto) (slot : TimetableSlot)
    (asked : transaction.request.operation = .createSlot dto)
    (stored : dto.requestedSlot transaction.request.context = .ok slot)
    (free : ∀ other ∈ (transaction.snapshots.headD db).slots.rows, ¬ clashes slot other)
    (fresh : ∀ other ∈ db.slots.rows, other.id ≠ slot.id) :
    Performed transaction db { db with
      slots := db.slots.insert slot fresh, auditLogs := db.auditLogs ++ [slotLog transaction.request.context slot] }
  | published {after : TimetableDb} (dto : PublishTimetableVersionDto)
    (asked : transaction.request.operation = .publishVersion dto)
    (moved : Published transaction.request.context dto db after) : Performed transaction db after

section Calls

variable {transaction : InFlight TimetableDb TimetableCall} {db : TimetableDb}

theorem perform_ok {response : TimetableResponse} {session : Session TimetableDb}
    (ran : (perform transaction.request).run (.begun db transaction.snapshots) = .ok (response, session)) :
    Performed transaction db session.tables := by
  obtain ⟨⟨context, operation⟩, snapshots⟩ := transaction
  cases operation with
  | createSlot dto =>
    simp only [perform, run_bind_ok, run_pure_ok, createSlot_ok] at ran
    obtain ⟨slot, _, ⟨stored, free, fresh, rfl⟩, rfl, rfl⟩ := ran
    exact .created dto slot rfl stored free fresh
  | publishVersion dto =>
    simp only [perform, run_bind_ok, run_pure_ok] at ran
    obtain ⟨_, _, published, rfl, rfl⟩ := ran
    exact .published dto rfl (publishVersion_ok published)

theorem settle_performed (property : TimetableDb → Prop) (before : property db)
    (succeeds : ∀ after, Performed transaction db after → property after) :
    property (settle perform transaction db).1 :=
  settle_preserves before fun _ session ran => succeeds session.tables (perform_ok ran)

end Calls

end ShuleHub.Timetable
