import ShuleHub.Exams.LockedSeriesRuns

/-! The audit logs of the marks under calls in any interleaving: when they can be replayed to the scores. -/

namespace ShuleHub.Exams

open Runs Transaction Snapshots

def Chained : Option Score → List ExamMarkAuditLog → Option Score → Prop
  | score, [], final => score = final
  | score, log :: logs, final => log.previousScore = score ∧ Chained (some log.newScore) logs final

instance decidableChained : (score : Option Score) → (logs : List ExamMarkAuditLog) → (final : Option Score) →
    Decidable (Chained score logs final)
  | score, [], final => inferInstanceAs (Decidable (score = final))
  | score, log :: logs, final =>
    have := decidableChained (some log.newScore) logs final
    inferInstanceAs (Decidable (log.previousScore = score ∧ Chained (some log.newScore) logs final))

def logsOf (markId : String) (db : ExamsDb) : List ExamMarkAuditLog :=
  db.auditLogs.filter fun log => log.markId = markId

def Replays (db : ExamsDb) : Prop := ∀ mark ∈ db.marks.rows, Chained none (logsOf mark.id db) (some mark.score)
deriving Decidable

structure Audited (db : ExamsDb) : Prop where
  replays : Replays db
  known : ∀ log ∈ db.auditLogs, ∃ mark ∈ db.marks.rows, mark.id = log.markId

/-- An entry that passes its checks is the first one for its assessment and student. -/
def EntersFirst (transaction : InFlight ExamsDb ExamsCall) (db : ExamsDb) : Prop :=
  match transaction.request.operation with
  | .enterMark dto => passesChecks transaction dto db → findMark dto.assessmentId dto.studentId db.marks = none
  | _ => True

instance : ∀ transaction db, Decidable (EntersFirst transaction db)
  | ⟨⟨_, .enterMark _⟩, _⟩, _ => inferInstanceAs (Decidable (_ → _))
  | ⟨⟨_, .createSeries _⟩, _⟩, _ | ⟨⟨_, .createAssessment _⟩, _⟩, _ | ⟨⟨_, .correctLockedMark _⟩, _⟩, _
  | ⟨⟨_, .closeSeries _⟩, _⟩, _ => .isTrue trivial

section Steps

variable {db after : ExamsDb} {mark : ExamMark} {logs : List ExamMarkAuditLog} {log : ExamMarkAuditLog}
  {score final : Option Score} {markId : String} {transaction : InFlight ExamsDb ExamsCall} {dto : EnterExamMarkDto}

theorem chained_append :
    Chained score (logs ++ [log]) final ↔ Chained score logs log.previousScore ∧ final = some log.newScore := by
  induction logs generalizing score with
  | nil =>
    simp only [List.nil_append, Chained]
    constructor
    · rintro ⟨previous, last⟩
      exact ⟨previous.symm, last.symm⟩
    · rintro ⟨previous, last⟩
      exact ⟨previous.symm, last.symm⟩
  | cons first logs ih => simp only [List.cons_append, Chained, ih, and_assoc]

theorem chained_unique {other : Option Score} (first : Chained score logs final) (second : Chained score logs other) :
    final = other := by
  induction logs generalizing score with
  | nil => exact first.symm.trans second
  | cons log logs ih => exact ih first.2 second.2

theorem logsOf_append (logged : after.auditLogs = db.auditLogs ++ [log]) :
    logsOf markId after = logsOf markId db ++ if log.markId = markId then [log] else [] := by
  unfold logsOf
  rw [logged, List.filter_append, List.filter_singleton]
  by_cases own : log.markId = markId <;> simp [own]

theorem audited_put {marks : ExamMarks} (audited : Audited db) (put : db.marks.Put mark.id mark marks)
    (own : log.markId = mark.id) (newScore : log.newScore = mark.score)
    (continues : Chained none (logsOf mark.id db) log.previousScore) :
    Audited { db with marks, auditLogs := db.auditLogs ++ [log] } := by
  constructor
  · intro written member
    rw [logsOf_append rfl]
    rcases put.cases member with rfl | ⟨old, differs⟩
    · rw [if_pos own, chained_append]
      exact ⟨continues, congrArg some newScore.symm⟩
    · rw [if_neg (fun same => differs (same.symm.trans own)), List.append_nil]
      exact audited.replays written old
  · intro logged member
    rcases List.mem_append.mp member with old | new
    · obtain ⟨row, present, same⟩ := audited.known logged old
      by_cases changed : row.id = mark.id
      · exact ⟨mark, put.own.1, changed.symm.trans same⟩
      · exact ⟨row, (put.others row changed).mpr present, same⟩
    · rw [List.mem_singleton.mp new]
      exact ⟨mark, put.own.1, own.symm⟩

theorem logsOf_absent (audited : Audited db) (absent : ∀ row ∈ db.marks.rows, row.id ≠ markId) :
    logsOf markId db = [] := by
  apply List.filter_eq_nil_iff.mpr
  intro logged member
  obtain ⟨row, present, same⟩ := audited.known logged member
  rw [decide_eq_true_eq, ← same]
  exact absent row present

theorem settle_audited (transaction : InFlight ExamsDb ExamsCall) (audited : Audited db)
    (enters : EntersFirst transaction db) : Audited (settle perform transaction db).1 := by
  apply settle_performed Audited audited
  intro after performed
  cases performed with
  | seriesCreated series fresh => exact ⟨audited.replays, audited.known⟩
  | assessmentCreated assessment fresh => exact ⟨audited.replays, audited.known⟩
  | entered dto asked moved =>
    rw [EntersFirst, asked] at enters
    have first := enters moved.passed
    obtain ⟨actorUserId, score, mark, marks, -, -, -, upserted, rfl⟩ := moved.written
    cases upserted with
    | again existing found =>
      rw [found] at first
      cases first
    | afresh absent fresh =>
      apply audited_put audited (.insert fresh) rfl rfl
      have none_yet : logsOf (dto.newMark transaction.request.context actorUserId score).id db = [] :=
        logsOf_absent audited fresh
      rw [none_yet]
      rfl
  | corrected dto asked moved =>
    obtain ⟨actorUserId, reason, existing, score, marks, -, present, -, -, put, rfl⟩ := moved.written
    have written : db.marks.Put (corrected transaction.request.context actorUserId score existing).id
        (corrected transaction.request.context actorUserId score existing) marks := put
    apply audited_put audited written rfl rfl
    exact audited.replays existing present
  | closed closing => exact ⟨audited.replays, audited.known⟩

theorem run_enterMark {actorUserId : String}
    {units : Score} {middle : ExamsDb} (user : requireUserId transaction.request.context = .ok actorUserId)
    (allowed : mayEnter transaction.request.context actorUserId dto (transaction.snapshots.headD db))
    (opened : ¬ isSeriesClosed dto.examSeriesId (seriesSeen transaction db)) (scored : scoreOf dto.score = .ok units)
    (upserts : (upsertMark transaction.request.context actorUserId dto units).run db = .ok (mark, middle)) :
    (enterMark transaction.request.context dto).run (.begun db transaction.snapshots) =
      .ok (mark, { (authorized transaction.request.context (.begun db transaction.snapshots)).rest with
        tables := { middle with auditLogs := middle.auditLogs ++ [dto.auditLog actorUserId mark.id units] } }) := by
  have tables : (authorized transaction.request.context (.begun db transaction.snapshots)).rest.tables = db :=
    authorized_tables transaction.request.context (.begun db transaction.snapshots)
  simp only [enterMark, appendMarkAuditLog, run_bind_ok, run_lift_ok, run_failIf_ok, snapshot_ok, run_onTables_ok,
    run_write_ok, run_pure_ok]
  exact ⟨actorUserId, _, ⟨user, rfl⟩, (), _, assertAssigned_ok.mpr ⟨allowed, rfl⟩, _, _,
    ⟨seriesSeen_eq transaction db, rfl⟩, (), _, ⟨opened, rfl⟩, units, _, ⟨scored, rfl⟩, _,
    ⟨mark, middle, tables.symm ▸ upserts, (), _, rfl, rfl, rfl⟩, rfl⟩

theorem settle_enterMark
    {session : Session ExamsDb} (asked : transaction.request.operation = .enterMark dto)
    (entered : (enterMark transaction.request.context dto).run (.begun db transaction.snapshots) = .ok (mark, session)) :
    settle perform transaction db = (session.tables, .ok (.mark mark)) := by
  apply settle_of_ok
  simp only [perform, asked, run_bind_ok, run_pure_ok]
  exact ⟨mark, session, entered, rfl, rfl⟩

theorem settle_overwrites {existing : ExamMark}
    (asked : transaction.request.operation = .enterMark dto) (passed : passesChecks transaction dto db)
    (found : findMark dto.assessmentId dto.studentId db.marks = some existing) :
    ∃ log, log.markId = existing.id ∧ log.previousScore = none ∧
      (settle perform transaction db).1.auditLogs = db.auditLogs ++ [log] ∧
      ∃ mark ∈ (settle perform transaction db).1.marks.rows, mark.id = existing.id := by
  obtain ⟨⟨actorUserId, user, allowed⟩, opened, scored⟩ := passed
  obtain ⟨units, valid⟩ := Option.ne_none_iff_exists'.mp scored
  have upserts : (upsertMark transaction.request.context actorUserId dto units).run db =
      .ok (dto.overwrite transaction.request.context actorUserId units existing, { db with
        marks := db.marks.update existing.id (dto.overwrite transaction.request.context actorUserId units)
          (dto.overwrite_id transaction.request.context actorUserId units) }) := by
    simp only [upsertMark, run_bind, run_current, found, run_write, run_pure]
  have enters := run_enterMark (Outcome.toOption_eq_some.mp user) allowed opened (Outcome.toOption_eq_some.mp valid)
    upserts
  rw [settle_enterMark asked enters]
  refine ⟨dto.auditLog actorUserId existing.id units, rfl, rfl, rfl,
    dto.overwrite transaction.request.context actorUserId units existing, ?_, rfl⟩
  have written : db.marks.Put existing.id (dto.overwrite transaction.request.context actorUserId units existing)
      (db.marks.update existing.id (dto.overwrite transaction.request.context actorUserId units)
        (dto.overwrite_id transaction.request.context actorUserId units)) :=
    .update _ (dto.overwrite_id transaction.request.context actorUserId units) (findMark_some found).1 rfl
  exact written.own.1

theorem settle_breaks (transaction : InFlight ExamsDb ExamsCall) (audited : Audited db)
    (overwrites : ¬ EntersFirst transaction db) : ¬ Replays (settle perform transaction db).1 := by
  intro replays
  unfold EntersFirst at overwrites
  split at overwrites
  · next dto asked =>
    obtain ⟨passed, taken⟩ := Classical.not_imp.mp overwrites
    obtain ⟨existing, found⟩ := Option.ne_none_iff_exists'.mp taken
    obtain ⟨log, own, previous, logged, mark, written, same⟩ := settle_overwrites asked passed found
    have chain := replays mark written
    rw [same, logsOf_append logged, if_pos own, chained_append, previous] at chain
    have before := audited.replays existing (findMark_some found).1
    cases chained_unique before chain.1
  · exact overwrites trivial

end Steps

/-- The logs of every mark replay to its score in exactly the runs whose entries are all the first for their assessment
and student. -/
theorem logs_replay_iff (start : ExamsDb) (events : List (Snapshots.Event ExamsCall)) (audited : Audited start) :
    Along (step perform) (fun world => Replays world.db) (World.idle start) events ↔
      Meets (step perform) (Committing EntersFirst) (World.idle start) events :=
  along_iff_commits (fun db _ => Audited db) (fun db _ => Replays db) (fun _ _ _ => trivial)
    (fun transaction _ _ audited _ admits => settle_audited transaction audited admits)
    (fun _ _ audited => audited.replays)
    (fun transaction _ _ audited _ overwrites => settle_breaks transaction audited overwrites) events audited

theorem school_audited : Audited school := ⟨by decide +kernel, by decide +kernel⟩

theorem logs_replay_corrected :
    Along (step perform) (fun world => Replays world.db) (World.idle school)
      [.begin (entry "mark-1" "series-1" 84), .commit 0, .begin (correction 86), .commit 0, .begin (correction 80),
        .commit 0] :=
  (logs_replay_iff school _ school_audited).mpr (by decide +kernel)

/-- A second entry for one student writes a log that does not know of the first. -/
theorem second_entry_unchained :
    ¬ ∀ (start : ExamsDb) (events : List (Snapshots.Event ExamsCall)), Audited start →
      Along (step perform) (fun world => Replays world.db) (World.idle start) events := by
  intro always
  have replays := run_of_along (always school
    [.begin (entry "mark-1" "series-1" 84), .commit 0, .begin (entry "mark-2" "series-1" 90), .commit 0]
    school_audited)
  exact absurd replays (by decide +kernel)

end ShuleHub.Exams
