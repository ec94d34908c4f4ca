import ShuleHub.Discipline.Actions

/-! Suspensions and expulsions under creations, approvals and completions in any interleaving: when they are completed
only after an approval, and then stay as they are. -/

namespace ShuleHub.Discipline

open Runs Transaction Snapshots KeyedTable

abbrev DisciplineHistory := List (Finished DisciplineDb DisciplineCall Exception DisciplineAction)

def WasApproved (finished : DisciplineHistory) (actionId : String) : Prop :=
  ∃ done ∈ finished, done.request.operation = .approveAction actionId ∧
    done.request.store.hasPermission "discipline:approve" ∧ ∃ action, done.outcome = .ok action ∧ action.id = actionId

structure SameCompletion (action later : DisciplineAction) : Prop where
  id : later.id = action.id
  status : later.status = .completed
  approvedAt : later.approvedAt = action.approvedAt
  completedAt : later.completedAt = action.completedAt
  completionNotes : later.completionNotes = action.completionNotes

def KeepsCompleted (before after : DisciplineDb) : Prop :=
  ∀ action ∈ before.actions.rows, action.actionType.requiresApproval → action.status = .completed →
    ∃ later ∈ after.actions.rows, SameCompletion action later

/-- Suspensions and expulsions are completed after an approval, and for good. -/
structure ApprovedFirst (db : DisciplineDb) (finished : DisciplineHistory) : Prop where
  approved : ∀ action ∈ db.actions.rows, action.actionType.requiresApproval → action.status = .completed →
    WasApproved finished action.id
  absorbing : ∀ done ∈ finished, KeepsCompleted done.before done.after

def Awaiting (db : DisciplineDb) : Prop :=
  ∀ action ∈ db.actions.rows, action.actionType.requiresApproval →
    action.status ≠ .approved ∧ action.status ≠ .completed
deriving Decidable

def storedAction (store : RequestStore) (actionId : String) (db : DisciplineDb) : Option DisciplineAction :=
  (requireTenantId store).toOption.bind fun tenantId => DisciplineRepository.findAction db tenantId actionId

/-- The condition on a call at its commit: a suspension or expulsion is completed when it is approved, and not approved
when it is completed. -/
def KeepsOrder (transaction : InFlight DisciplineDb DisciplineCall) (db : DisciplineDb) : Prop :=
  match transaction.request.operation with
  | .createAction _ _ => True
  | .completeAction actionId _ => transaction.request.store.hasPermission "discipline:manage" →
    ∀ action ∈ storedAction transaction.request.store actionId db,
      action.actionType.requiresApproval → action.status = .approved
  | .approveAction actionId => transaction.request.store.hasPermission "discipline:approve" →
    ∀ action ∈ storedAction transaction.request.store actionId db,
      action.actionType.requiresApproval → action.status ≠ .completed

instance (transaction : InFlight DisciplineDb DisciplineCall) (db : DisciplineDb) :
    Decidable (KeepsOrder transaction db) := by
  unfold KeepsOrder
  split <;> infer_instance

section Calls

variable {store : RequestStore} {session after : Session DisciplineDb} {action : DisciplineAction} {actionId : String}
  {db : DisciplineDb} {schoolId : String}

theorem audit_ok {later : DisciplineDb} {name entityId : String} {metadata : Json} {done : Unit}
    (audited : (audit store schoolId name entityId metadata).run db = .ok (done, later)) :
    later.actions = db.actions := by
  simp only [audit, DisciplineRepository.createAuditLog, run_bind_ok, run_lift_ok, run_write_ok] at audited
  obtain ⟨_, _, ⟨-, rfl⟩, rfl⟩ := audited
  rfl

theorem resolveSchoolId_ok (resolved : (resolveSchoolId store).run session = .ok (schoolId, after)) :
    after.tables = session.tables := by
  simp only [resolveSchoolId, run_bind_ok, run_lift_ok, snapshot_ok, run_required_ok] at resolved
  obtain ⟨_, _, ⟨-, rfl⟩, _, _, ⟨-, rfl⟩, -, rfl⟩ := resolved
  rfl

theorem updateAction_ok {later : DisciplineDb} {tenantId : String} {change : DisciplineAction → DisciplineAction}
    {kept : ∀ action, (change action).id = action.id}
    (updated : (DisciplineRepository.updateAction tenantId actionId change kept).run db = .ok (some action, later)) :
    ∃ row, DisciplineRepository.findAction db tenantId actionId = some row ∧ action = change row ∧
      later.actions = db.actions.update actionId change kept := by
  simp only [DisciplineRepository.updateAction, run_bind_ok, run_current_ok] at updated
  obtain ⟨_, _, ⟨rfl, rfl⟩, updated⟩ := updated
  split at updated
  · simp only [run_pure_ok] at updated
    cases updated.1
  · next row found =>
    simp only [run_bind_ok, run_write_ok, run_pure_ok] at updated
    obtain ⟨_, _, rfl, same, rfl⟩ := updated
    exact ⟨row, found, (Option.some.inj same).symm, rfl⟩

theorem createAction_ok {incidentId : String} {dto : CreateDisciplineActionDto}
    (created : (createAction store incidentId dto).run session = .ok (action, after)) :
    (action.actionType.requiresApproval → action.status = .pendingApproval) ∧
      ∃ fresh : ∀ other ∈ session.tables.actions.rows, other.id ≠ action.id,
        after.tables.actions = session.tables.actions.insert action fresh := by
  simp only [createAction, requireIncident, DisciplineRepository.createAction, run_bind_ok, run_lift_ok, snapshot_ok,
    run_onTables_ok, run_required_ok, run_failIf_ok, run_current_ok, run_write_ok, run_pure_ok] at created
  obtain ⟨_, _, ⟨-, rfl⟩, incident, _, ⟨_, _, ⟨-, rfl⟩, _, _, ⟨-, rfl⟩, _, _, ⟨-, rfl⟩, _, _, ⟨-, rfl⟩, rfl, rfl⟩, title,
    _, ⟨-, rfl⟩, _, _, ⟨_, ⟨_, _, ⟨rfl, rfl⟩, actions, _, ⟨inserted, rfl⟩, _, _, rfl, rfl, rfl⟩, rfl⟩, _, _,
    ⟨_, audited, rfl⟩, rfl, rfl⟩ := created
  obtain ⟨fresh, same⟩ := (tryInsert_eq_some _).mp inserted
  refine ⟨fun required => if_pos required, fresh, ?_⟩
  exact (audit_ok audited).trans same.symm

theorem completeAction_ok {dto : CompleteDisciplineActionDto}
    (completed : (completeAction store actionId dto).run session = .ok (action, after)) :
    store.hasPermission "discipline:manage" ∧ ∃ completionNotes row, storedAction store actionId session.tables = some row ∧
      action = row.complete store.now completionNotes ∧
      after.tables.actions = session.tables.actions.update actionId (DisciplineAction.complete store.now completionNotes)
        (DisciplineAction.complete_id store.now completionNotes) := by
  simp only [completeAction, assertPermission, run_bind_ok, run_lift_ok, Outcome.failIf_ok, run_onTables_ok,
    run_required_ok, run_pure_ok, not_not] at completed
  obtain ⟨_, _, ⟨permitted, rfl⟩, tenantId, _, ⟨tenant, rfl⟩, _, _, ⟨_, updated, rfl⟩, _, _, ⟨rfl, rfl⟩, schoolId, _,
    resolved, _, _, ⟨_, audited, rfl⟩, rfl, rfl⟩ := completed
  obtain ⟨row, found, changed, actions⟩ := updateAction_ok updated
  refine ⟨permitted, _, row, ?_, changed, ?_⟩
  · rw [storedAction, tenant]
    exact found
  · rw [← actions]
    exact (audit_ok audited).trans (congrArg DisciplineDb.actions (resolveSchoolId_ok resolved))

theorem approveAction_ok (approved : (approveAction store actionId).run session = .ok (action, after)) :
    store.hasPermission "discipline:approve" ∧ ∃ row, storedAction store actionId session.tables = some row ∧
      action = row.approve store.now store.userId ∧
      after.tables.actions = session.tables.actions.update actionId (DisciplineAction.approve store.now store.userId)
        (DisciplineAction.approve_id store.now store.userId) := by
  simp only [approveAction, assertPermission, run_bind_ok, run_lift_ok, Outcome.failIf_ok, run_onTables_ok,
    run_required_ok, run_pure_ok, not_not] at approved
  obtain ⟨_, _, ⟨permitted, rfl⟩, tenantId, _, ⟨tenant, rfl⟩, _, _, ⟨_, updated, rfl⟩, _, _, ⟨rfl, rfl⟩, schoolId, _,
    resolved, _, _, ⟨_, audited, rfl⟩, rfl, rfl⟩ := approved
  obtain ⟨row, found, changed, actions⟩ := updateAction_ok updated
  refine ⟨permitted, row, ?_, changed, ?_⟩
  · rw [storedAction, tenant]
    exact found
  · rw [← actions]
    exact (audit_ok audited).trans (congrArg DisciplineDb.actions (resolveSchoolId_ok resolved))

theorem storedAction_ok (stored : storedAction store actionId db = some action) :
    action ∈ db.actions.rows ∧ action.id = actionId := by
  obtain ⟨_, -, found⟩ := Option.bind_eq_some_iff.mp stored
  exact (find_eq_some _).mp (Option.filter_eq_some_iff.mp found).1

end Calls

section Laws

variable {db after : DisciplineDb} {finished : DisciplineHistory} {actionId : String}
  {change : DisciplineAction → DisciplineAction} {kept : ∀ action, (change action).id = action.id}

/-- What the calls keep: a suspension or expulsion that is approved or completed has had its approval. -/
structure Ordered (db : DisciplineDb) (finished : DisciplineHistory) : Prop where
  approved : ∀ action ∈ db.actions.rows, action.actionType.requiresApproval →
    action.status = .approved ∨ action.status = .completed → WasApproved finished action.id
  absorbing : ∀ done ∈ finished, KeepsCompleted done.before done.after

theorem Ordered.approvedFirst (ordered : Ordered db finished) : ApprovedFirst db finished where
  approved action member required completed := ordered.approved action member required (.inr completed)
  absorbing := ordered.absorbing

theorem Awaiting.ordered (awaiting : Awaiting db) : Ordered db [] where
  approved action member required moved := by
    obtain ⟨unapproved, incomplete⟩ := awaiting action member required
    rcases moved with approved | completed
    · exact absurd approved unapproved
    · exact absurd completed incomplete
  absorbing := by simp

theorem WasApproved.later {done : Finished DisciplineDb DisciplineCall Exception DisciplineAction}
    (approved : WasApproved finished actionId) : WasApproved (finished ++ [done]) actionId := by
  obtain ⟨earlier, member, rest⟩ := approved
  exact ⟨earlier, List.mem_append_left _ member, rest⟩

theorem keepsCompleted_of_rows (kept : ∀ action ∈ db.actions.rows, action.actionType.requiresApproval →
    action.status = .completed → action ∈ after.actions.rows) : KeepsCompleted db after := by
  intro action member required completed
  exact ⟨action, kept action member required completed, rfl, completed, rfl, rfl, rfl⟩

theorem keepsCompleted_update
    (updated : after.actions = db.actions.update actionId change kept)
    (apart : ∀ row ∈ db.actions.rows, row.id = actionId → row.actionType.requiresApproval → row.status ≠ .completed) :
    KeepsCompleted db after := by
  apply keepsCompleted_of_rows
  intro action member required completed
  rw [updated]
  apply mem_update.mpr
  exact .inr ⟨member, fun same => apart action member same required completed⟩

variable {request : DisciplineCall} {outcome : Except Exception DisciplineAction}

theorem Ordered.extend (ordered : Ordered db finished) (keeps : KeepsCompleted db after)
    (approved : ∀ action ∈ after.actions.rows, action.actionType.requiresApproval →
      action.status = .approved ∨ action.status = .completed →
        WasApproved (finished ++ [⟨request, db, after, outcome⟩]) action.id) :
    Ordered after (finished ++ [⟨request, db, after, outcome⟩]) where
  approved := approved
  absorbing other member := by
    rcases List.mem_append.mp member with old | new
    · exact ordered.absorbing other old
    · rw [List.mem_singleton.mp new]
      exact keeps

theorem Ordered.extend_update (ordered : Ordered db finished)
    (updated : after.actions = db.actions.update actionId change kept)
    (apart : ∀ row ∈ db.actions.rows, row.id = actionId → row.actionType.requiresApproval → row.status ≠ .completed)
    (approved : ∀ row ∈ db.actions.rows, row.id = actionId → (change row).actionType.requiresApproval →
      WasApproved (finished ++ [⟨request, db, after, outcome⟩]) actionId) :
    Ordered after (finished ++ [⟨request, db, after, outcome⟩]) := by
  apply ordered.extend (keepsCompleted_update updated apart)
  intro action member required moved
  rw [updated] at member
  rcases mem_update.mp member with ⟨row, present, same, rfl⟩ | ⟨present, -⟩
  · rw [kept row, same]
    exact approved row present same required
  · exact (ordered.approved action present required moved).later

theorem settle_ordered (transaction : InFlight DisciplineDb DisciplineCall) (ordered : Ordered db finished)
    (keeps : KeepsOrder transaction db) : Ordered (settle perform transaction db).1
      (finished ++ [⟨transaction.request, db, (settle perform transaction db).1, (settle perform transaction db).2⟩]) := by
  refine settle_cases (fun settled : DisciplineDb × Except Exception DisciplineAction =>
    Ordered settled.1 (finished ++ [⟨transaction.request, db, settled.1, settled.2⟩])) ?_ ?_
  · intro error
    apply ordered.extend (keepsCompleted_of_rows fun action member _ _ => member)
    intro action member required moved
    exact (ordered.approved action member required moved).later
  · intro result session succeeded
    unfold perform at succeeded
    unfold KeepsOrder at keeps
    split at succeeded
    · obtain ⟨pending, fresh, inserted⟩ := createAction_ok succeeded
      apply ordered.extend
      · apply keepsCompleted_of_rows
        intro action member _ _
        rw [inserted]
        exact mem_insert_of_mem fresh member
      · intro action member required moved
        rw [inserted] at member
        rcases mem_insert.mp member with old | rfl
        · exact (ordered.approved action old required moved).later
        · rw [pending required] at moved
          rcases moved with impossible | impossible <;> cases impossible
    · next actionId dto asked =>
      rw [asked] at keeps
      obtain ⟨permitted, completionNotes, row, stored, rfl, updated⟩ := completeAction_ok succeeded
      obtain ⟨present, own⟩ := storedAction_ok stored
      have only (other : DisciplineAction) (member : other ∈ db.actions.rows) (same : other.id = actionId) : other = row :=
        eq_of_key member present (same.trans own.symm)
      have approved (required : row.actionType.requiresApproval) : row.status = .approved :=
        keeps permitted row stored required
      apply ordered.extend_update updated
      · intro other member same required completed
        cases only other member same
        cases (approved required).symm.trans completed
      · intro other member same required
        cases only other member same
        rw [← own]
        exact (ordered.approved row present required (.inl (approved required))).later
    · next actionId asked =>
      rw [asked] at keeps
      obtain ⟨permitted, row, stored, rfl, updated⟩ := approveAction_ok succeeded
      obtain ⟨present, own⟩ := storedAction_ok stored
      apply ordered.extend_update updated
      · intro other member same required
        cases eq_of_key member present (same.trans own.symm)
        exact keeps permitted row stored required
      · intro other member same required
        exact ⟨_, List.mem_append_right _ (List.mem_singleton_self _), asked, permitted, _, rfl, own⟩

end Laws

/-- In a run whose calls keep the order, suspensions and expulsions are completed after an approval and for good. -/
theorem completed_after_approval {start : DisciplineDb} (events : List (Snapshots.Event DisciplineCall))
    (awaiting : Awaiting start) (keeps : Meets (step perform) (Committing KeepsOrder) (World.idle start) events) :
    Along (step perform) (fun world => ApprovedFirst world.db world.finished) (World.idle start) events :=
  along_of_commits Ordered ApprovedFirst (fun _ _ _ => trivial)
    (fun transaction _ _ ordered _ keeps => settle_ordered transaction ordered keeps)
    (fun _ _ ordered => ordered.approvedFirst) awaiting.ordered keeps

def fight : DisciplineIncident where
  id := "incident-1"
  tenantId := "lakeside"
  schoolId := "school-1"
  studentId := "student-1"
  reportingStaffId := some "teacher-1"
  assignedStaffId := none
  deletedAt := none

def afterFight : DisciplineDb where
  incidents := KeyedTable.empty.put fight
  actions := .empty
  auditLogs := []
  tenants := [("lakeside", "school-1")]

def disciplineOffice (permissions : List String) (now : Int) (operation : DisciplineOperation) : DisciplineCall where
  store :=
    { tenantId := some "lakeside", userId := "user-1", role := some "deputy_principal", permissions, clientIp := none
      userAgent := none, now, newId := "action-1" }
  operation := operation

def suspend : DisciplineCall :=
  disciplineOffice ["discipline:manage"] 1 (.createAction "incident-1"
    { actionType := .suspension, title := "Suspended", description := none, assignedStaffId := none, dueAt := none
      remarks := none, metadata := none })

def approveSuspension : DisciplineCall := disciplineOffice ["discipline:approve"] 2 (.approveAction "action-1")

def completeSuspension : DisciplineCall := disciplineOffice ["discipline:manage"] 3 (.completeAction "action-1" ⟨none⟩)

theorem completed_after_approval_once :
    Along (step perform) (fun world => ApprovedFirst world.db world.finished) (World.idle afterFight)
      [.begin suspend, .commit 0, .begin approveSuspension, .commit 0, .begin completeSuspension, .commit 0] :=
  completed_after_approval _ (by decide +kernel) (by decide +kernel)

/-- A suspension is completed while it waits for its approval. -/
theorem completed_without_approval :
    ¬ ∀ (start : DisciplineDb) (events : List (Snapshots.Event DisciplineCall)), Awaiting start →
      Along (step perform) (fun world => ApprovedFirst world.db world.finished) (World.idle start) events := by
  intro always
  have first := run_of_along (always afterFight
    [.begin suspend, .commit 0, .begin completeSuspension, .commit 0] (by decide +kernel))
  let world := run (step perform) (World.idle afterFight)
    [.begin suspend, .commit 0, .begin completeSuspension, .commit 0]
  have completed : ∃ action ∈ world.db.actions.rows, action.id = "action-1" ∧ action.actionType.requiresApproval ∧
      action.status = .completed := by decide +kernel
  have unapproved : ∀ done ∈ world.finished, done.request.operation ≠ .approveAction "action-1" := by decide +kernel
  obtain ⟨action, member, own, required, status⟩ := completed
  obtain ⟨done, finished, asked, -⟩ := first.approved action member required status
  rw [own] at asked
  exact unapproved done finished asked

end ShuleHub.Discipline
