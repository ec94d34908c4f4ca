import ShuleHub.Hr.Approvals

/-! Leave that is approved without an override reason, under approvals in any interleaving: when it stays within the
balance. -/

namespace ShuleHub.Hr

open Runs Transaction Snapshots HrRepository

variable (account : LeaveAccount)

def CountsAgainst (leave : LeaveRequest) : Prop :=
  leave.account = account ∧ leave.status = .approved ∧ ¬ overrides leave.overrideReason
deriving Decidable

def approvedDays (db : HrDb) : Int :=
  ((db.leaveRequests.rows.filter fun leave => CountsAgainst account leave).map (·.requestedDays)).sum

/-- An approval without an override reason that the check lets through fits beside those before it. -/
def FitsBalance (transaction : InFlight HrDb HrCall) (db : HrDb) : Prop :=
  match transaction.request.operation with
  | .approveLeave dto => ∀ leave ∈ (requestedLeave transaction.request.context dto).toOption,
    (∀ other ∈ db.leaveRequests.rows, other.id ≠ leave.id) → leave.account = account → ¬ overrides dto.overrideReason →
      dto.requestedDays.value ≤ HrRepository.findLeaveBalance db account / 100 →
        approvedDays account db + leave.requestedDays ≤ HrRepository.findLeaveBalance db account
  | .approveContract _ => True

instance (account : LeaveAccount) : ∀ transaction db, Decidable (FitsBalance account transaction db)
  | ⟨⟨_, .approveLeave _⟩, _⟩, _ => inferInstanceAs (Decidable (∀ _ ∈ _, _ → _))
  | ⟨⟨_, .approveContract _⟩, _⟩, _ => .isTrue trivial

/-- What the run keeps of the account: its balance, and the approved days within it. -/
structure WithinBalance (balance : Int) (db : HrDb) : Prop where
  unchanged : HrRepository.findLeaveBalance db account = balance
  within : approvedDays account db ≤ balance

section Steps

variable {account : LeaveAccount} {balance : Int} {db : HrDb} {leave : LeaveRequest} {dto : ApproveLeaveRequestDto}

theorem approvedDays_insert {logs : List StaffAuditLog} (fresh : ∀ other ∈ db.leaveRequests.rows, other.id ≠ leave.id) :
    approvedDays account { db with leaveRequests := db.leaveRequests.insert leave fresh, auditLogs := logs } =
      approvedDays account db + if CountsAgainst account leave then leave.requestedDays else 0 := by
  simp only [approvedDays, KeyedTable.insert, List.filter_append, List.map_append, List.sum_append]
  congr 1
  split
  · next counts => simp [counts]
  · next apart => simp [apart]

theorem requestedLeave_counts {context : HrContext}
    (requested : requestedLeave context dto = .ok leave) :
    CountsAgainst account leave ↔ leave.account = account ∧ ¬ overrides dto.overrideReason := by
  obtain ⟨_, -, _, -, rfl⟩ := requestedLeave_ok.mp requested
  simp [CountsAgainst, newLeave]

theorem shown_balance {snapshots : List HrDb} (unchanged : findLeaveBalance db account = balance)
    (seen : ∀ seen ∈ snapshots, findLeaveBalance seen account = balance) :
    findLeaveBalance (snapshots.headD db) account = balance := by
  cases snapshots with
  | nil => exact unchanged
  | cons first rest => exact seen first (List.mem_cons_self ..)

theorem settle_withinBalance (transaction : InFlight HrDb HrCall) (holds : WithinBalance account balance db)
    (seen : ∀ seen ∈ transaction.snapshots, findLeaveBalance seen account = balance)
    (fits : FitsBalance account transaction db) : WithinBalance account balance (settle perform transaction db).1 := by
  apply settle_preserves holds
  intro result session succeeded
  unfold perform at succeeded
  unfold FitsBalance at fits
  split at succeeded
  · next dto asked =>
    simp only [run_bind_ok, run_pure_ok] at succeeded
    obtain ⟨contract, _, approved, -, rfl⟩ := succeeded
    obtain ⟨-, -, _, rfl⟩ := approveContract_ok.mp approved
    exact ⟨holds.unchanged, holds.within⟩
  · next dto asked =>
    rw [asked] at fits
    simp only [run_bind_ok, run_pure_ok] at succeeded
    obtain ⟨leave, _, approved, -, rfl⟩ := succeeded
    obtain ⟨requested, check, fresh, rfl⟩ := approveLeave_ok.mp approved
    refine ⟨holds.unchanged, ?_⟩
    rw [approvedDays_insert fresh]
    split
    · next counts =>
      obtain ⟨own, plain⟩ := (requestedLeave_counts requested).mp counts
      have shown : findLeaveBalance (transaction.snapshots.headD db) leave.account = balance := by
        rw [own]
        exact shown_balance holds.unchanged seen
      have lets : dto.requestedDays.value ≤ balance / 100 := by
        rw [← shown]
        apply not_lt.mp
        intro beyond
        exact check ⟨beyond, plain⟩
      have bound := fits leave (Outcome.toOption_eq_some.mpr requested) fresh own plain
      rw [holds.unchanged] at bound
      exact bound lets
    · rw [add_zero]
      exact holds.within

theorem settle_of_approveLeave {transaction : InFlight HrDb HrCall}
    {session : Session HrDb} (asked : transaction.request.operation = .approveLeave dto)
    (approved : (approveLeave transaction.request.context dto).run (.begun db transaction.snapshots) =
      .ok (leave, session)) : settle perform transaction db = (session.tables, .ok (.leave leave)) := by
  apply settle_of_ok
  simp only [perform, asked, run_bind_ok, run_pure_ok]
  exact ⟨leave, session, approved, rfl, rfl⟩

theorem settle_beyondBalance (transaction : InFlight HrDb HrCall) (holds : WithinBalance account balance db)
    (seen : ∀ seen ∈ transaction.snapshots, findLeaveBalance seen account = balance)
    (misfits : ¬ FitsBalance account transaction db) :
    ¬ approvedDays account (settle perform transaction db).1 ≤ balance := by
  unfold FitsBalance at misfits
  split at misfits
  · next dto asked =>
    simp only [not_forall, exists_prop] at misfits
    obtain ⟨leave, requested, fresh, own, plain, lets, beyond⟩ := misfits
    have stored := Outcome.toOption_eq_some.mp requested
    have check : ¬ (findLeaveBalance (transaction.snapshots.headD db) leave.account / 100 <
        dto.requestedDays.value ∧ ¬ overrides dto.overrideReason) := by
      rw [own, shown_balance holds.unchanged seen, ← holds.unchanged]
      intro refused
      exact not_lt_of_ge lets refused.1
    rw [settle_of_approveLeave asked (approveLeave_ok.mpr ⟨stored, check, fresh, rfl⟩)]
    have counts : CountsAgainst account leave := (requestedLeave_counts stored).mpr ⟨own, plain⟩
    intro within
    have total : approvedDays account db + (if CountsAgainst account leave then leave.requestedDays else 0) ≤ balance :=
      (approvedDays_insert fresh).symm.trans_le within
    rw [if_pos counts] at total
    rw [holds.unchanged] at beyond
    exact beyond total
  · exact absurd trivial misfits

end Steps

/-- The leave of an account stays within its balance in exactly the runs whose approvals fit it beside those before. -/
theorem leave_within_balance_iff (start : HrDb) (account : LeaveAccount) (events : List (Snapshots.Event HrCall))
    (within : approvedDays account start ≤ HrRepository.findLeaveBalance start account) :
    Along (step perform) (fun world => approvedDays account world.db ≤ HrRepository.findLeaveBalance start account)
        (World.idle start) events ↔
      Meets (step perform) (Committing (FitsBalance account)) (World.idle start) events :=
  along_iff_commits (fun db _ => WithinBalance account (HrRepository.findLeaveBalance start account) db)
    (fun db _ => approvedDays account db ≤ HrRepository.findLeaveBalance start account)
    (fun _ _ holds => holds.unchanged)
    (fun transaction _ _ holds seen fits => settle_withinBalance transaction holds seen fits)
    (fun _ _ holds => holds.within)
    (fun transaction _ _ holds seen misfits => settle_beyondBalance transaction holds seen misfits) events ⟨rfl, within⟩

def annualLeave : LeaveAccount := ⟨"lakeside", "staff-1", "annual"⟩

def twoDaysLeft : HrDb where
  contracts := .empty
  leaveBalances := KeyedTable.empty.put ⟨annualLeave, 200⟩
  leaveRequests := .empty
  auditLogs := []

def takeTwoDays (newId : String) : HrCall where
  context := ⟨some "lakeside", some "user-1", 0, newId⟩
  operation := .approveLeave
    { staffProfileId := "staff-1", leaveType := "annual", requestedDays := ⟨.ofNat 2, 2, by decide⟩
      overrideReason := none }

theorem leave_within_balance_once :
    Along (step perform)
      (fun world => approvedDays annualLeave world.db ≤ HrRepository.findLeaveBalance twoDaysLeft annualLeave)
      (World.idle twoDaysLeft) [.begin (takeTwoDays "leave-1"), .commit 0] :=
  (leave_within_balance_iff twoDaysLeft annualLeave _ (by decide +kernel)).mpr (by decide +kernel)

/-- The balance of two days is taken twice, one approval after the other. -/
theorem balance_taken_twice :
    ¬ ∀ (start : HrDb) (account : LeaveAccount) (events : List (Snapshots.Event HrCall)),
      approvedDays account start ≤ HrRepository.findLeaveBalance start account →
        Along (step perform) (fun world => approvedDays account world.db ≤ HrRepository.findLeaveBalance start account)
          (World.idle start) events := by
  intro always
  have within := run_of_along (always twoDaysLeft annualLeave
    [.begin (takeTwoDays "leave-1"), .commit 0, .begin (takeTwoDays "leave-2"), .commit 0] (by decide +kernel))
  exact absurd within (by decide +kernel)

end ShuleHub.Hr
