import ShuleHub.Lib.Runs
import ShuleHub.Sync.Pull

namespace ShuleHub.Sync

open Runs Transaction

variable {entities : Option (List String)} {stored : List SyncCursorState} (transaction : Nat)

structure Device where
  tenantId : String
  deviceId : String
  tenantKnown : tenantId ≠ ""

structure World where
  db : SyncDb
  /-- Rows that are inserted but not yet visible, each with the transaction it waits for. -/
  uncommitted : List (Nat × SyncOperationLog)
  /-- The answers the device has had, the oldest first. -/
  answers : List SyncPullResult

variable (world : World)

def World.fresh : World := ⟨⟨1, [], []⟩, [], []⟩

structure CreateSyncOperationLogInput where
  opId : String
  tenantId : String
  deviceId : String
  entity : SyncEntity
  payload : Json

def rows : List SyncOperationLog :=
  world.db.syncOperationLogs ++ world.uncommitted.map Prod.snd

/-- `INSERT` takes the next value of the identity column, and keeps it when the row is refused. -/
def createOperation (input : CreateSyncOperationLogInput) (world : World) : World :=
  let db := { world.db with nextVersion := world.db.nextVersion + 1 }
  if ∃ other ∈ rows world, other.opId = input.opId then { world with db }
  else
    let row : SyncOperationLog :=
      ⟨input.opId, input.tenantId, input.deviceId, input.entity, input.payload, world.db.nextVersion⟩
    { world with db, uncommitted := world.uncommitted ++ [(transaction, row)] }

def commitWriter (world : World) : World :=
  let rows := (world.uncommitted.filter fun entry => entry.1 = transaction).map Prod.snd
  { world with
    db := { world.db with syncOperationLogs := world.db.syncOperationLogs ++ rows }
    uncommitted := world.uncommitted.filter fun entry => ¬ entry.1 = transaction }

def rollbackWriter (world : World) : World :=
  { world with uncommitted := world.uncommitted.filter fun entry => ¬ entry.1 = transaction }

def lastCursors : Option (List SyncCursorDto) :=
  world.answers.getLast?.map fun answer => answer.cursors.map fun cursor => ⟨cursor.1.text, cursor.2⟩

def pullNow (device : Device) (entities : Option (List String)) (limit : Option ℕ+) (world : World) : World :=
  match (pull (some device.tenantId) ⟨device.deviceId, lastCursors world, entities, limit⟩).run world.db with
  | .ok (answer, db) => { world with db, answers := world.answers ++ [answer] }
  | .error _ => world

inductive Event where
  | createOperation (transaction : Nat) (input : CreateSyncOperationLogInput)
  | commit (transaction : Nat)
  | rollback (transaction : Nat)
  | pull (entities : Option (List String)) (limit : Option ℕ+)
  | pullElsewhere (tenantId : String) (dto : SyncPullDto)

@[grind =] def step (device : Device) (world : World) : Event → World
  | .createOperation transaction input => createOperation transaction input world
  | .commit transaction => commitWriter transaction world
  | .rollback transaction => rollbackWriter transaction world
  | .pull entities limit => pullNow device entities limit world
  | .pullElsewhere tenantId dto =>
    if tenantId = device.tenantId ∧ dto.deviceId = device.deviceId then world
    else { world with db := Transaction.commit (Sync.pull (some tenantId) dto) world.db }

def returned : Nat :=
  match world.answers.getLast? with
  | some answer => (JsMap.get? answer.cursors .finance).getD 0
  | none => 0

def timesDelivered (operation : SyncOperationLog) : Nat :=
  (world.answers.flatMap (·.operations)).count operation

def NamesOnce (entities : Option (List String)) : Prop :=
  ((normalizeEntities entities).toOption.getD []).Nodup
deriving Decidable

def pageSize (limit : Option ℕ+) : Nat := (limit.map PNat.val).getD syncDefaultPullLimit

def waiting (device : Device) (world : World) : List SyncOperationLog :=
  pending device.tenantId .finance (returned world) world.db.syncOperationLogs

/-- A page of `size` rows reaches beyond `row`, which is not visible yet. -/
def Overtakes (device : Device) (world : World) (size : Nat) (row : SyncOperationLog) : Prop :=
  ((waiting device world).filter fun other => other.version < row.version).length < size ∧
    ∃ other ∈ waiting device world, row.version < other.version

def InOrder (device : Device) (world : World) : Event → Prop
  | .pull entities limit => NamesOnce entities ∧
      ∀ entry ∈ world.uncommitted, entry.2.tenantId = device.tenantId →
        ¬ Overtakes device world (pageSize limit) entry.2
  | _ => True

instance (device : Device) (world : World) : (event : Event) → Decidable (InOrder device world event)
  | .pull entities _ => inferInstanceAs (Decidable (NamesOnce entities ∧ ∀ entry ∈ world.uncommitted,
      entry.2.tenantId = device.tenantId → ¬ (_ ∧ ∃ other ∈ _, _)))
  | .createOperation .. | .commit _ | .rollback _ | .pullElsewhere .. => instDecidableTrue

structure Consistent (device : Device) (world : World) : Prop where
  below : ∀ row ∈ rows world, row.version < world.db.nextVersion
  distinct : ((rows world).map (·.version)).Nodup
  cursorBelow : returned world < world.db.nextVersion
  ahead : ∀ entry ∈ world.uncommitted, entry.2.tenantId = device.tenantId →
    returned world < entry.2.version
  stored : ∀ row ∈ world.db.syncCursors, row.tenantId = device.tenantId →
    row.deviceId = device.deviceId → row.lastVersion ≤ returned world
  answered : ∀ answer ∈ world.answers, ∃ cursor, answer.cursors = [(.finance, cursor)]
  delivered : ∀ row ∈ world.db.syncOperationLogs, row.tenantId = device.tenantId →
    timesDelivered world row = if row.version ≤ returned world then 1 else 0
  committed : ∀ row, timesDelivered world row ≠ 0 →
    row ∈ world.db.syncOperationLogs ∧ row.tenantId = device.tenantId

variable {world}

theorem consistent_fresh (device : Device) : Consistent device World.fresh := by
  constructor <;> simp [World.fresh, rows, returned, timesDelivered]

theorem createOperation_consistent {device : Device} (transaction : Nat)
    (input : CreateSyncOperationLogInput) (before : Consistent device world) :
    Consistent device (createOperation transaction input world) := by
  have later : ∀ row ∈ rows world, row.version < world.db.nextVersion + 1 :=
    fun row member => Nat.lt_succ_of_lt (before.below row member)
  unfold createOperation
  split
  · exact { before with below := later, cursorBelow := Nat.lt_succ_of_lt before.cursorBelow }
  · next fresh =>
    let row : SyncOperationLog :=
      ⟨input.opId, input.tenantId, input.deviceId, input.entity, input.payload, world.db.nextVersion⟩
    let waiting := world.uncommitted ++ [(transaction, row)]
    have grown : world.db.syncOperationLogs ++ waiting.map Prod.snd = rows world ++ [row] := by
      simp [rows, waiting]
    refine { before with
      below := ?_, distinct := ?_, ahead := ?_, cursorBelow := Nat.lt_succ_of_lt before.cursorBelow }
    · intro other member
      change other ∈ world.db.syncOperationLogs ++ waiting.map Prod.snd at member
      rw [grown, List.mem_append, List.mem_singleton] at member
      rcases member with old | rfl
      · exact later other old
      · exact Nat.lt_succ_self _
    · change ((world.db.syncOperationLogs ++ waiting.map Prod.snd).map (·.version)).Nodup
      rw [grown, List.map_append]
      refine List.nodup_append.mpr ⟨before.distinct, by simp, ?_⟩
      intro version old fresh new
      obtain ⟨other, member, rfl⟩ := List.mem_map.mp old
      rw [List.mem_singleton.mp new]
      exact Nat.ne_of_lt (before.below other member)
    · intro entry member own
      rcases List.mem_append.mp member with old | new
      · exact before.ahead entry old own
      · rw [List.mem_singleton.mp new]
        exact before.cursorBelow

theorem rows_commitWriter (transaction : Nat) (world : World) :
    (rows (commitWriter transaction world)).Perm (rows world) := by
  simp only [rows, commitWriter, List.append_assoc, ← List.map_append]
  refine List.Perm.append_left _ (List.Perm.map _ ?_)
  have split := List.filter_append_perm (fun entry => decide (entry.1 = transaction)) world.uncommitted
  simpa using split

theorem commitWriter_consistent {device : Device} (transaction : Nat)
    (before : Consistent device world) : Consistent device (commitWriter transaction world) := by
  have same := rows_commitWriter transaction world
  refine { before with
    below := fun row member => before.below row (same.mem_iff.mp member)
    distinct := (same.map _).nodup_iff.mpr before.distinct
    ahead := fun entry member => before.ahead entry (List.mem_of_mem_filter member)
    delivered := ?_, committed := ?_ }
  · intro row member own
    rcases List.mem_append.mp member with old | new
    · exact before.delivered row old own
    · obtain ⟨entry, waiting, rfl⟩ := List.mem_map.mp new
      have uncommitted := List.mem_of_mem_filter waiting
      have absent : entry.2 ∉ world.db.syncOperationLogs := by
        intro old
        have apart := (List.nodup_append.mp (by simpa [rows] using before.distinct)).2.2
        exact apart _ (List.mem_map_of_mem old) _ (List.mem_map.mpr ⟨entry, uncommitted, rfl⟩) rfl
      have none : timesDelivered world entry.2 = 0 := by
        by_contra some
        exact absent (before.committed entry.2 some).1
      have beyond := before.ahead entry uncommitted own
      change timesDelivered world entry.2 = if entry.2.version ≤ returned world then 1 else 0
      rw [none, if_neg (Nat.not_le.mpr beyond)]
  · intro row some
    have found := before.committed row some
    exact ⟨List.mem_append_left _ found.1, found.2⟩

theorem rollbackWriter_consistent {device : Device} (transaction : Nat)
    (before : Consistent device world) : Consistent device (rollbackWriter transaction world) := by
  have fewer : (rows (rollbackWriter transaction world)).Sublist (rows world) :=
    List.Sublist.append_left (List.filter_sublist.map _) _
  exact { before with
    below := fun row member => before.below row (fewer.subset member)
    distinct := before.distinct.sublist (fewer.map _)
    ahead := fun entry member => before.ahead entry (List.mem_of_mem_filter member) }

theorem namesOnce_finance {named : List SyncEntity}
    (once : NamesOnce entities) (normalized : normalizeEntities entities = .ok named) :
    named = [.finance] := by
  have distinct : named.Nodup := by simpa [NamesOnce, normalized, Except.toOption] using once
  have nonempty : named ≠ [] := by
    unfold normalizeEntities at normalized
    split at normalized
    · rw [← Except.ok.inj normalized]
      simp [syncSupportedEntities]
    · next first =>
      cases texts : entities.getD [] with
      | nil => exact absurd texts first
      | cons text rest =>
        simp only [texts, List.mapM_cons, Outcome.bind_ok, Outcome.pure_ok] at normalized
        obtain ⟨_, -, _, -, rfl⟩ := normalized
        simp
  rcases named with _ | ⟨⟨⟩, _ | ⟨⟨⟩, _⟩⟩
  · exact absurd rfl nonempty
  · rfl
  · simp at distinct

theorem lastCursors_finance {device : Device} (before : Consistent device world) :
    (∀ cursor ∈ (lastCursors world).getD [], cursor.lastVersion ≤ returned world) ∧
      ∃ cursorMap, toCursorMap ((lastCursors world).getD []) = .ok cursorMap ∧
        (cursorMap.get? .finance).getD 0 = returned world := by
  unfold lastCursors returned
  cases last : world.answers.getLast? with
  | none => exact ⟨by simp, [], rfl, rfl⟩
  | some answer =>
    obtain ⟨cursor, shape⟩ := before.answered answer (List.mem_of_getLast? last)
    simp only [Option.map_some, Option.getD_some, shape, List.map_cons, List.map_nil]
    exact ⟨by simp [JsMap.get?], [(.finance, max 0 cursor)], rfl, by simp [JsMap.get?]⟩

theorem stored_at_most {tenantId deviceId : String} {entities : List SyncEntity} {bound : Nat}
    (bounded : ∀ row ∈ stored, row.tenantId = tenantId → row.deviceId = deviceId → row.lastVersion ≤ bound)
    (entity : SyncEntity) : ((getCursorMap tenantId deviceId entities stored).get? entity).getD 0 ≤ bound := by
  unfold getCursorMap JsMap.ofEntries
  rw [JsMap.get?_foldl_set]
  split
  · next found last =>
    have member := List.mem_of_mem_filter (List.mem_of_getLast? last)
    simp only [List.mem_map, List.mem_filter, decide_eq_true_eq] at member
    obtain ⟨row, ⟨present, tenant, device, -⟩, rfl⟩ := member
    exact bounded row present tenant device
  · simp

def nextPage (device : Device) (world : World) (size : Nat) : SyncPullResult :=
  let operations := (waiting device world).take size
  { operations
    cursors := [(.finance, (operations.getLast?.map (·.version)).getD (returned world))]
    hasMore := decide (size < (waiting device world).length) }

theorem pullNow_cases {device : Device} (before : Consistent device world)
    (entities : Option (List String)) (limit : Option ℕ+) (once : NamesOnce entities) :
    pullNow device entities limit world = world ∨
      ∃ stored, (∀ row ∈ stored, row.tenantId = device.tenantId → row.deviceId = device.deviceId →
          row.lastVersion ≤ returned world) ∧
        pullNow device entities limit world =
          { world with
            db := { world.db with syncCursors := stored }
            answers := world.answers ++ [nextPage device world (pageSize limit)] } := by
  unfold pullNow
  split
  · next answer db succeeded =>
    right
    obtain ⟨tenant, named, cursorMap, known, acknowledged, normalized, provided, rfl⟩ := pull_ok succeeded
    obtain rfl : device.tenantId = tenant := Option.some.inj known
    obtain rfl := namesOnce_finance once normalized
    obtain ⟨sent, provided', same, cursor⟩ := lastCursors_finance before
    obtain rfl : provided' = cursorMap := Except.ok.inj (same.symm.trans provided)
    obtain ⟨version, logs, bounded⟩ := acknowledgeCursors_ok acknowledged before.stored (fun _ _ => sent)
    have effective : ((effectiveCursors [.finance]
        (getCursorMap device.tenantId device.deviceId [.finance] db.syncCursors) provided').get?
          .finance).getD 0 = returned world := by
      simp only [effectiveCursors, List.foldl_cons, List.foldl_nil, JsMap.get?_set, if_true,
        Option.getD_some, cursor]
      exact Nat.max_eq_right (stored_at_most bounded .finance)
    have answered := page_finance device.tenantId (effectiveCursors [.finance]
      (getCursorMap device.tenantId device.deviceId [.finance] db.syncCursors) provided')
      (pageSize limit) db.syncOperationLogs
    rw [effective] at answered
    obtain ⟨nextVersion, committed, stored⟩ := db
    obtain rfl : nextVersion = world.db.nextVersion := version
    obtain rfl : committed = world.db.syncOperationLogs := logs
    exact ⟨stored, bounded,
      congrArg (fun answer => { world with
        db := { world.db with syncCursors := stored }, answers := world.answers ++ [answer] }) answered⟩
  · exact .inl rfl

section Page

variable {device : Device} {world : World} (size : Nat) {row : SyncOperationLog}

def pageCursor (device : Device) (world : World) (size : Nat) : Nat :=
  (((waiting device world).take size).getLast?.map (·.version)).getD (returned world)

theorem waiting_ascending (before : Consistent device world) :
    (waiting device world).Pairwise fun left right => left.version < right.version := by
  refine pending_ascending device.tenantId .finance (returned world) ?_
  exact before.distinct.sublist ((List.sublist_append_left _ _).map _)

theorem mem_waiting :
    row ∈ waiting device world ↔
      row ∈ world.db.syncOperationLogs ∧ row.tenantId = device.tenantId ∧ returned world < row.version := by
  rw [waiting, mem_pending]
  cases row.entity
  simp

theorem pageCursor_cases (device : Device) (world : World) :
    (waiting device world).take size = [] ∧ pageCursor device world size = returned world ∨
      ∃ last ∈ (waiting device world).take size, pageCursor device world size = last.version ∧
        ((waiting device world).take size).getLast? = some last := by
  unfold pageCursor
  cases found : ((waiting device world).take size).getLast? with
  | none => exact .inl ⟨List.getLast?_eq_none_iff.mp found, rfl⟩
  | some last => exact .inr ⟨last, List.mem_of_getLast? found, rfl, rfl⟩

theorem returned_le_pageCursor : returned world ≤ pageCursor device world size := by
  rcases pageCursor_cases size device world with ⟨-, same⟩ | ⟨last, member, same, -⟩
  · exact same.ge
  · exact same ▸ (mem_waiting.mp (List.mem_of_mem_take member)).2.2.le

theorem mem_page (before : Consistent device world)
    (member : row ∈ waiting device world) :
    row ∈ (waiting device world).take size ↔ row.version ≤ pageCursor device world size := by
  have ascending := waiting_ascending before
  rw [← List.take_append_drop size (waiting device world), List.pairwise_append] at ascending
  obtain ⟨within, -, across⟩ := ascending
  constructor
  · intro taken
    rcases pageCursor_cases size device world with ⟨nothing, -⟩ | ⟨last, -, same, isLast⟩
    · simp [nothing] at taken
    · rw [same]
      obtain ⟨front, split⟩ := List.getLast?_eq_some_iff.mp isLast
      rw [split, List.pairwise_append] at within
      rw [split, List.mem_append, List.mem_singleton] at taken
      rcases taken with earlier | rfl
      · exact (within.2.2 row earlier last (by simp)).le
      · exact le_rfl
  · intro small
    by_contra absent
    have dropped : row ∈ (waiting device world).drop size := by
      rw [← List.take_append_drop size (waiting device world), List.mem_append] at member
      exact member.resolve_left absent
    rcases pageCursor_cases size device world with ⟨-, same⟩ | ⟨last, taken, same, -⟩
    · have beyond := (mem_waiting.mp member).2.2
      omega
    · have beyond := across last taken row dropped
      omega

theorem count_page (before : Consistent device world) (row : SyncOperationLog) :
    ((waiting device world).take size).count row =
      if row ∈ waiting device world ∧ row.version ≤ pageCursor device world size then 1 else 0 := by
  have distinct : ((waiting device world).take size).Nodup :=
    ((waiting_ascending before).imp fun less same => by simp [same] at less).sublist (List.take_sublist _ _)
  by_cases member : row ∈ (waiting device world).take size
  · have present := List.mem_of_mem_take member
    rw [if_pos ⟨present, (mem_page size before present).mp member⟩]
    exact List.count_eq_one_of_mem distinct member
  · rw [if_neg fun both => member ((mem_page size before both.1).mpr both.2)]
    exact List.count_eq_zero_of_not_mem member

theorem overtakes_of_passed (before : Consistent device world) {entry : Nat × SyncOperationLog}
    (uncommitted : entry ∈ world.uncommitted) (own : entry.2.tenantId = device.tenantId)
    (passed : entry.2.version ≤ pageCursor device world size) : Overtakes device world size entry.2 := by
  have beyond := before.ahead entry uncommitted own
  rcases pageCursor_cases size device world with ⟨-, same⟩ | ⟨last, taken, same, -⟩
  · omega
  have visible := List.mem_of_mem_take taken
  have unequal : last.version ≠ entry.2.version := by
    have apart := (List.nodup_append.mp (by simpa [rows] using before.distinct)).2.2
    exact apart _ (List.mem_map_of_mem (mem_waiting.mp visible).1) _
      (List.mem_map.mpr ⟨entry, uncommitted, rfl⟩)
  have above : entry.2.version < last.version := by omega
  refine ⟨?_, last, visible, above⟩
  have late : ∀ other ∈ (waiting device world).drop size, ¬ other.version < entry.2.version := by
    intro other dropped
    have ascending := waiting_ascending before
    rw [← List.take_append_drop size (waiting device world), List.pairwise_append] at ascending
    have order := ascending.2.2 last taken other dropped
    omega
  calc
    ((waiting device world).filter fun other => other.version < entry.2.version).length =
        (((waiting device world).take size).filter fun other => other.version < entry.2.version).length := by
      have none : ((waiting device world).drop size).filter
          (fun other => other.version < entry.2.version) = [] :=
        List.filter_eq_nil_iff.mpr (by simpa using late)
      conv_lhs => rw [← List.take_append_drop size (waiting device world), List.filter_append, none,
        List.append_nil]
    _ < ((waiting device world).take size).length :=
      List.length_filter_lt_length_iff_exists.mpr ⟨last, taken, by simpa using above.le⟩
    _ ≤ size := List.length_take_le _ _

end Page

theorem answered_consistent {device : Device} (before : Consistent device world) (size : Nat)
    (bounded : ∀ row ∈ stored, row.tenantId = device.tenantId → row.deviceId = device.deviceId →
      row.lastVersion ≤ returned world)
    (inOrder : ∀ entry ∈ world.uncommitted, entry.2.tenantId = device.tenantId →
      ¬ Overtakes device world size entry.2) :
    Consistent device { world with
      db := { world.db with syncCursors := stored }
      answers := world.answers ++ [nextPage device world size] } := by
  let after : World := { world with
    db := { world.db with syncCursors := stored }
    answers := world.answers ++ [nextPage device world size] }
  have cursor : returned after = pageCursor device world size := by
    simp [after, returned, nextPage, pageCursor, JsMap.get?]
  have times (row : SyncOperationLog) : timesDelivered after row =
      timesDelivered world row + ((waiting device world).take size).count row := by
    simp [after, timesDelivered, nextPage]
  have raised : returned world ≤ pageCursor device world size := returned_le_pageCursor size
  refine { before with
    cursorBelow := ?_, ahead := ?_, stored := ?_, answered := ?_, delivered := ?_, committed := ?_ }
  · change returned after < world.db.nextVersion
    rw [cursor]
    rcases pageCursor_cases size device world with ⟨-, same⟩ | ⟨last, taken, same, -⟩
    · exact same ▸ before.cursorBelow
    · exact same ▸ before.below last
        (List.mem_append_left _ (mem_waiting.mp (List.mem_of_mem_take taken)).1)
  · intro entry uncommitted own
    change returned after < entry.2.version
    by_contra passed
    rw [cursor, Nat.not_lt] at passed
    exact inOrder entry uncommitted own (overtakes_of_passed size before uncommitted own passed)
  · intro row member tenant owner
    change row.lastVersion ≤ returned after
    rw [cursor]
    exact (bounded row member tenant owner).trans raised
  · intro answer member
    rcases List.mem_append.mp member with old | new
    · exact before.answered answer old
    · exact ⟨pageCursor device world size, by rw [List.mem_singleton.mp new]; rfl⟩
  · intro row member own
    change timesDelivered after row = if row.version ≤ returned after then 1 else 0
    have present : row ∈ world.db.syncOperationLogs := member
    have visible : row ∈ waiting device world ↔ returned world < row.version := by
      simp [mem_waiting, present, own]
    rw [times, cursor, before.delivered row present own, count_page size before]
    by_cases earlier : row.version ≤ returned world
    · have within := earlier.trans raised
      simp [visible, earlier, within]
    · simp [visible, earlier, Nat.not_le.mp earlier]
  · intro row some
    change timesDelivered after row ≠ 0 at some
    change row ∈ world.db.syncOperationLogs ∧ row.tenantId = device.tenantId
    by_cases old : timesDelivered world row = 0
    · rw [times, old, count_page size before] at some
      by_cases new : row ∈ waiting device world ∧ row.version ≤ pageCursor device world size
      · have visible := mem_waiting.mp new.1
        exact ⟨visible.1, visible.2.1⟩
      · simp [new] at some
    · exact before.committed row old

theorem step_consistent (device : Device) (world : World) (event : Event)
    (before : Consistent device world) (inOrder : InOrder device world event) :
    Consistent device (step device world event) := by
  cases event with
  | createOperation transaction input => exact createOperation_consistent transaction input before
  | commit transaction => exact commitWriter_consistent transaction before
  | rollback transaction => exact rollbackWriter_consistent transaction before
  | pull entities limit =>
    change Consistent device (pullNow device entities limit world)
    rcases pullNow_cases before entities limit inOrder.1 with same | ⟨stored, bounded, same⟩
    · rw [same]
      exact before
    · rw [same]
      exact answered_consistent before (pageSize limit) bounded inOrder.2
  | pullElsewhere tenantId dto =>
    simp only [step]
    split
    · exact before
    · next elsewhere =>
      cases outcome : (pull (some tenantId) dto).run world.db with
      | error error => rw [commit_of_error outcome]; exact before
      | ok found =>
        obtain ⟨answer, after⟩ := found
        rw [commit_of_ok outcome]
        obtain ⟨tenant, _, _, known, acknowledged, -⟩ := pull_ok outcome
        obtain rfl : tenantId = tenant := Option.some.inj known
        obtain ⟨version, logs, bounded⟩ := acknowledgeCursors_ok acknowledged before.stored
          (fun tenant owner => absurd ⟨tenant, owner⟩ elsewhere)
        obtain ⟨nextVersion, committed, stored⟩ := after
        obtain rfl : nextVersion = world.db.nextVersion := version
        obtain rfl : committed = world.db.syncOperationLogs := logs
        exact { before with stored := bounded }

theorem run_consistent (device : Device) {events : List Event}
    (inOrder : Meets (step device) (InOrder device) World.fresh events) :
    Consistent device (run (step device) World.fresh events) :=
  meets_preserves (step_consistent device) (consistent_fresh device) inOrder

def Accepted (entities : Option (List String)) : Prop :=
  (∃ named, normalizeEntities entities = .ok named) ∧ NamesOnce entities

theorem pull_succeeds {device : Device} (before : Consistent device world) (limit : Option ℕ+) (accepted : Accepted entities) :
    ∃ answer db, (pull (some device.tenantId)
      ⟨device.deviceId, lastCursors world, entities, limit⟩).run world.db = .ok (answer, db) := by
  obtain ⟨named, normalized⟩ := accepted.1
  obtain ⟨-, cursorMap, provided, -⟩ := lastCursors_finance before
  have known : requireTenantId (some device.tenantId) = .ok device.tenantId :=
    if_neg device.tenantKnown
  have acknowledged : ∃ db, (acknowledgeCursors device.tenantId device.deviceId
      ((lastCursors world).getD [])).run world.db = .ok ((), db) := by
    unfold lastCursors
    cases last : world.answers.getLast? with
    | none => exact ⟨world.db, rfl⟩
    | some answer =>
      obtain ⟨cursor, shape⟩ := before.answered answer (List.mem_of_getLast? last)
      rw [Option.map_some, Option.getD_some, shape]
      exact ⟨_, rfl⟩
  obtain ⟨db, acknowledged⟩ := acknowledged
  simp only [pull, run_bind_ok, run_lift_ok, run_current_ok, run_pure_ok]
  exact ⟨_, _, _, _, ⟨known, rfl⟩, _, _, acknowledged, _, _, ⟨normalized, rfl⟩, _, _, ⟨rfl, rfl⟩,
    _, _, ⟨provided, rfl⟩, _, _, ⟨rfl, rfl⟩, rfl, rfl⟩

theorem pullNow_accepted {device : Device} (before : Consistent device world) (limit : Option ℕ+) (accepted : Accepted entities) :
    (pullNow device entities limit world).answers =
        world.answers ++ [nextPage device world (pageSize limit)] ∧
      (pullNow device entities limit world).uncommitted = world.uncommitted ∧
      (pullNow device entities limit world).db.syncOperationLogs = world.db.syncOperationLogs := by
  obtain ⟨answer, db, succeeded⟩ := pull_succeeds before limit accepted
  rcases pullNow_cases before entities limit accepted.2 with same | ⟨stored, -, same⟩
  · have longer : (pullNow device entities limit world).answers.length = world.answers.length + 1 := by
      simp [pullNow, succeeded]
    rw [same] at longer
    omega
  · rw [same]
    exact ⟨rfl, rfl, rfl⟩

theorem returned_pullNow {device : Device} (before : Consistent device world) (limit : Option ℕ+) (accepted : Accepted entities) :
    returned (pullNow device entities limit world) = pageCursor device world (pageSize limit) := by
  simp [returned, (pullNow_accepted before limit accepted).1, nextPage, pageCursor, JsMap.get?]

theorem pageSize_pos (limit : Option ℕ+) : 0 < pageSize limit := by
  cases limit with
  | none => simp [pageSize, syncDefaultPullLimit]
  | some limit => exact limit.pos

theorem mem_waiting_pullNow {device : Device} (before : Consistent device world) (limit : Option ℕ+) (accepted : Accepted entities)
    (row : SyncOperationLog) :
    row ∈ waiting device (pullNow device entities limit world) ↔
      row ∈ waiting device world ∧ row ∉ (waiting device world).take (pageSize limit) := by
  have raised : returned world ≤ pageCursor device world (pageSize limit) := returned_le_pageCursor _
  rw [mem_waiting, (pullNow_accepted before limit accepted).2.2, returned_pullNow before limit accepted]
  constructor
  · rintro ⟨present, own, beyond⟩
    have visible : row ∈ waiting device world := mem_waiting.mpr ⟨present, own, by omega⟩
    exact ⟨visible, fun taken => by have within := (mem_page _ before visible).mp taken; omega⟩
  · rintro ⟨visible, left⟩
    rw [mem_page _ before visible] at left
    exact ⟨(mem_waiting.mp visible).1, (mem_waiting.mp visible).2.1, by omega⟩

theorem waiting_pullNow_length {device : Device} (before : Consistent device world) (limit : Option ℕ+) (accepted : Accepted entities)
    (after : Consistent device (pullNow device entities limit world)) :
    (waiting device (pullNow device entities limit world)).length ≤
      (waiting device world).length - pageSize limit := by
  have distinct : (waiting device (pullNow device entities limit world)).Nodup :=
    (waiting_ascending after).imp fun less same => by simp [same] at less
  have dropped : waiting device (pullNow device entities limit world) ⊆
      (waiting device world).drop (pageSize limit) := by
    intro row member
    obtain ⟨visible, left⟩ := (mem_waiting_pullNow before limit accepted row).mp member
    rw [← List.take_append_drop (pageSize limit) (waiting device world), List.mem_append] at visible
    exact visible.resolve_left left
  have fewer := (List.subperm_of_subset distinct dropped).length_le
  rwa [List.length_drop] at fewer

theorem inOrder_of_quiet {device : Device} (quiet : world.uncommitted = []) (limit : Option ℕ+) (once : NamesOnce entities) :
    InOrder device world (.pull entities limit) := by
  refine ⟨once, ?_⟩
  simp [quiet]

theorem quiet_pulls_finish {device : Device} (requests : List (Option (List String) × Option ℕ+)) (before : Consistent device world) (quiet : world.uncommitted = [])
    (accepted : ∀ request ∈ requests, Accepted request.1)
    (enough : (waiting device world).length < requests.length) :
    ∃ answer, (run (step device) world (requests.map fun request => .pull request.1 request.2)).answers.getLast? =
      some answer ∧ answer.hasMore = false := by
  induction requests generalizing world with
  | nil => simp at enough
  | cons request requests ih =>
    obtain ⟨first, others⟩ := List.forall_mem_cons.mp accepted
    have answered := pullNow_accepted before request.2 first
    have after : Consistent device (pullNow device request.1 request.2 world) :=
      step_consistent device world (.pull request.1 request.2) before (inOrder_of_quiet quiet _ first.2)
    have fewer := waiting_pullNow_length before request.2 first after
    have positive := pageSize_pos request.2
    simp only [List.length_cons] at enough
    cases requests with
    | nil =>
      refine ⟨nextPage device world (pageSize request.2), ?_, ?_⟩
      · simp [step, answered.1]
      · simp only [List.length_nil] at enough
        simp only [nextPage, decide_eq_false_iff_not]
        omega
    | cons next requests =>
      refine ih after (answered.2.1.trans quiet) others ?_
      change (waiting device (pullNow device request.1 request.2 world)).length < _
      simp only [List.length_cons] at enough ⊢
      omega

theorem quiet_pull_delivers {device : Device} (before : Consistent device world)
    (quiet : world.uncommitted = []) (limit : Option ℕ+)
    (accepted : Accepted entities)
    (finished : (nextPage device world (pageSize limit)).hasMore = false) {operation : SyncOperationLog}
    (committed : operation ∈ (pullNow device entities limit world).db.syncOperationLogs)
    (own : operation.tenantId = device.tenantId) :
    timesDelivered (pullNow device entities limit world) operation = 1 := by
  have after : Consistent device (pullNow device entities limit world) :=
    step_consistent device world (.pull entities limit) before (inOrder_of_quiet quiet _ accepted.2)
  have within : operation.version ≤ returned (pullNow device entities limit world) := by
    by_contra beyond
    have left := (mem_waiting_pullNow before limit accepted operation).mp
      (mem_waiting.mpr ⟨committed, own, Nat.not_le.mp beyond⟩)
    simp only [nextPage, decide_eq_false_iff_not, Nat.not_lt] at finished
    rw [List.take_of_length_le finished] at left
    exact left.2 left.1
  rw [after.delivered operation committed own, if_pos within]

/-- In a run whose pulls name the entity once and overtake no uncommitted row, no operation is
delivered twice, and once the writers have stopped every pull that reports no more leaves each
operation delivered exactly once; enough pulls report so. -/
theorem pulls_deliver_exactly_once (device : Device) (events : List Event)
    (inOrder : Meets (step device) (InOrder device) World.fresh events) :
    (∀ operation, timesDelivered (run (step device) World.fresh events) operation ≤ 1) ∧
      ((run (step device) World.fresh events).uncommitted = [] →
        (∀ entities limit answer, Accepted entities →
          (run (step device) World.fresh (events ++ [.pull entities limit])).answers.getLast? = some answer →
          answer.hasMore = false →
          ∀ operation ∈ (run (step device) World.fresh (events ++ [.pull entities limit])).db.syncOperationLogs,
            operation.tenantId = device.tenantId →
            timesDelivered (run (step device) World.fresh (events ++ [.pull entities limit])) operation = 1) ∧
        ∀ requests : List (Option (List String) × Option ℕ+), (∀ request ∈ requests, Accepted request.1) →
          (waiting device (run (step device) World.fresh events)).length < requests.length →
          ∃ answer, (run (step device) World.fresh
            (events ++ requests.map fun request => .pull request.1 request.2)).answers.getLast? = some answer ∧
            answer.hasMore = false) := by
  have before := run_consistent device inOrder
  refine ⟨fun operation => ?_, fun quiet => ⟨?_, ?_⟩⟩
  · by_cases delivered : timesDelivered (run (step device) World.fresh events) operation = 0
    · omega
    · have found := before.committed operation delivered
      rw [before.delivered operation found.1 found.2]
      split <;> omega
  · intro entities limit answer accepted last finished operation committed own
    rw [run_append] at last committed ⊢
    have page : nextPage device (run (step device) World.fresh events) (pageSize limit) = answer := by
      simpa [step, (pullNow_accepted before limit accepted).1] using last
    exact quiet_pull_delivers before quiet limit accepted (page ▸ finished) committed own
  · intro requests accepted enough
    rw [run_append]
    exact quiet_pulls_finish requests before quiet accepted enough

section Runs

private def device : Device := ⟨"tenant-a", "phone", by decide⟩

private def insertA : Event := .createOperation 1 ⟨"op-a", "tenant-a", "server", .finance, .null⟩

private def insertB : Event := .createOperation 2 ⟨"op-b", "tenant-a", "server", .finance, .null⟩

private def operationA : SyncOperationLog := ⟨"op-a", "tenant-a", "server", .finance, .null, 1⟩

theorem pulls_deliver_in_commit_order :
    (run (step device) World.fresh [insertA, insertB, .commit 1, .pull none none, .commit 2]).uncommitted = [] ∧
      timesDelivered (run (step device) World.fresh
        ([insertA, insertB, .commit 1, .pull none none, .commit 2] ++ [.pull none (some 1)])) operationA = 1 := by
  have delivered := pulls_deliver_exactly_once device
    [insertA, insertB, .commit 1, .pull none none, .commit 2] (by decide)
  refine ⟨by decide, ?_⟩
  exact (delivered.2 (by decide)).1 none (some 1) _ ⟨⟨_, rfl⟩, by decide⟩ rfl (by decide) operationA
    (by decide) (by decide)

/-- The later version commits first: the earlier one falls behind the cursor and is never sent. -/
theorem pull_loses_operation_committed_late :
    let world := run (step device) World.fresh
      [insertA, insertB, .commit 2, .pull none none, .commit 1, .pull none none]
    world.uncommitted = [] ∧ (world.answers.getLast?.map (·.hasMore)) = some false ∧
      operationA ∈ world.db.syncOperationLogs ∧ timesDelivered world operationA = 0 := by
  decide

end Runs

end ShuleHub.Sync
