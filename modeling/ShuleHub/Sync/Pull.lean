import ShuleHub.Exceptions
import ShuleHub.Lib.Json
import ShuleHub.Lib.JsMap
import ShuleHub.Lib.Transaction
import Mathlib.Data.PNat.Basic

namespace ShuleHub.Sync

open Transaction

variable {tenantId deviceId owner ownerDevice : String} {bound : Nat}

inductive SyncEntity where
  | finance
deriving DecidableEq

def SyncEntity.text : SyncEntity → String
  | .finance => "finance"

def syncSupportedEntities : List SyncEntity := [.finance]

def syncDefaultPullLimit : Nat := 200

structure SyncOperationLog where
  opId : String
  tenantId : String
  deviceId : String
  entity : SyncEntity
  payload : Json
  version : Nat
deriving DecidableEq

variable {rows : List SyncOperationLog}

structure SyncCursorState where
  tenantId : String
  deviceId : String
  entity : SyncEntity
  lastVersion : Nat

/-- What committed transactions have left, with the next value of the identity column `version`. -/
structure SyncDb where
  nextVersion : Nat
  syncOperationLogs : List SyncOperationLog
  syncCursors : List SyncCursorState

variable {db after : SyncDb}

structure SyncCursorDto where
  entity : String
  lastVersion : Nat

structure SyncPullDto where
  deviceId : String
  cursors : Option (List SyncCursorDto)
  entities : Option (List String)
  limit : Option ℕ+

structure SyncPullResult where
  operations : List SyncOperationLog
  cursors : List (SyncEntity × Nat)
  hasMore : Bool
deriving DecidableEq

def ensureSupportedEntity (entity : String) : Except Exception SyncEntity :=
  match syncSupportedEntities.find? (fun supported => supported.text = entity) with
  | some supported => .ok supported
  | none => .error (.badRequest ("Unsupported sync entity \"" ++ entity ++ "\""))

def requireTenantId (tenantId : Option String) : Except Exception String :=
  match tenantId with
  | some tenantId =>
    if tenantId = "" then .error (.unauthorized "Tenant context is required for sync operations")
    else .ok tenantId
  | none => .error (.unauthorized "Tenant context is required for sync operations")

@[grind =] def upsertCursor (tenantId deviceId : String) (entity : SyncEntity) (lastVersion : Nat) :
    List SyncCursorState → List SyncCursorState
  | [] => [⟨tenantId, deviceId, entity, lastVersion⟩]
  | row :: rows =>
    if row.tenantId = tenantId ∧ row.deviceId = deviceId ∧ row.entity = entity then
      { row with lastVersion := max row.lastVersion lastVersion } :: rows
    else row :: upsertCursor tenantId deviceId entity lastVersion rows

def getCursorMap (tenantId deviceId : String) (entities : List SyncEntity)
    (rows : List SyncCursorState) : JsMap SyncEntity Nat :=
  JsMap.ofEntries ((rows.filter fun row =>
    row.tenantId = tenantId ∧ row.deviceId = deviceId ∧ row.entity ∈ entities).map fun row =>
      (row.entity, row.lastVersion))

def fetchByEntitySinceVersion (tenantId : String) (entity : SyncEntity) (afterVersion limit : Nat)
    (rows : List SyncOperationLog) : List SyncOperationLog :=
  ((rows.filter fun row => row.tenantId = tenantId ∧ row.entity = entity ∧ afterVersion < row.version)
    |>.insertionSort fun left right => left.version ≤ right.version).take limit

@[grind =] def acknowledgeCursors (tenantId deviceId : String) :
    List SyncCursorDto → Transaction SyncDb Exception Unit
  | [] => pure ()
  | cursor :: cursors => do
    let entity ← ensureSupportedEntity cursor.entity
    write fun db =>
      { db with syncCursors := upsertCursor tenantId deviceId entity cursor.lastVersion db.syncCursors }
    acknowledgeCursors tenantId deviceId cursors

def normalizeEntities (entities : Option (List String)) : Except Exception (List SyncEntity) :=
  match entities.getD [] with
  | [] => .ok syncSupportedEntities
  | entities => entities.mapM ensureSupportedEntity

def toCursorMap (cursors : List SyncCursorDto) : Except Exception (JsMap SyncEntity Nat) :=
  cursors.foldlM (fun cursorMap cursor => do
    let entity ← ensureSupportedEntity cursor.entity
    return cursorMap.set entity (max ((cursorMap.get? entity).getD 0) cursor.lastVersion)) []

def effectiveCursors (entities : List SyncEntity)
    (storedCursorMap providedCursorMap : JsMap SyncEntity Nat) : JsMap SyncEntity Nat :=
  entities.foldl (fun cursorMap entity =>
    cursorMap.set entity
      (max ((storedCursorMap.get? entity).getD 0) ((providedCursorMap.get? entity).getD 0))) []

def page (tenantId : String) (entities : List SyncEntity) (effectiveCursorMap : JsMap SyncEntity Nat)
    (limit : Nat) (rows : List SyncOperationLog) : SyncPullResult :=
  let operationSets := entities.map fun entity =>
    fetchByEntitySinceVersion tenantId entity ((effectiveCursorMap.get? entity).getD 0) (limit + 1) rows
  let mergedOperations := operationSets.flatten.insertionSort fun left right => left.version ≤ right.version
  let hasMore := mergedOperations.length > limit || operationSets.any fun operationSet =>
    operationSet.length > limit
  let operations := mergedOperations.take limit
  let nextCursorMap := operations.foldl (fun cursorMap operation =>
    cursorMap.set operation.entity operation.version) effectiveCursorMap
  { operations
    cursors := entities.map fun entity => (entity, (nextCursorMap.get? entity).getD 0)
    hasMore }

def pull (tenantId : Option String) (dto : SyncPullDto) : Transaction SyncDb Exception SyncPullResult := do
  let tenantId ← requireTenantId tenantId
  acknowledgeCursors tenantId dto.deviceId (dto.cursors.getD [])
  let entities ← normalizeEntities dto.entities
  let storedCursorMap := getCursorMap tenantId dto.deviceId entities (← current).syncCursors
  let providedCursorMap ← toCursorMap (dto.cursors.getD [])
  let limit := (dto.limit.map PNat.val).getD syncDefaultPullLimit
  return page tenantId entities (effectiveCursors entities storedCursorMap providedCursorMap) limit
    (← current).syncOperationLogs

theorem upsertCursor_bounded (entity : SyncEntity)
    {lastVersion : Nat} {rows : List SyncCursorState}
    (before : ∀ row ∈ rows, row.tenantId = owner → row.deviceId = ownerDevice → row.lastVersion ≤ bound)
    (sent : tenantId = owner → deviceId = ownerDevice → lastVersion ≤ bound) :
    ∀ row ∈ upsertCursor tenantId deviceId entity lastVersion rows,
      row.tenantId = owner → row.deviceId = ownerDevice → row.lastVersion ≤ bound := by
  induction rows with
  | nil => simpa [upsertCursor] using sent
  | cons head rows ih =>
    simp only [List.forall_mem_cons] at before
    unfold upsertCursor
    split
    · next same =>
      simp only [List.forall_mem_cons]
      refine ⟨fun tenant device => ?_, before.2⟩
      exact max_le (before.1 tenant device) (sent (same.1.symm.trans tenant) (same.2.1.symm.trans device))
    · simp only [List.forall_mem_cons]
      exact ⟨before.1, ih before.2⟩

theorem acknowledgeCursors_ok
    {cursors : List SyncCursorDto}
    (succeeded : (acknowledgeCursors tenantId deviceId cursors).run db = .ok ((), after))
    (before : ∀ row ∈ db.syncCursors,
      row.tenantId = owner → row.deviceId = ownerDevice → row.lastVersion ≤ bound)
    (sent : tenantId = owner → deviceId = ownerDevice → ∀ cursor ∈ cursors, cursor.lastVersion ≤ bound) :
    after.nextVersion = db.nextVersion ∧ after.syncOperationLogs = db.syncOperationLogs ∧
      ∀ row ∈ after.syncCursors,
        row.tenantId = owner → row.deviceId = ownerDevice → row.lastVersion ≤ bound := by
  induction cursors generalizing db with
  | nil =>
    simp only [acknowledgeCursors, run_pure_ok, true_and] at succeeded
    subst succeeded
    exact ⟨rfl, rfl, before⟩
  | cons cursor cursors ih =>
    simp only [acknowledgeCursors, run_bind_ok, run_lift_ok, run_write_ok] at succeeded
    obtain ⟨entity, middle, ⟨-, rfl⟩, -, middle, rfl, rest⟩ := succeeded
    have raised := upsertCursor_bounded entity before
      (fun tenant device => sent tenant device cursor List.mem_cons_self)
    have kept := ih rest raised (fun tenant device other member =>
      sent tenant device other (List.mem_cons_of_mem _ member))
    exact kept

theorem pull_ok {tenantId : Option String} {dto : SyncPullDto} {result : SyncPullResult}
    (succeeded : (pull tenantId dto).run db = .ok (result, after)) :
    ∃ tenant entities providedCursorMap, tenantId = some tenant ∧
      (acknowledgeCursors tenant dto.deviceId (dto.cursors.getD [])).run db = .ok ((), after) ∧
      normalizeEntities dto.entities = .ok entities ∧
      toCursorMap (dto.cursors.getD []) = .ok providedCursorMap ∧
      result = page tenant entities
        (effectiveCursors entities (getCursorMap tenant dto.deviceId entities after.syncCursors)
          providedCursorMap)
        ((dto.limit.map PNat.val).getD syncDefaultPullLimit) after.syncOperationLogs := by
  simp only [pull, run_bind_ok, run_lift_ok, run_current_ok, run_pure_ok] at succeeded
  obtain ⟨tenant, _, ⟨known, rfl⟩, _, _, acknowledged, entities, _, ⟨named, rfl⟩, _, _, ⟨rfl, rfl⟩,
    providedCursorMap, _, ⟨provided, rfl⟩, _, _, ⟨rfl, rfl⟩, rfl, rfl⟩ := succeeded
  refine ⟨tenant, entities, providedCursorMap, ?_, acknowledged, named, provided, rfl⟩
  cases tenantId with
  | none => simp [requireTenantId] at known
  | some found =>
    simp only [requireTenantId] at known
    split at known <;> simp_all

def pending (tenantId : String) (entity : SyncEntity) (cursor : Nat) (rows : List SyncOperationLog) :
    List SyncOperationLog :=
  (rows.filter fun row => row.tenantId = tenantId ∧ row.entity = entity ∧ cursor < row.version)
    |>.insertionSort fun left right => left.version ≤ right.version

theorem mem_pending {entity : SyncEntity} {cursor : Nat} {row : SyncOperationLog} :
    row ∈ pending tenantId entity cursor rows ↔
      row ∈ rows ∧ row.tenantId = tenantId ∧ row.entity = entity ∧ cursor < row.version := by
  simp [pending]

theorem pending_ascending (tenantId : String) (entity : SyncEntity) (cursor : Nat) (distinct : (rows.map (·.version)).Nodup) :
    (pending tenantId entity cursor rows).Pairwise fun left right => left.version < right.version := by
  have sorted := List.pairwise_insertionSort
    (fun left right : SyncOperationLog => left.version ≤ right.version)
    (rows.filter fun row => row.tenantId = tenantId ∧ row.entity = entity ∧ cursor < row.version)
  have unequal : (pending tenantId entity cursor rows).Pairwise fun left right =>
      left.version ≠ right.version := by
    rw [← List.pairwise_map]
    refine (((List.perm_insertionSort _ _).map _).nodup_iff).mpr ?_
    exact distinct.sublist (List.filter_sublist.map _)
  exact (sorted.and unequal).imp fun both => lt_of_le_of_ne both.1 both.2

theorem page_finance (tenantId : String) (cursorMap : JsMap SyncEntity Nat) (limit : Nat)
    (rows : List SyncOperationLog) :
    page tenantId [.finance] cursorMap limit rows =
      let cursor := (cursorMap.get? .finance).getD 0
      let operations := (pending tenantId .finance cursor rows).take limit
      { operations
        cursors := [(.finance, (operations.getLast?.map (·.version)).getD cursor)]
        hasMore := decide (limit < (pending tenantId .finance cursor rows).length) } := by
  have ordered : ((pending tenantId .finance ((cursorMap.get? .finance).getD 0) rows).take (limit + 1)).Pairwise
      fun left right => left.version ≤ right.version :=
    (List.pairwise_insertionSort _ _).sublist (List.take_sublist _ _)
  have next (operations : List SyncOperationLog) :
      ((operations.foldl (fun map operation => map.set operation.entity operation.version) cursorMap).get?
        .finance).getD 0 =
        (operations.getLast?.map (·.version)).getD ((cursorMap.get? .finance).getD 0) := by
    have all : operations.filter (fun operation => operation.entity = .finance) = operations :=
      List.filter_eq_self.mpr (by simp)
    rw [JsMap.get?_foldl_set, all]
    cases operations.getLast? <;> rfl
  have fetched : fetchByEntitySinceVersion tenantId .finance ((cursorMap.get? .finance).getD 0) (limit + 1) rows =
      (pending tenantId .finance ((cursorMap.get? .finance).getD 0) rows).take (limit + 1) := rfl
  simp only [page, List.map_cons, List.map_nil, List.flatten_cons, List.flatten_nil, List.append_nil,
    List.any_cons, List.any_nil, next, fetched, ordered.insertionSort_eq, List.take_take, List.length_take,
    Nat.min_eq_left (Nat.le_succ limit), Bool.or_false, Bool.or_self]
  congr 1
  exact decide_eq_decide.mpr (by omega)

end ShuleHub.Sync
