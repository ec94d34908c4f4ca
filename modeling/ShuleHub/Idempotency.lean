import Mathlib.Data.List.Nodup
import Mathlib.Tactic.SplitIfs
import ShuleHub.Exceptions
import ShuleHub.Lib.Transaction

/-! The `idempotency_keys` rows of one tenant. The finance and the payment services keep theirs under
different scopes, with different response bodies. -/

namespace ShuleHub

inductive IdempotencyStatus where
  | inProgress
  | completed
  | failed
  | expired
deriving DecidableEq

structure IdempotencyRecord (Body : Type) where
  id : String
  userId : Option String
  scope : String
  idempotencyKey : String
  requestMethod : String
  requestPath : String
  requestHash : String
  status : IdempotencyStatus
  responseStatusCode : Option Nat
  responseBody : Option Body
  lockedAt : Option Int
  completedAt : Option Int
  expiresAt : Int
deriving DecidableEq

structure IdempotencyRequestLock where
  userId : Option String
  scope : String
  idempotencyKey : String
  requestHash : String
  requestMethod : String
  requestPath : String
  ttlSeconds : Nat

namespace Idempotency

open Transaction

variable {Body : Type}

variable {records : List (IdempotencyRecord Body)} (now : Int)
  (newId : String) (input : IdempotencyRequestLock) (record : IdempotencyRecord Body) (id : String)

def IsFor (scope idempotencyKey : String) (record : IdempotencyRecord Body) : Prop :=
  record.scope = scope ∧ record.idempotencyKey = idempotencyKey
deriving Decidable

def updateById (update : IdempotencyRecord Body → IdempotencyRecord Body)
    (records : List (IdempotencyRecord Body)) : List (IdempotencyRecord Body) :=
  records.map fun record => if record.id = id then update record else record

def freshRecord (input : IdempotencyRequestLock) : IdempotencyRecord Body where
  id
  userId := input.userId
  scope := input.scope
  idempotencyKey := input.idempotencyKey
  requestMethod := input.requestMethod
  requestPath := input.requestPath
  requestHash := input.requestHash
  status := .inProgress
  responseStatusCode := none
  responseBody := none
  lockedAt := some now
  completedAt := none
  expiresAt := now + input.ttlSeconds * 1000

def resetExpired :
    IdempotencyRecord Body :=
  { record with
    userId := input.userId
    requestMethod := input.requestMethod
    requestPath := input.requestPath
    requestHash := input.requestHash
    status := .inProgress
    responseStatusCode := none
    responseBody := none
    lockedAt := some now
    completedAt := none
    expiresAt := now + input.ttlSeconds * 1000 }

def relock :
    IdempotencyRecord Body :=
  { record with
    userId := input.userId
    requestMethod := input.requestMethod
    requestPath := input.requestPath
    requestHash := input.requestHash
    status := .inProgress
    lockedAt := some now
    expiresAt := now + input.ttlSeconds * 1000 }

def insertRequest :
    Transaction (List (IdempotencyRecord Body)) Exception Unit := do
  let records ← current
  if ∃ record ∈ records, IsFor input.scope input.idempotencyKey record then
    return ()
  else
    failIf (∃ record ∈ records, record.id = newId) (.database "idempotency_keys_pkey")
    write fun records => records ++ [freshRecord now newId input]

def lockRequest :
    Transaction (List (IdempotencyRecord Body)) Exception (IdempotencyRecord Body) := do
  insertRequest now newId input
  let records ← current
  match records.find? (fun record => IsFor input.scope input.idempotencyKey record) with
  | none => fail (.conflict "Unable to lock idempotency key")
  | some record =>
    if record.expiresAt ≤ now then
      write (updateById record.id (resetExpired now input))
      return resetExpired now input record
    else
      failIf (record.requestHash ≠ input.requestHash)
        (.conflict "Idempotency key has already been used with a different request payload")
      if record.status = .completed then
        return record
      else
        write (updateById record.id (relock now input))
        return relock now input record

def complete (responseStatusCode : Nat) (responseBody : Body) (record : IdempotencyRecord Body) :
    IdempotencyRecord Body :=
  { record with
    status := .completed
    responseStatusCode := some responseStatusCode
    responseBody := some responseBody
    completedAt := some now }

def markCompleted (responseStatusCode : Nat) (responseBody : Body) :
    Transaction (List (IdempotencyRecord Body)) Exception Unit :=
  write (updateById id (complete now responseStatusCode responseBody))

def recordFor (scope idempotencyKey : String) (records : List (IdempotencyRecord Body)) :
    Option (IdempotencyRecord Body) :=
  records.find? fun record => IsFor scope idempotencyKey record

/-- What `lockRequest` answers when it finds `found`, where `taken` says that the new id is in use. -/
def lockAnswer
    (found : Option (IdempotencyRecord Body)) (taken : Prop) [Decidable taken] :
    Except Exception (IdempotencyRecord Body) :=
  match found with
  | none => if taken then .error (.database "idempotency_keys_pkey") else .ok (freshRecord now newId input)
  | some record =>
    if record.expiresAt ≤ now then .ok (resetExpired now input record)
    else if record.requestHash ≠ input.requestHash then
      .error (.conflict "Idempotency key has already been used with a different request payload")
    else if record.status = .completed then .ok record
    else .ok (relock now input record)

theorem recordFor_isFor {scope idempotencyKey : String}
    {record : IdempotencyRecord Body} (found : recordFor scope idempotencyKey records = some record) :
    record ∈ records ∧ IsFor scope idempotencyKey record :=
  ⟨List.mem_of_find?_eq_some found, by simpa using List.find?_some found⟩

theorem insertRequest_run (now : Int) (newId : String) (input : IdempotencyRequestLock)
    (records : List (IdempotencyRecord Body)) :
    (insertRequest now newId input).run records =
      match recordFor input.scope input.idempotencyKey records with
      | some _ => .ok ((), records)
      | none =>
        if ∃ record ∈ records, record.id = newId then .error (.database "idempotency_keys_pkey")
        else .ok ((), records ++ [freshRecord now newId input]) := by
  unfold insertRequest
  rw [run_bind, run_current]
  cases found : recordFor input.scope input.idempotencyKey records with
  | some record =>
    have present := recordFor_isFor found
    simp only
    rw [if_pos ⟨record, present⟩]
    rfl
  | none =>
    have absent : ¬ ∃ record ∈ records, IsFor input.scope input.idempotencyKey record := by
      simpa [recordFor] using found
    simp only
    rw [if_neg absent, run_bind, run_failIf]
    by_cases taken : ∃ record ∈ records, record.id = newId
    · simp only [if_pos taken]
    · simp only [if_neg taken]
      rfl

theorem updateById_append_fresh (update : IdempotencyRecord Body → IdempotencyRecord Body) (fresh : IdempotencyRecord Body)
    (unused : ¬ ∃ record ∈ records, record.id = fresh.id) :
    updateById fresh.id update (records ++ [fresh]) = records ++ [update fresh] := by
  have others : records.map (fun record => if record.id = fresh.id then update record else record) = records := by
    refine (List.map_congr_left fun record member => ?_).trans (List.map_id _)
    exact if_neg fun equal => unused ⟨record, member, equal⟩
  simp [updateById, others]

theorem lockRequest_run (now : Int) (newId : String) (input : IdempotencyRequestLock)
    (records : List (IdempotencyRecord Body)) :
    (lockRequest now newId input).run records =
      match recordFor input.scope input.idempotencyKey records with
      | none =>
        if ∃ record ∈ records, record.id = newId then .error (.database "idempotency_keys_pkey")
        else .ok (freshRecord now newId input, records ++ [freshRecord now newId input])
      | some record =>
        if record.expiresAt ≤ now then
          .ok (resetExpired now input record, updateById record.id (resetExpired now input) records)
        else if record.requestHash ≠ input.requestHash then
          .error (.conflict "Idempotency key has already been used with a different request payload")
        else if record.status = .completed then .ok (record, records)
        else .ok (relock now input record, updateById record.id (relock now input) records) := by
  unfold lockRequest
  rw [run_bind, insertRequest_run]
  cases found : recordFor input.scope input.idempotencyKey records with
  | some record =>
    unfold recordFor at found
    simp only [run_bind, run_current, found]
    by_cases expired : record.expiresAt ≤ now
    · simp only [if_pos expired]
      rfl
    · simp only [if_neg expired, run_bind, run_failIf]
      by_cases differs : record.requestHash ≠ input.requestHash
      · simp only [if_pos differs]
      · simp only [if_neg differs]
        by_cases completed : record.status = .completed
        · simp only [if_pos completed]
          rfl
        · simp only [if_neg completed]
          rfl
  | none =>
    by_cases taken : ∃ record ∈ records, record.id = newId
    · simp only [if_pos taken]
    · have own : IsFor input.scope input.idempotencyKey (freshRecord now newId input : IdempotencyRecord Body) := ⟨rfl, rfl⟩
      have read : (records ++ [freshRecord now newId input]).find?
          (fun record => IsFor input.scope input.idempotencyKey record) = some (freshRecord now newId input) := by
        unfold recordFor at found
        rw [List.find?_append, found]
        simp [own]
      have reset := updateById_append_fresh (resetExpired now input) (freshRecord now newId input) taken
      have locked := updateById_append_fresh (relock now input) (freshRecord now newId input) taken
      simp only [if_neg taken, run_bind, run_current, read]
      by_cases expired : (freshRecord now newId input : IdempotencyRecord Body).expiresAt ≤ now
      · simp only [if_pos expired]
        exact congrArg (fun rows => Except.ok (freshRecord now newId input, rows)) reset
      · have same : ¬ (freshRecord now newId input : IdempotencyRecord Body).requestHash ≠ input.requestHash :=
          fun differs => differs rfl
        have unfinished : ¬ (freshRecord now newId input : IdempotencyRecord Body).status = .completed := nofun
        simp only [if_neg expired, run_bind, run_failIf, if_neg same, if_neg unfinished]
        exact congrArg (fun rows => Except.ok (freshRecord now newId input, rows)) locked

theorem lockRequest_answer (now : Int) (newId : String) (input : IdempotencyRequestLock)
    (records : List (IdempotencyRecord Body)) :
    ((lockRequest now newId input).run records).map Prod.fst =
      lockAnswer now newId input (recordFor input.scope input.idempotencyKey records)
        (∃ record ∈ records, record.id = newId) := by
  rw [lockRequest_run]
  cases recordFor input.scope input.idempotencyKey records with
  | none =>
    by_cases taken : ∃ record ∈ records, record.id = newId
    · simp only [lockAnswer, if_pos taken, Except.map]
    · simp only [lockAnswer, if_neg taken, Except.map]
  | some record =>
    simp only [lockAnswer]
    split_ifs <;> rfl

theorem lockAnswer_congr {now : Int} {newId : String} {input : IdempotencyRequestLock}
    {found : Option (IdempotencyRecord Body)} {first second : Prop} [Decidable first] [Decidable second]
    (same : first ↔ second) :
    lockAnswer now newId input found first = lockAnswer now newId input found second := by
  cases found with
  | none => simp only [lockAnswer, same]
  | some record => rfl

def putRecord (records : List (IdempotencyRecord Body)) :
    List (IdempotencyRecord Body) :=
  if ∃ other ∈ records, other.id = record.id then updateById record.id (fun _ => record) records
  else records ++ [record]

section Rows

variable {records : List (IdempotencyRecord Body)}

variable {id newId scope idempotencyKey : String} {record fresh stored : IdempotencyRecord Body} {now : Int}
  {input : IdempotencyRequestLock} {after : List (IdempotencyRecord Body)}

theorem updateById_ids {update : IdempotencyRecord Body → IdempotencyRecord Body}
    (kept : ∀ record, (update record).id = record.id) :
    (updateById id update records).map (·.id) = records.map (·.id) := by
  rw [updateById, List.map_map]
  refine List.map_congr_left fun record _ => ?_
  simp only [Function.comp_apply]
  split
  · exact kept record
  · rfl

theorem updateById_congr {first second : IdempotencyRecord Body → IdempotencyRecord Body}
    (same : ∀ record ∈ records, record.id = id → first record = second record) :
    updateById id first records = updateById id second records := by
  refine List.map_congr_left fun record member => ?_
  by_cases known : record.id = id
  · rw [if_pos known, if_pos known, same record member known]
  · rw [if_neg known, if_neg known]

theorem updateById_const (distinct : (records.map (·.id)).Nodup)
    (present : record ∈ records) (update : IdempotencyRecord Body → IdempotencyRecord Body)
    (kept : (update record).id = record.id) :
    updateById record.id update records = putRecord (update record) records := by
  rw [putRecord, if_pos ⟨record, present, kept.symm⟩, kept]
  refine updateById_congr fun other member same => ?_
  rw [List.inj_on_of_nodup_map distinct member present same]

theorem lockRequest_put
    (distinct : (records.map (·.id)).Nodup)
    (locked : (lockRequest now newId input).run records = .ok (record, after)) :
    after = putRecord record records := by
  rw [lockRequest_run] at locked
  cases found : recordFor input.scope input.idempotencyKey records with
  | none =>
    simp only [found] at locked
    split at locked
    · cases locked
    · next unused =>
      cases locked
      exact (if_neg unused).symm
  | some stored =>
    have present := (recordFor_isFor found).1
    simp only [found] at locked
    split_ifs at locked
    · cases locked
      exact updateById_const distinct present _ rfl
    · cases locked
      have same := updateById_const distinct present id rfl
      simpa [updateById] using same
    · cases locked
      exact updateById_const distinct present _ rfl

theorem recordFor_append_other
    (other : ¬ IsFor scope idempotencyKey fresh) :
    recordFor scope idempotencyKey (records ++ [fresh]) = recordFor scope idempotencyKey records := by
  unfold recordFor
  rw [List.find?_append]
  simp [other]

theorem recordFor_append_found
    (found : recordFor scope idempotencyKey records = some record) (last : List (IdempotencyRecord Body)) :
    recordFor scope idempotencyKey (records ++ last) = some record := by
  unfold recordFor at found ⊢
  rw [List.find?_append, found]
  rfl

theorem recordFor_append_own
    (absent : recordFor scope idempotencyKey records = none) (own : IsFor scope idempotencyKey fresh) :
    recordFor scope idempotencyKey (records ++ [fresh]) = some fresh := by
  unfold recordFor at absent ⊢
  rw [List.find?_append, absent]
  simp [own]

theorem recordFor_updateById
    {update : IdempotencyRecord Body → IdempotencyRecord Body}
    (kept : ∀ record, IsFor scope idempotencyKey (update record) ↔ IsFor scope idempotencyKey record)
    (other : ∀ record ∈ records, record.id = id → ¬ IsFor scope idempotencyKey record) :
    recordFor scope idempotencyKey (updateById id update records) = recordFor scope idempotencyKey records := by
  unfold recordFor updateById
  induction records with
  | nil => rfl
  | cons record records ih =>
    obtain ⟨head, tail⟩ := List.forall_mem_cons.mp other
    rw [List.map_cons]
    by_cases known : record.id = id
    · have differs := head known
      rw [if_pos known, List.find?_cons_of_neg (by simpa [kept] using differs),
        List.find?_cons_of_neg (by simpa using differs)]
      exact ih tail
    · rw [if_neg known, List.find?_cons, List.find?_cons, ih tail]

/-- Every key but `idempotencyKey` is answered as before and every id but `id` is as used as before. -/
structure OthersKept (scope idempotencyKey id : String) (records after : List (IdempotencyRecord Body)) :
    Prop where
  answers : ∀ other, other ≠ idempotencyKey → recordFor scope other after = recordFor scope other records
  ids : ∀ other, other ≠ id → ((∃ record ∈ after, record.id = other) ↔ ∃ record ∈ records, record.id = other)
  distinct : (after.map (·.id)).Nodup

namespace OthersKept

variable {scope idempotencyKey id : String} {after last : List (IdempotencyRecord Body)}

theorem refl (distinct : (records.map (·.id)).Nodup) : OthersKept scope idempotencyKey id records records :=
  ⟨fun _ _ => rfl, fun _ _ => Iff.rfl, distinct⟩

theorem trans (first : OthersKept scope idempotencyKey id records after)
    (second : OthersKept scope idempotencyKey id after last) : OthersKept scope idempotencyKey id records last where
  answers other differs := (second.answers other differs).trans (first.answers other differs)
  ids other differs := (second.ids other differs).trans (first.ids other differs)
  distinct := second.distinct

theorem append (fresh : IdempotencyRecord Body) (distinct : (records.map (·.id)).Nodup)
    (unused : ¬ ∃ record ∈ records, record.id = fresh.id) (own : fresh.idempotencyKey = idempotencyKey) :
    OthersKept scope idempotencyKey fresh.id records (records ++ [fresh]) := by
  constructor
  · intro other differs
    apply recordFor_append_other
    intro isFor
    exact differs (isFor.2.symm.trans own)
  · intro other differs
    simp only [List.mem_append, List.mem_singleton, or_and_right, exists_or, exists_eq_left]
    exact or_iff_left fun same => differs same.symm
  · rw [List.map_append]
    refine List.nodup_append.mpr ⟨distinct, List.nodup_singleton _, ?_⟩
    intro used old new last same
    obtain ⟨record, member, rfl⟩ := List.mem_map.mp old
    exact unused ⟨record, member, same.trans (List.mem_singleton.mp last)⟩

theorem update {record : IdempotencyRecord Body} {update : IdempotencyRecord Body → IdempotencyRecord Body}
    (distinct : (records.map (·.id)).Nodup) (present : record ∈ records)
    (own : record.idempotencyKey = idempotencyKey)
    (kept : ∀ row, (update row).id = row.id ∧ (update row).scope = row.scope ∧
      (update row).idempotencyKey = row.idempotencyKey) :
    OthersKept scope idempotencyKey id records (updateById record.id update records) := by
  have ids : (updateById record.id update records).map (·.id) = records.map (·.id) :=
    updateById_ids fun row => (kept row).1
  constructor
  · intro other differs
    apply recordFor_updateById
    · intro row
      rw [IsFor, IsFor, (kept row).2.1, (kept row).2.2]
    · intro row member same isFor
      have one := List.inj_on_of_nodup_map distinct member present same
      exact differs (isFor.2.symm.trans (one ▸ own))
  · intro other _
    have same : other ∈ (updateById record.id update records).map (·.id) ↔ other ∈ records.map (·.id) := by
      rw [ids]
    simpa only [List.mem_map] using same
  · rwa [ids]

end OthersKept

theorem lockRequest_absent
    (absent : recordFor input.scope input.idempotencyKey records = none)
    (locked : (lockRequest now newId input).run records = .ok (record, after)) :
    record = freshRecord now newId input ∧ after = records ++ [freshRecord now newId input] ∧
      ¬ ∃ record ∈ records, record.id = newId := by
  rw [lockRequest_run] at locked
  simp only [absent] at locked
  split_ifs at locked with taken
  cases locked
  exact ⟨rfl, rfl, taken⟩

theorem lockRequest_completed
    (found : recordFor input.scope input.idempotencyKey records = some stored)
    (alive : now < stored.expiresAt) (completed : stored.status = .completed)
    (locked : (lockRequest now newId input).run records = .ok (record, after)) :
    record = stored ∧ after = records ∧ stored.requestHash = input.requestHash := by
  rw [lockRequest_run] at locked
  simp only [found, if_neg (Int.not_le.mpr alive), if_pos completed] at locked
  split_ifs at locked with differs
  cases locked
  exact ⟨rfl, rfl, not_not.mp differs⟩

theorem lockRequest_conflict (newId : String) (input : IdempotencyRequestLock)
    (found : recordFor input.scope input.idempotencyKey records = some stored)
    (alive : now < stored.expiresAt) (differs : stored.requestHash ≠ input.requestHash) :
    (lockRequest now newId input).run records =
      .error (.conflict "Idempotency key has already been used with a different request payload") := by
  rw [lockRequest_run]
  simp only [found, if_neg (Int.not_le.mpr alive), if_pos differs]

theorem lockRequest_hashes
    (locked : (lockRequest now newId input).run records = .ok (record, after)) :
    record.requestHash = input.requestHash ∧ (record.status = .completed → record ∈ records) ∧
      ∀ row ∈ after, row ∈ records ∨ row.requestHash = input.requestHash := by
  have rewritten (id : String) (update : IdempotencyRecord Body → IdempotencyRecord Body)
      (hashed : ∀ row, (update row).requestHash = input.requestHash) :
      ∀ row ∈ updateById id update records, row ∈ records ∨ row.requestHash = input.requestHash := by
    intro row member
    obtain ⟨old, present, rfl⟩ := List.mem_map.mp member
    split
    · exact .inr (hashed old)
    · exact .inl present
  rw [lockRequest_run] at locked
  cases found : recordFor input.scope input.idempotencyKey records with
  | none =>
    simp only [found] at locked
    split_ifs at locked
    cases locked
    refine ⟨rfl, nofun, fun row member => ?_⟩
    rcases List.mem_append.mp member with old | new
    · exact .inl old
    · rw [List.mem_singleton.mp new]
      exact .inr rfl
  | some stored =>
    simp only [found] at locked
    split_ifs at locked with expired differs completed
    · cases locked
      exact ⟨rfl, nofun, rewritten _ _ fun _ => rfl⟩
    · cases locked
      exact ⟨not_not.mp differs, fun _ => (recordFor_isFor found).1, fun row => .inl⟩
    · cases locked
      exact ⟨rfl, nofun, rewritten _ _ fun _ => rfl⟩

theorem lockRequest_kept
    (distinct : (records.map (·.id)).Nodup)
    (locked : (lockRequest now newId input).run records = .ok (record, after)) :
    OthersKept input.scope input.idempotencyKey newId records after ∧ record ∈ after ∧
      IsFor input.scope input.idempotencyKey record := by
  cases found : recordFor input.scope input.idempotencyKey records with
  | none =>
    obtain ⟨rfl, rfl, unused⟩ := lockRequest_absent found locked
    exact ⟨OthersKept.append (freshRecord now newId input) distinct unused rfl, by simp, rfl, rfl⟩
  | some stored =>
    obtain ⟨present, own⟩ := recordFor_isFor found
    rw [lockRequest_run] at locked
    simp only [found] at locked
    have written (update : IdempotencyRecord Body → IdempotencyRecord Body) :
        update stored ∈ updateById stored.id update records :=
      List.mem_map.mpr ⟨stored, present, if_pos rfl⟩
    split_ifs at locked
    · cases locked
      exact ⟨.update distinct present own.2 fun _ => ⟨rfl, rfl, rfl⟩, written _, own⟩
    · cases locked
      exact ⟨.refl distinct, present, own⟩
    · cases locked
      exact ⟨.update distinct present own.2 fun _ => ⟨rfl, rfl, rfl⟩, written _, own⟩

end Rows

end Idempotency

end ShuleHub
