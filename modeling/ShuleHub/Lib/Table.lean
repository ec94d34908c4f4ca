import Mathlib.Algebra.BigOperators.Group.List.Basic
import Mathlib.Algebra.Order.BigOperators.Group.List
import Mathlib.Algebra.GroupWithZero.Nat
import Mathlib.Algebra.Order.Group.Nat
import Mathlib.Algebra.Ring.Int.Defs
import Mathlib.Data.List.Forall2
import Mathlib.Data.List.Nodup

/-! Sums over the rows of a table, and how a sum over keys groups them. -/

namespace Table

variable {Row Key : Type} {keys : List Key}

def total (condition : Row → Prop) [DecidablePred condition] (weight : Row → Nat) (rows : List Row) : Nat :=
  ((rows.filter fun row => condition row).map weight).sum

section Total

variable (condition : Row → Prop) [DecidablePred condition] (weight : Row → Nat)
  {rows : List Row} {other : Row → Prop} {Other : Type}

@[simp] theorem total_nil : total condition weight [] = 0 := rfl

theorem total_cons (row : Row) (rows : List Row) :
    total condition weight (row :: rows) =
      (if condition row then weight row else 0) + total condition weight rows := by
  by_cases holds : condition row <;> simp [total, holds]

theorem total_append (first second : List Row) :
    total condition weight (first ++ second) =
      total condition weight first + total condition weight second := by
  simp [total]

variable {condition weight}

theorem total_eq_zero (none : ∀ row ∈ rows, ¬ condition row) :
    total condition weight rows = 0 := by
  have empty : (rows.filter fun row => condition row) = [] :=
    List.filter_eq_nil_iff.mpr (by simpa using none)
  rw [total, empty]
  rfl

theorem total_congr [DecidablePred other]
    (same : ∀ row ∈ rows, condition row ↔ other row) :
    total condition weight rows = total other weight rows := by
  have filtered : (rows.filter fun row => condition row) = rows.filter fun row => other row :=
    List.filter_congr (by simpa using same)
  rw [total, total, filtered]

theorem total_le [DecidablePred other]
    (implied : ∀ row ∈ rows, condition row → other row) : total condition weight rows ≤ total other weight rows := by
  induction rows with
  | nil => exact Nat.le_refl _
  | cons row rows ih =>
    obtain ⟨own, rest⟩ := List.forall_mem_cons.mp implied
    rw [total_cons, total_cons]
    refine Nat.add_le_add ?_ (ih rest)
    by_cases holds : condition row
    · rw [if_pos holds, if_pos (own holds)]
    · rw [if_neg holds]
      exact Nat.zero_le _

theorem le_total {row : Row} (member : row ∈ rows) (met : condition row) :
    weight row ≤ total condition weight rows := by
  apply List.single_le_sum (fun _ _ => Nat.zero_le _)
  exact List.mem_map_of_mem (List.mem_filter.mpr ⟨member, decide_eq_true met⟩)

theorem total_map (change : Other → Row) (rows : List Other) :
    total condition weight (rows.map change) =
      total (fun row => condition (change row)) (fun row => weight (change row)) rows := by
  induction rows with
  | nil => rfl
  | cons row rows ih => rw [List.map_cons, total_cons, total_cons, ih]

theorem total_filter {kept : Row → Prop} [DecidablePred kept] (rows : List Row) :
    total condition weight (rows.filter fun row => kept row) = total (fun row => kept row ∧ condition row) weight rows := by
  simp only [total, List.filter_filter]
  congr 2
  exact List.filter_congr fun row _ => by rw [Bool.and_comm, Bool.decide_and]

theorem total_or [DecidablePred other]
    (apart : ∀ row, condition row → ¬ other row) :
    total (fun row => condition row ∨ other row) weight rows = total condition weight rows + total other weight rows := by
  induction rows with
  | nil => rfl
  | cons row rows ih =>
    rw [total_cons, total_cons, total_cons, ih]
    by_cases first : condition row
    · simp only [first, apart row first, true_or, if_true, if_false]
      omega
    · simp only [first, false_or, if_false]
      omega

theorem total_forall₂ {matching : Other → Prop} [DecidablePred matching] {size : Other → Nat} {others : List Other}
    (same : List.Forall₂ (fun row other => (condition row ↔ matching other) ∧ weight row = size other) rows others) :
    total condition weight rows = total matching size others := by
  induction same with
  | nil => rfl
  | cons head _ ih =>
    rw [total_cons, total_cons, ih, head.2]
    simp only [head.1]

end Total

private theorem sum_single [DecidableEq Key] (distinct : keys.Nodup) (key : Key)
    (value : Nat) :
    (keys.map fun other => if key = other then value else 0).sum = if key ∈ keys then value else 0 := by
  induction keys with
  | nil => rfl
  | cons head keys ih =>
    obtain ⟨fresh, distinct⟩ := List.nodup_cons.mp distinct
    rw [List.map_cons, List.sum_cons, ih distinct]
    by_cases same : key = head
    · subst same
      simp [fresh]
    · simp [same]

theorem sum_total [DecidableEq Key] (distinct : keys.Nodup) (key : Row → Key)
    (condition : Row → Prop) [DecidablePred condition] (weight : Row → Nat) (rows : List Row) :
    (keys.map fun wanted => total (fun row => key row = wanted ∧ condition row) weight rows).sum =
      total (fun row => key row ∈ keys ∧ condition row) weight rows := by
  induction rows with
  | nil => simp
  | cons row rows ih =>
    simp only [total_cons, List.sum_map_add, ih]
    congr 1
    by_cases holds : condition row
    · simp only [holds, and_true]
      exact sum_single distinct (key row) (weight row)
    · simp [holds]

end Table
