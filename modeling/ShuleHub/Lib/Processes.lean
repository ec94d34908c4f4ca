import Mathlib.Algebra.GroupWithZero.Nat
import Mathlib.Data.List.Basic

/-! Processes in a list, each known by its place, and properties that at most one of them has. -/

namespace Processes

variable {Process : Type}

def AtMostOne (property : Process → Prop) (processes : List Process) : Prop :=
  ∀ (first second : Nat) (one other : Process), processes[first]? = some one → processes[second]? = some other →
    property one → property other → first = second

section Places

variable {processes : List Process} {change : Process → Process} {new process : Process} {index place : Nat}

theorem modified (found : (processes.modify index change)[place]? = some process) :
    ∃ before, processes[place]? = some before ∧
      (index = place ∧ process = change before ∨ index ≠ place ∧ process = before) := by
  rw [List.getElem?_modify] at found
  obtain ⟨before, old, changed⟩ := Option.map_eq_some_iff.mp found
  refine ⟨before, old, ?_⟩
  split at changed
  · next same => exact .inl ⟨same, changed.symm⟩
  · next differs => exact .inr ⟨differs, changed.symm⟩

theorem replaced (found : (processes.set index new)[place]? = some process) :
    index = place ∧ process = new ∨ index ≠ place ∧ processes[place]? = some process := by
  rw [List.getElem?_set] at found
  split at found
  · next same =>
    split at found
    · exact .inl ⟨same, (Option.some.inj found).symm⟩
    · cases found
  · next differs => exact .inr ⟨differs, found⟩

theorem appended (found : (processes ++ [new])[place]? = some process) :
    processes[place]? = some process ∨ place = processes.length ∧ process = new := by
  rw [List.getElem?_append, List.getElem?_singleton] at found
  split at found
  · exact .inl found
  · next late =>
    split at found
    · exact .inr ⟨by omega, (Option.some.inj found).symm⟩
    · cases found

theorem set_found (found : processes[index]? = some process) : processes.set index process = processes := by
  obtain ⟨inside, rfl⟩ := List.getElem?_eq_some_iff.mp found
  exact List.set_getElem_self inside

end Places

namespace AtMostOne

variable {property other : Process → Prop} {before after : List Process}

theorem nil : AtMostOne property [] := by
  intro first second one other found
  simp at found

theorem of_before (single : AtMostOne other before)
    (had : ∀ (place : Nat) (process : Process), after[place]? = some process → property process →
      ∃ old, before[place]? = some old ∧ other old) : AtMostOne property after := by
  intro first second one two found secondFound holds secondHolds
  obtain ⟨old, oldFound, oldHeld⟩ := had first one found holds
  obtain ⟨secondOld, secondOldFound, secondOldHeld⟩ := had second two secondFound secondHolds
  exact single first second old secondOld oldFound secondOldFound oldHeld secondOldHeld

theorem of_place {index : Nat}
    (only : ∀ (place : Nat) (process : Process), after[place]? = some process → property process → place = index) :
    AtMostOne property after := by
  intro first second one two found secondFound holds secondHolds
  rw [only first one found holds, only second two secondFound secondHolds]

end AtMostOne

section Loads

variable (weight : Process → Nat) {processes : List Process}

def load (processes : List Process) : Nat := (processes.map weight).sum

theorem load_append (new : List Process) : load weight (processes ++ new) = load weight processes + load weight new := by
  rw [load, List.map_append, List.sum_append]
  rfl

theorem load_set {index : Nat} {old : Process} (found : processes[index]? = some old) (new : Process) :
    load weight (processes.set index new) + weight old = load weight processes + weight new := by
  induction processes generalizing index with
  | nil => simp at found
  | cons head rest ih =>
    cases index with
    | zero =>
      obtain rfl : head = old := by simpa using found
      simp only [load, List.set_cons_zero, List.map_cons, List.sum_cons]
      omega
    | succ index =>
      have later := ih (by simpa using found)
      simp only [load, List.set_cons_succ, List.map_cons, List.sum_cons] at later ⊢
      omega

end Loads

end Processes
