import Mathlib.Data.List.Sort

/-! A list is sorted by a relation that is an order on its own items, whatever the relation does elsewhere. -/

namespace Sorting

variable {Item : Type*} {before : Item → Item → Prop} [DecidableRel before] {item : Item} {items : List Item}

/-- The relation is total and transitive on the items that have a property. -/
structure OrdersOn (before : Item → Item → Prop) (property : Item → Prop) : Prop where
  total : ∀ first second, property first → property second → before first second ∨ before second first
  trans : ∀ first second third, property first → property second → property third → before first second →
    before second third → before first third

variable {property : Item → Prop}

theorem pairwise_orderedInsert (orders : OrdersOn before property) (own : property item)
    (all : ∀ other ∈ items, property other) (sorted : items.Pairwise before) :
    (items.orderedInsert before item).Pairwise before := by
  induction items with
  | nil => exact List.pairwise_singleton _ _
  | cons first rest ih =>
    obtain ⟨head, tail⟩ := List.forall_mem_cons.mp all
    obtain ⟨ahead, sorted⟩ := List.pairwise_cons.mp sorted
    rw [List.orderedInsert_cons]
    by_cases least : before item first
    · rw [if_pos least]
      apply List.Pairwise.cons _ (.cons ahead sorted)
      intro other member
      rcases List.mem_cons.mp member with rfl | later
      · exact least
      · exact orders.trans item first other own head (tail other later) least (ahead other later)
    · rw [if_neg least]
      apply List.Pairwise.cons _ (ih tail sorted)
      intro other member
      rcases (List.mem_orderedInsert before).mp member with rfl | later
      · exact (orders.total other first own head).resolve_left least
      · exact ahead other later

theorem pairwise_insertionSort (orders : OrdersOn before property) (all : ∀ other ∈ items, property other) :
    (items.insertionSort before).Pairwise before := by
  induction items with
  | nil => exact .nil
  | cons first rest ih =>
    obtain ⟨head, tail⟩ := List.forall_mem_cons.mp all
    apply pairwise_orderedInsert orders head _ (ih tail)
    intro other member
    exact tail other ((List.mem_insertionSort before).mp member)

end Sorting
