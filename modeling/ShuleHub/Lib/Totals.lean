import Mathlib.Algebra.BigOperators.Group.List.Basic
import Mathlib.Algebra.GroupWithZero.Nat
import Mathlib.Algebra.Ring.Int.Defs
import Mathlib.Data.List.Nodup

/-! Sums over the items of a list that have a property, taken apart by another property or by a key. -/

namespace Totals

variable {Item Key : Type} (amount : Item → Nat) {items : List Item} {property : Item → Bool} {keys : List Key}

def total (property : Item → Bool) (items : List Item) : Nat := ((items.filter property).map amount).sum

theorem total_cons (property : Item → Bool) (item : Item) (items : List Item) :
    total amount property (item :: items) =
      (if property item = true then amount item else 0) + total amount property items := by
  rw [total, List.filter_cons]
  split
  · rw [List.map_cons, List.sum_cons, total]
  · rw [Nat.zero_add, total]

theorem total_congr {first second : Item → Bool}
    (same : ∀ item ∈ items, first item = second item) : total amount first items = total amount second items := by
  rw [total, total, List.filter_congr same]

theorem total_split (property part : Item → Bool) (items : List Item) :
    total amount property items =
      total amount (fun item => property item && part item) items +
        total amount (fun item => property item && !part item) items := by
  induction items with
  | nil => rfl
  | cons item items ih =>
    simp only [total_cons, ih]
    cases property item <;> cases part item <;> simp only [Bool.and_true, Bool.and_false, Bool.not_true,
      Bool.not_false, if_true, Bool.false_eq_true, if_false] <;> omega

theorem total_append (property : Item → Bool) (first second : List Item) :
    total amount property (first ++ second) = total amount property first + total amount property second := by
  rw [total, List.filter_append, List.map_append, List.sum_append, total, total]

theorem total_remove [DecidableEq Key] (key : Item → Key)
    (distinct : (items.map key).Nodup) {item : Item} (member : item ∈ items) (counted : property item = true) :
    total amount property items =
      amount item + total amount (fun other => property other && decide (key other ≠ key item)) items := by
  induction items with
  | nil => exact absurd member List.not_mem_nil
  | cons head rest ih =>
    rw [List.map_cons, List.nodup_cons] at distinct
    rw [total_cons, total_cons]
    rcases List.mem_cons.mp member with rfl | later
    · have others : total amount (fun other => property other && decide (key other ≠ key item)) rest =
          total amount property rest := by
        apply total_congr
        intro other present
        have differs : key other ≠ key item := fun same => distinct.1 (same ▸ List.mem_map_of_mem present)
        simp [differs]
      rw [others, if_pos counted, if_neg (by simp), Nat.zero_add]
    · have differs : key head ≠ key item := fun same => distinct.1 (same ▸ List.mem_map_of_mem later)
      rw [ih distinct.2 later]
      simp only [differs, ne_eq, not_false_eq_true, decide_true, Bool.and_true]
      omega

theorem total_eq_zero (positive : ∀ item, 0 < amount item) :
    total amount property items = 0 ↔ ∀ item ∈ items, property item = false := by
  induction items with
  | nil => simp [total]
  | cons item items ih =>
    have more := positive item
    rw [total_cons, List.forall_mem_cons, ← ih]
    cases property item with
    | false => simp
    | true =>
      simp only [if_true, Bool.true_eq_false, false_and, iff_false]
      omega

theorem total_by_key [DecidableEq Key] (key : Item → Option Key) (distinct : keys.Nodup)
    (items : List Item) :
    total amount (fun item => (key item).isSome) items =
      (keys.map fun own => total amount (fun item => key item = some own) items).sum +
        total amount (fun item => (key item).any (· ∉ keys)) items := by
  induction keys with
  | nil =>
    rw [List.map_nil, List.sum_nil, Nat.zero_add]
    apply total_congr
    intro item _
    cases key item <;> simp
  | cons own keys ih =>
    obtain ⟨fresh, distinct⟩ := List.nodup_cons.mp distinct
    have split := total_split amount (fun item => (key item).any (· ∉ keys)) (fun item => key item = some own) items
    have first : total amount (fun item => (key item).any (· ∉ keys) && decide (key item = some own)) items =
        total amount (fun item => key item = some own) items := by
      apply total_congr
      intro item _
      by_cases same : key item = some own
      · simp [same, fresh]
      · simp [same]
    have others : total amount (fun item => (key item).any (· ∉ keys) && !decide (key item = some own)) items =
        total amount (fun item => (key item).any (· ∉ own :: keys)) items := by
      apply total_congr
      intro item _
      cases known : key item with
      | none => rfl
      | some other => simp [Bool.and_comm]
    rw [ih distinct, split, first, others, List.map_cons, List.sum_cons]
    omega

theorem perm_by_member [DecidableEq Key] (key : Item → Key) (distinct : keys.Nodup)
    (items : List Item) :
    (keys.flatMap fun own => items.filter fun item => key item = own).Perm
      (items.filter fun item => key item ∈ keys) := by
  induction keys with
  | nil => simp
  | cons own keys ih =>
    obtain ⟨fresh, distinct⟩ := List.nodup_cons.mp distinct
    rw [List.flatMap_cons]
    apply ((ih distinct).append_left _).trans
    have parts := List.filter_append_perm (fun item => decide (key item = own))
      (items.filter fun item => key item ∈ own :: keys)
    rw [List.filter_filter, List.filter_filter] at parts
    have first : (items.filter fun item => decide (key item = own) && decide (key item ∈ own :: keys)) =
        items.filter fun item => key item = own := by
      apply List.filter_congr
      intro item _
      by_cases same : key item = own <;> simp [same]
    have others : (items.filter fun item => (!decide (key item = own)) && decide (key item ∈ own :: keys)) =
        items.filter fun item => key item ∈ keys := by
      apply List.filter_congr
      intro item _
      by_cases same : key item = own <;> simp [same, fresh]
    rw [first, others] at parts
    exact parts

theorem perm_by_key [DecidableEq Key] (key : Item → Key) (distinct : keys.Nodup)
    {inside : Item → Bool} (covers : ∀ item, inside item = true ↔ key item ∈ keys) (items : List Item) :
    (keys.flatMap fun own => items.filter fun item => key item = own).Perm (items.filter inside) := by
  apply (perm_by_member key distinct items).trans
  apply List.Perm.of_eq
  apply List.filter_congr
  intro item _
  rw [Bool.eq_iff_iff, decide_eq_true_iff, covers]

section Monoids

variable {M : Type} [AddCommMonoid M] [DecidableEq Key] {keys : List Key}

theorem sum_ite_eq (distinct : keys.Nodup) (wanted : Key) (value : M) :
    (keys.map fun own => if wanted = own then value else 0).sum = if wanted ∈ keys then value else 0 := by
  induction keys with
  | nil => simp
  | cons own keys ih =>
    obtain ⟨fresh, distinct⟩ := List.nodup_cons.mp distinct
    rw [List.map_cons, List.sum_cons, ih distinct]
    by_cases same : wanted = own
    · subst same
      rw [if_pos rfl, if_neg fresh, if_pos List.mem_cons_self, add_zero]
    · rw [if_neg same, zero_add]
      simp [same]

theorem sum_by_key (weigh : Item → M) (key : Item → Key) (distinct : keys.Nodup)
    (items : List Item) :
    (keys.map fun own => ((items.filter fun item => key item = own).map weigh).sum).sum =
      ((items.filter fun item => key item ∈ keys).map weigh).sum := by
  induction items with
  | nil => simp
  | cons item items ih =>
    have each (own : Key) : (((item :: items).filter fun item => key item = own).map weigh).sum =
        (if key item = own then weigh item else 0) + ((items.filter fun item => key item = own).map weigh).sum := by
      rw [List.filter_cons]
      by_cases same : key item = own <;> simp [same]
    simp only [each]
    rw [List.sum_map_add, sum_ite_eq distinct, ih, List.filter_cons]
    by_cases present : key item ∈ keys <;> simp [present]

end Monoids

end Totals

/-! Journals: entries that each move a balance and record what it came to. -/

namespace Journal

variable {Entry : Type} (quantity balanceAfter : Entry → Int)

def total (entries : List Entry) : Int := (entries.map quantity).sum

def Running (entries : List Entry) : Prop :=
  ∀ before entry after, entries = before ++ entry :: after →
    balanceAfter entry = total quantity (before ++ [entry])

@[simp] theorem total_nil : total quantity [] = 0 := rfl

@[simp] theorem total_append (first second : List Entry) :
    total quantity (first ++ second) = total quantity first + total quantity second := by
  simp [total]

@[simp] theorem total_singleton (entry : Entry) : total quantity [entry] = quantity entry := by
  simp [total]

theorem running_nil : Running quantity balanceAfter [] := by
  intro before entry after split
  simp at split

theorem running_append {entries : List Entry} {entry : Entry} :
    Running quantity balanceAfter (entries ++ [entry]) ↔
      Running quantity balanceAfter entries ∧ balanceAfter entry = total quantity entries + quantity entry := by
  constructor
  · intro running
    constructor
    · intro before old after split
      apply running before old (after ++ [entry])
      rw [split, List.append_assoc, List.cons_append]
    · simpa using running entries entry [] rfl
  · rintro ⟨running, last⟩ before other after split
    rcases List.eq_nil_or_concat after with rfl | ⟨inner, final, rfl⟩
    · obtain ⟨rfl, same⟩ := List.append_inj' split rfl
      cases same
      simpa using last
    · rw [List.concat_eq_append, ← List.cons_append, ← List.append_assoc] at split
      exact running before other inner (List.append_inj' split rfl).1

end Journal

/-! Pouring an amount over items of given capacities, first come first filled. -/

namespace Filling

variable {ι : Type} (capacity : ι → Nat)

@[grind =] def fill : Nat → List ι → List (ι × Nat)
  | _, [] => []
  | amount, item :: items =>
    if amount = 0 then []
    else if capacity item = 0 then fill amount items
    else (item, min amount (capacity item)) :: fill (amount - min amount (capacity item)) items

def poured (shares : List (ι × Nat)) : Nat := (shares.map (·.2)).sum

def excess (amount : Nat) (items : List ι) : Nat := amount - (items.map capacity).sum

def share [DecidableEq ι] (shares : List (ι × Nat)) (item : ι) : Nat :=
  poured (shares.filter fun given => given.1 = item)

variable {capacity} {amount : Nat} {item other : ι} {items : List ι}

theorem fill_zero (items : List ι) : fill capacity 0 items = [] := by
  cases items <;> rfl

theorem fill_cons_empty (empty : capacity item = 0) :
    fill capacity amount (item :: items) = fill capacity amount items := by
  rw [fill]
  split
  · next none =>
    rw [none, fill_zero]
  · rfl

theorem fill_cons_of_pos (left : 0 < amount) (room : 0 < capacity item) :
    fill capacity amount (item :: items) =
      (item, min amount (capacity item)) :: fill capacity (amount - capacity item) items := by
  have rest : amount - min amount (capacity item) = amount - capacity item := by omega
  rw [fill, if_neg (Nat.pos_iff_ne_zero.mp left), if_neg (Nat.pos_iff_ne_zero.mp room), rest]

theorem fill_induction (capacity : ι → Nat) {motive : Nat → List ι → Prop} (ended : ∀ amount, motive amount [])
    (spent : ∀ items, motive 0 items)
    (full : ∀ amount item items, capacity item = 0 → motive amount items → motive amount (item :: items))
    (poured : ∀ amount item items, 0 < amount → 0 < capacity item → motive (amount - capacity item) items →
      motive amount (item :: items)) (amount : Nat) (items : List ι) : motive amount items := by
  induction items generalizing amount with
  | nil => exact ended amount
  | cons item items ih =>
    rcases Nat.eq_zero_or_pos amount with rfl | positive
    · exact spent _
    · rcases Nat.eq_zero_or_pos (capacity item) with empty | room
      · exact full amount item items empty (ih amount)
      · exact poured amount item items positive room (ih _)

theorem poured_fill (amount : Nat) (items : List ι) :
    poured (fill capacity amount items) + excess capacity amount items = amount := by
  induction amount, items using fill_induction capacity with
  | ended amount => simp [fill, poured, excess]
  | spent items => simp [fill_zero, poured, excess]
  | full amount item items empty ih =>
    rw [fill_cons_empty empty]
    simpa [excess, empty] using ih
  | poured amount item items positive room ih =>
    rw [fill_cons_of_pos positive room]
    simp only [poured, excess, List.map_cons, List.sum_cons] at ih ⊢
    omega

theorem mem_fill {given : ι × Nat} (member : given ∈ fill capacity amount items) :
    given.1 ∈ items ∧ 0 < given.2 ∧ given.2 ≤ capacity given.1 := by
  induction amount, items using fill_induction capacity with
  | ended amount => cases member
  | spent items =>
    rw [fill_zero] at member
    cases member
  | full amount item items empty ih =>
    rw [fill_cons_empty empty] at member
    exact (ih member).imp_left (List.mem_cons_of_mem item)
  | poured amount item items positive room ih =>
    rw [fill_cons_of_pos positive room] at member
    rcases List.mem_cons.mp member with rfl | later
    · exact ⟨List.mem_cons_self, Nat.lt_min.mpr ⟨positive, room⟩, Nat.min_le_right _ _⟩
    · exact (ih later).imp_left (List.mem_cons_of_mem item)

theorem fill_eq_nil : fill capacity amount items = [] ↔ amount = 0 ∨ ∀ item ∈ items, capacity item = 0 := by
  induction amount, items using fill_induction capacity with
  | ended amount => simp [fill]
  | spent items => simp [fill_zero]
  | full amount item items empty ih => simp [fill_cons_empty empty, ih, empty]
  | poured amount item items positive room ih =>
    rw [fill_cons_of_pos positive room]
    simp only [List.cons_ne_nil, List.forall_mem_cons, false_iff]
    omega

theorem fill_sublist (amount : Nat) (items : List ι) : ((fill capacity amount items).map (·.1)).Sublist items := by
  induction amount, items using fill_induction capacity with
  | ended amount => exact .slnil
  | spent items =>
    rw [fill_zero]
    exact List.nil_sublist items
  | full amount item items empty ih =>
    rw [fill_cons_empty empty]
    exact ih.cons item
  | poured amount item items positive room ih =>
    rw [fill_cons_of_pos positive room]
    exact ih.cons_cons item

section Shares

variable [DecidableEq ι]

theorem share_of_not_mem (absent : item ∉ items) : share (fill capacity amount items) item = 0 := by
  have nothing : (fill capacity amount items).filter (fun given => given.1 = item) = [] := by
    apply List.filter_eq_nil_iff.mpr
    intro given member same
    exact absent (of_decide_eq_true same ▸ (mem_fill member).1)
  rw [share, nothing]
  rfl

theorem share_head (fresh : item ∉ items) :
    share (fill capacity amount (item :: items)) item = min amount (capacity item) := by
  rcases Nat.eq_zero_or_pos amount with rfl | positive
  · simp [fill_zero, share, poured]
  · rcases Nat.eq_zero_or_pos (capacity item) with empty | room
    · rw [fill_cons_empty empty, share_of_not_mem fresh, empty, Nat.min_zero]
    · have none_later : share (fill capacity (amount - capacity item) items) item = 0 := share_of_not_mem fresh
      rw [fill_cons_of_pos positive room]
      simp only [share, poured, List.filter_cons, decide_true, if_true, List.map_cons, List.sum_cons] at none_later ⊢
      omega

theorem share_later (differs : item ≠ other) :
    share (fill capacity amount (item :: items)) other = share (fill capacity (amount - capacity item) items) other := by
  rcases Nat.eq_zero_or_pos amount with rfl | positive
  · rw [Nat.zero_sub, fill_zero, fill_zero]
  · rcases Nat.eq_zero_or_pos (capacity item) with empty | room
    · rw [fill_cons_empty empty, empty, Nat.sub_zero]
    · rw [fill_cons_of_pos positive room, share, List.filter_cons, if_neg (by simpa using differs)]
      rfl

theorem fill_inOrder (distinct : items.Nodup) (amount : Nat) :
    items.Pairwise fun earlier later =>
      0 < share (fill capacity amount items) later → share (fill capacity amount items) earlier = capacity earlier := by
  induction items generalizing amount with
  | nil => exact .nil
  | cons item items ih =>
    obtain ⟨fresh, distinct⟩ := List.nodup_cons.mp distinct
    have differs : ∀ other ∈ items, item ≠ other := fun other member same => fresh (same ▸ member)
    refine List.pairwise_cons.mpr ⟨fun later member reached => ?_, ?_⟩
    · rw [share_later (differs later member)] at reached
      have left : amount - capacity item ≠ 0 := by
        intro spent
        rw [spent, fill_zero] at reached
        exact absurd reached (Nat.lt_irrefl 0)
      rw [share_head fresh]
      omega
    · apply (ih distinct (amount - capacity item)).imp_of_mem
      intro earlier later first second filled reached
      rw [share_later (differs later second)] at reached
      rw [share_later (differs earlier first)]
      exact filled reached

theorem fill_onePartial (distinct : items.Nodup) (amount : Nat) :
    (items.filter fun item => 0 < share (fill capacity amount items) item ∧
      share (fill capacity amount items) item < capacity item).length ≤ 1 := by
  have ordered := (@fill_inOrder _ capacity _ _ distinct amount).sublist
    (List.filter_sublist (p := fun item => 0 < share (fill capacity amount items) item ∧
      share (fill capacity amount items) item < capacity item))
  generalize kept : items.filter (fun item => 0 < share (fill capacity amount items) item ∧
    share (fill capacity amount items) item < capacity item) = partials at ordered ⊢
  have started : ∀ item ∈ partials, 0 < share (fill capacity amount items) item ∧
      share (fill capacity amount items) item < capacity item := by
    intro item member
    rw [← kept] at member
    exact of_decide_eq_true (List.mem_filter.mp member).2
  match partials, ordered, started with
  | [], _, _ => exact Nat.zero_le 1
  | [_], _, _ => exact Nat.le_refl 1
  | first :: second :: rest, ordered, started =>
    have full := (List.pairwise_cons.mp ordered).1 second List.mem_cons_self (started second (by simp)).1
    exact absurd full (Nat.ne_of_lt (started first List.mem_cons_self).2)

end Shares

end Filling
