import Mathlib.Data.Multiset.Sort
import Mathlib.Data.Rat.Defs
import Mathlib.Algebra.Order.Ring.Rat

/-! The 95th percentiles of the metric events: of durations, which are sorted first, and of delays and lags. -/

namespace ShuleHub.Observability

/-- The numbers are those that are there and finite. -/
structure SloMetricEvent where
  subsystem : String
  operation : String
  outcome : String
  durationMs : Option ℚ
  callbackDelayMs : Option ℚ
  queueLagMs : Option ℚ

/-- `Math.ceil((95 / 100) * length) - 1`, and nothing below zero; no array is long enough for the rounding of `95 / 100`
to show. -/
def rankIndex (length : Nat) : Nat := (95 * length + 99) / 100 - 1

def percentile (values : List ℚ) : Option ℚ := values[min (rankIndex values.length) (values.length - 1)]?

def filterEvents (events : List SloMetricEvent) (subsystem operation : String) : List SloMetricEvent :=
  events.filter fun event => event.subsystem = subsystem ∧ event.operation = operation

def durations (events : List SloMetricEvent) : List ℚ := events.filterMap (·.durationMs)

def metricLatencyP95 (events : List SloMetricEvent) : Option ℚ :=
  percentile ((durations events).mergeSort (· ≤ ·))

def callbackDelays (events : List SloMetricEvent) : List ℚ :=
  ((filterEvents events "mpesa" "callback_process").filter (·.outcome ≠ "ignored")).filterMap (·.callbackDelayMs)

def callbackDelayP95 (events : List SloMetricEvent) : Option ℚ := percentile (callbackDelays events)

def queueLags (events : List SloMetricEvent) : List ℚ :=
  (filterEvents events "queue" "queue_process").filterMap (·.queueLagMs)

def queueLagP95 (events : List SloMetricEvent) : Option ℚ := percentile (queueLags events)

def nearestRank (values : Multiset ℚ) : Option ℚ := (values.sort (· ≤ ·))[rankIndex values.card]?

/-- Where the values stand as recorded, the one in the place of the rank is the right one: so many are smaller at most,
and more are not greater. -/
def StandsAtRank (values : List ℚ) : Prop :=
  ∀ value ∈ values[rankIndex values.length]?,
    values.countP (· < value) ≤ rankIndex values.length ∧ rankIndex values.length < values.countP (· ≤ value)
deriving Decidable

section Ranks

variable {values : List ℚ} {value : ℚ} {index : Nat}

theorem percentile_eq (values : List ℚ) : percentile values = values[rankIndex values.length]? := by
  cases values with
  | nil => rfl
  | cons first rest =>
    have inside : min (rankIndex (first :: rest).length) ((first :: rest).length - 1) =
        rankIndex (first :: rest).length := by
      rw [rankIndex, List.length_cons]
      omega
    rw [percentile, inside]

theorem lt_countP_iff (low : ℚ → Bool) (ordered : values.Pairwise (· ≤ ·))
    (closed : ∀ first second, first ≤ second → low second = true → low first = true)
    (found : values[index]? = some value) : index < values.countP low ↔ low value = true := by
  induction values generalizing index with
  | nil => cases found
  | cons first rest ih =>
    obtain ⟨least, later⟩ := List.pairwise_cons.mp ordered
    cases index with
    | zero =>
      obtain rfl : first = value := Option.some.inj found
      by_cases held : low first = true
      · simp [held]
      · have none : rest.countP low = 0 := by
          apply List.countP_eq_zero.mpr
          intro other member own
          exact held (closed first other (least other member) own)
        simp [held, none]
    | succ index =>
      have next := ih later found
      by_cases held : low first = true
      · rw [List.countP_cons_of_pos held, Nat.succ_lt_succ_iff, next]
      · have above : low value ≠ true := by
          intro own
          exact held (closed first value (least value (List.mem_of_getElem? found)) own)
        rw [List.countP_cons_of_neg held]
        have rank := mt next.mp above
        constructor
        · intro counted
          omega
        · intro own
          exact absurd own above

theorem percentile_eq_nearestRank_iff (values : List ℚ) :
    percentile values = nearestRank values ↔ StandsAtRank values := by
  rw [percentile_eq, nearestRank, Multiset.coe_card, StandsAtRank]
  have perm : List.Perm (Multiset.sort (values : Multiset ℚ) (· ≤ ·)) values :=
    Multiset.coe_eq_coe.mp (Multiset.sort_eq _ _)
  have ordered := Multiset.pairwise_sort (values : Multiset ℚ) (· ≤ ·)
  generalize Multiset.sort (values : Multiset ℚ) (· ≤ ·) = sorted at perm ordered
  cases here : values[rankIndex values.length]? with
  | none =>
    have past : sorted.length ≤ rankIndex values.length := by
      rw [perm.length_eq]
      exact List.getElem?_eq_none_iff.mp here
    simp [List.getElem?_eq_none past]
  | some value =>
    obtain ⟨short, -⟩ := List.getElem?_eq_some_iff.mp here
    obtain ⟨other, there⟩ : ∃ other, sorted[rankIndex values.length]? = some other :=
      ⟨_, List.getElem?_eq_getElem (perm.length_eq ▸ short)⟩
    have below := lt_countP_iff (fun other => decide (other < value)) ordered
      (fun first second le low => decide_eq_true (le.trans_lt (of_decide_eq_true low))) there
    have within := lt_countP_iff (fun other => decide (other ≤ value)) ordered
      (fun first second le low => decide_eq_true (le.trans (of_decide_eq_true low))) there
    rw [perm.countP_eq, decide_eq_true_iff] at below within
    replace below := (not_congr below).trans not_lt
    rw [not_lt] at below
    simp only [there, Option.mem_def, Option.some.injEq, forall_eq', within, below]
    constructor
    · rintro rfl
      exact ⟨le_rfl, le_rfl⟩
    · rintro ⟨atLeast, atMost⟩
      exact le_antisymm atLeast atMost

end Ranks

def delayed (milliseconds : ℚ) : SloMetricEvent :=
  ⟨"mpesa", "callback_process", "success", none, some milliseconds, none⟩

end ShuleHub.Observability
