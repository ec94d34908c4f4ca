import Mathlib.Logic.Function.Basic
import Mathlib.Logic.Relation
import Mathlib.Order.WellFounded

/-! Graphs in which every node points to at most one other: when following the pointers comes to an end, and what
setting one pointer does to that. -/

namespace Forest

variable {Node : Type*} (pointer : Node → Option Node)

def PointsTo (node next : Node) : Prop := pointer node = some next

def Leads : Node → Node → Prop := Relation.ReflTransGen (PointsTo pointer)

def Grounded : Prop := WellFounded fun next node => PointsTo pointer node next

variable {pointer}

theorem Grounded.no_cycle (grounded : Grounded pointer) (node : Node) :
    ¬ Relation.TransGen (PointsTo pointer) node node := by
  intro cycle
  have back : Relation.TransGen (fun next node => PointsTo pointer node next) node node :=
    Relation.transGen_swap.mp cycle
  exact grounded.transGen.asymmetric node node back back

theorem Grounded.ends (grounded : Grounded pointer) (node : Node) :
    ∃ last, Leads pointer node last ∧ pointer last = none := by
  induction node using grounded.induction with
  | _ node ih =>
    cases found : pointer node with
    | none => exact ⟨node, .refl, found⟩
    | some next =>
      obtain ⟨last, leads, ends⟩ := ih next found
      exact ⟨last, .head found leads, ends⟩

theorem leads_of_none {node last : Node} (ends : pointer node = none) (leads : Leads pointer node last) :
    node = last := by
  rcases Relation.ReflTransGen.cases_head leads with same | ⟨next, step, -⟩
  · exact same
  · exact absurd (ends.symm.trans step) nofun

theorem grounded_iff : Grounded pointer ↔ ∀ node, ∃ last, Leads pointer node last ∧ pointer last = none := by
  constructor
  · intro grounded node
    exact grounded.ends node
  · intro ends
    constructor
    intro node
    obtain ⟨last, leads, none⟩ := ends node
    induction leads using Relation.ReflTransGen.head_induction_on with
    | refl => exact ⟨_, fun _ points => absurd (none.symm.trans points) nofun⟩
    | head step _ ih =>
      constructor
      intro other points
      cases Option.some.inj (step.symm.trans points)
      exact ih

theorem grounded_none : Grounded fun _ : Node => none :=
  ⟨fun node => ⟨node, fun _ points => nomatch points⟩⟩

section Update

variable [DecidableEq Node] {child target : Node}

theorem pointsTo_update {node next : Node} (differs : node ≠ child) :
    PointsTo (Function.update pointer child (some target)) node next ↔ PointsTo pointer node next := by
  rw [PointsTo, PointsTo, Function.update_of_ne differs]

theorem leads_update {node : Node} (leads : Leads pointer node child) :
    Leads (Function.update pointer child (some target)) node child := by
  induction leads using Relation.ReflTransGen.head_induction_on with
  | refl => exact .refl
  | @head node next step _ ih =>
    by_cases same : node = child
    · rw [same]
      exact .refl
    · exact .head ((pointsTo_update same).mpr step) ih

/-- Setting a pointer keeps every way finite exactly if its target does not lead back. -/
theorem grounded_update (grounded : Grounded pointer) :
    Grounded (Function.update pointer child (some target)) ↔ ¬ Leads pointer target child := by
  have own : PointsTo (Function.update pointer child (some target)) child target := Function.update_self ..
  constructor
  · intro still leads
    exact still.no_cycle child (Relation.TransGen.head' own (leads_update leads))
  · intro apart
    have outside (node : Node) (away : ¬ Leads pointer node child) :
        Acc (fun next node => PointsTo (Function.update pointer child (some target)) node next) node := by
      induction node using grounded.induction with
      | _ node ih =>
        have differs : node ≠ child := by
          rintro rfl
          exact away .refl
        constructor
        intro next points
        have step := (pointsTo_update differs).mp points
        apply ih next step
        intro leads
        exact away (.head step leads)
    constructor
    intro node
    induction node using grounded.induction with
    | _ node ih =>
      constructor
      intro next points
      by_cases same : node = child
      · subst same
        cases own.symm.trans points
        exact outside target apart
      · exact ih next ((pointsTo_update same).mp points)

end Update

end Forest
