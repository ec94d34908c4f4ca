import ShuleHub.Lib.Transaction

/-! Actions on a state that a failure does not undo: what was done before it stays done. -/

def Effect (State Error Result : Type) := State → State × Except Error Result

namespace Effect

variable {State Part Error A B : Type}
  {first : Effect State Error A} {next : A → Effect State Error B} {state middle after : State}
  {value result : A} {error : Error} {condition : Prop} {get : State → Part} {put : State → Part → State}
  {cleanup : Effect State Error Unit} (action : Effect State Error A)

def run (state : State) : State × Except Error A := action state

instance : Monad (Effect State Error) where
  pure value := fun state => (state, .ok value)
  bind first next := fun state =>
    match first state with
    | (middle, .ok value) => next value middle
    | (middle, .error error) => (middle, .error error)

instance : MonadLift (Except Error) (Effect State Error) where
  monadLift check := fun state => (state, check)

instance : Failing Error (Effect State Error) where
  fail error := fun state => (state, .error error)

def current : Effect State Error State := fun state => (state, .ok state)

def write (update : State → State) : Effect State Error Unit := fun state => (update state, .ok ())

def zoom (get : State → Part) (put : State → Part → State) (action : Effect Part Error A) : Effect State Error A :=
  fun state => (put state (action.run (get state)).1, (action.run (get state)).2)

def attempt : Effect State Error (Except Error A) :=
  fun state => ((action.run state).1, .ok (action.run state).2)

def transact (action : Transaction State Error A) : Effect State Error A := fun state => action.attempt state

def onFailure (cleanup : Effect State Error Unit) : Effect State Error A := fun state =>
  match action.run state with
  | (after, .ok result) => (after, .ok result)
  | (after, .error error) =>
    match cleanup.run after with
    | (last, outcome) => (last, .error (match outcome with
      | .ok () => error
      | .error other => other))

def rollingBack (get : State → Part) (put : State → Part → State) (action : Effect State Error A) :
    Effect State Error A := fun state =>
  match action.run state with
  | (after, .ok result) => (after, .ok result)
  | (after, .error error) => (put after (get state), .error error)

variable {action}

@[simp] theorem run_pure (value : A) (state : State) :
    (pure value : Effect State Error A).run state = (state, .ok value) := rfl

@[simp] theorem run_lift (check : Except Error A) (state : State) :
    (monadLift check : Effect State Error A).run state = (state, check) := rfl

@[simp] theorem run_fail (error : Error) (state : State) :
    (fail error : Effect State Error A).run state = (state, .error error) := rfl

@[simp] theorem run_current (state : State) : (current : Effect State Error State).run state = (state, .ok state) := rfl

@[simp] theorem run_write (update : State → State) (state : State) :
    (write update : Effect State Error Unit).run state = (update state, .ok ()) := rfl

theorem run_bind (first : Effect State Error A) (next : A → Effect State Error B) (state : State) :
    (first >>= next).run state =
      match first.run state with
      | (middle, .ok value) => (next value).run middle
      | (middle, .error error) => (middle, .error error) := rfl

theorem run_bind_of_ok
    (ran : first.run state = (middle, .ok value)) : (first >>= next).run state = (next value).run middle := by
  rw [run_bind, ran]

theorem run_bind_of_error (failed : first.run state = (middle, .error error)) :
    (first >>= next).run state = (middle, .error error) := by
  rw [run_bind, failed]

theorem run_bind_ok {result : B} :
    (first >>= next).run state = (after, .ok result) ↔
      ∃ value middle, first.run state = (middle, .ok value) ∧ (next value).run middle = (after, .ok result) := by
  rw [run_bind]
  rcases first.run state with ⟨middle, value | value⟩ <;> simp

theorem state_bind {property : State → Prop} (head : property (first.run state).1)
    (tail : ∀ value middle, property middle → property ((next value).run middle).1) :
    property ((first >>= next).run state).1 := by
  rcases ran : first.run state with ⟨middle, error | value⟩
  · rw [run_bind_of_error ran]
    rw [ran] at head
    exact head
  · rw [run_bind_of_ok ran]
    rw [ran] at head
    exact tail value middle head

theorem run_failIf (condition : Prop) [Decidable condition] (error : Error) (state : State) :
    (failIf condition error : Effect State Error Unit).run state =
      (state, if condition then .error error else .ok ()) := by
  unfold failIf
  split <;> rfl

theorem run_bind_lift_ok (value : A) (next : A → Effect State Error B) (state : State) :
    ((monadLift (Except.ok value : Except Error A) : Effect State Error A) >>= next).run state = (next value).run state :=
  rfl

theorem run_bind_write (update : State → State) (next : Unit → Effect State Error B) (state : State) :
    (write update >>= next).run state = (next ()).run (update state) := rfl

theorem run_bind_failIf_of_not [Decidable condition] (holds : ¬ condition) (error : Error)
    (next : Unit → Effect State Error B) (state : State) :
    (failIf condition error >>= next).run state = (next ()).run state := by
  rw [run_bind, run_failIf, if_neg holds]

theorem run_bind_failIf_of [Decidable condition] (fails : condition) (error : Error)
    (next : Unit → Effect State Error B) (state : State) :
    (failIf condition error >>= next).run state = (state, .error error) := by
  rw [run_bind, run_failIf, if_pos fails]

theorem run_bind_congr {other : Effect State Error A} {start : State}
    (same : first.run state = other.run start) : (first >>= next).run state = (other >>= next).run start := by
  rw [run_bind, run_bind, same]

theorem run_bind_pure_bind (first : Effect State Error A) (value : B) {C : Type} (next : B → Effect State Error C)
    (state : State) : ((first >>= fun _ => pure value) >>= next).run state = (first >>= fun _ => next value).run state := by
  rw [run_bind, run_bind, run_bind]
  rcases first.run state with ⟨middle, _ | _⟩ <;> rfl

theorem run_bind_unit (action : Effect State Error Unit) (state : State) :
    (action >>= fun _ => pure ()).run state = action.run state := by
  rw [run_bind]
  rcases action.run state with ⟨middle, _ | _⟩ <;> rfl

theorem run_pure_ok :
    (pure value : Effect State Error A).run state = (after, .ok result) ↔ value = result ∧ state = after := by
  rw [run_pure, Prod.mk.injEq, Except.ok.injEq, and_comm]

theorem run_lift_ok {check : Except Error A} :
    (monadLift check : Effect State Error A).run state = (after, .ok result) ↔ check = .ok result ∧ state = after := by
  rw [run_lift, Prod.mk.injEq, and_comm]

theorem run_write_ok {update : State → State} {result : Unit} :
    (write update : Effect State Error Unit).run state = (after, .ok result) ↔ update state = after := by
  simp only [run_write, Prod.mk.injEq, and_true]

theorem run_failIf_ok [Decidable condition] {result : Unit} :
    (failIf condition error : Effect State Error Unit).run state = (after, .ok result) ↔ ¬ condition ∧ state = after := by
  rw [run_failIf]
  split <;> simp [*]

theorem run_zoom (get : State → Part) (put : State → Part → State) (action : Effect Part Error A) (state : State) :
    (zoom get put action).run state = (put state (action.run (get state)).1, (action.run (get state)).2) := rfl

theorem run_attempt (action : Effect State Error A) (state : State) :
    (attempt action).run state = ((action.run state).1, .ok (action.run state).2) := rfl

theorem run_attempt_ok {outcome : Except Error A} :
    (attempt action).run state = (after, .ok outcome) ↔ action.run state = (after, outcome) := by
  rw [run_attempt, Prod.mk.injEq, Except.ok.injEq, Prod.ext_iff]

theorem run_rollingBack_of_error (failed : action.run state = (after, .error error)) :
    (rollingBack get put action).run state = (put after (get state), .error error) := by
  rw [run, rollingBack, failed]

theorem run_rollingBack_of_ok (ran : action.run state = (after, .ok result)) :
    (rollingBack get put action).run state = (after, .ok result) := by
  rw [run, rollingBack, ran]

theorem run_onFailure_of_ok (ran : action.run state = (after, .ok result)) :
    (onFailure action cleanup).run state = (after, .ok result) := by
  rw [run, onFailure, ran]

theorem run_onFailure_of_error (failed : action.run state = (after, .error error)) :
    ∃ last, (onFailure action cleanup).run state = ((cleanup.run after).1, .error last) := by
  rw [run, onFailure, failed]
  exact ⟨_, rfl⟩

theorem run_transact (action : Transaction State Error A) (state : State) :
    (transact action).run state = action.attempt state := rfl

theorem run_transact_of_ok {action : Transaction State Error A}
    (ran : action.run state = .ok (result, after)) : (transact action).run state = (after, .ok result) :=
  Transaction.attempt_ok.mpr ran

def Keeps {Observed : Type} (observe : State → Observed) (action : Effect State Error A) : Prop :=
  ∀ state, observe (action.run state).1 = observe state

section Keeps

variable {Observed : Type} {observe : State → Observed}
  {first : Effect State Error A} {next : A → Effect State Error B} {state : State}

theorem keeps_pure (value : A) : Keeps observe (pure value : Effect State Error A) := fun _ => rfl

theorem keeps_lift (check : Except Error A) : Keeps observe (monadLift check : Effect State Error A) := fun _ => rfl

theorem keeps_failIf (condition : Prop) [Decidable condition] (error : Error) :
    Keeps observe (failIf condition error : Effect State Error Unit) := by
  intro state
  rw [run_failIf]

theorem keeps_zoom {get : State → Part} {put : State → Part → State} (action : Effect Part Error A)
    (unobserved : ∀ state part, observe (put state part) = observe state) : Keeps observe (zoom get put action) :=
  fun state => unobserved state _

theorem Keeps.bind (head : Keeps observe first)
    (tail : ∀ value, Keeps observe (next value)) : Keeps observe (first >>= next) := by
  intro state
  rcases ran : first.run state with ⟨middle, error | value⟩
  · rw [run_bind_of_error ran, ← head state, ran]
  · rw [run_bind_of_ok ran, tail value middle, ← head state, ran]

theorem Keeps.changed_bind
    (head : Keeps observe first)
    (changed : observe ((first >>= next).run state).1 ≠ observe state) :
    ∃ value middle, first.run state = (middle, .ok value) ∧ observe middle = observe state ∧
      observe ((next value).run middle).1 ≠ observe middle := by
  have kept : observe (first.run state).1 = observe state := head state
  rcases ran : first.run state with ⟨middle, error | value⟩
  · rw [run_bind_of_error ran] at changed
    rw [ran] at kept
    exact absurd kept changed
  · rw [run_bind_of_ok ran] at changed
    rw [ran] at kept
    exact ⟨value, middle, rfl, kept, kept ▸ changed⟩

theorem changed_bind_lift {check : Except Error A}
    (changed : observe (((monadLift check : Effect State Error A) >>= next).run state).1 ≠ observe state) :
    ∃ value, check = .ok value ∧ observe ((next value).run state).1 ≠ observe state := by
  obtain ⟨value, middle, checked, -, changed⟩ := (keeps_lift check).changed_bind changed
  obtain ⟨succeeds, rfl⟩ := run_lift_ok.mp checked
  exact ⟨value, succeeds, changed⟩

theorem changed_bind_failIf {condition : Prop} [Decidable condition] {error : Error}
    {next : Unit → Effect State Error B}
    (changed : observe (((failIf condition error : Effect State Error Unit) >>= next).run state).1 ≠ observe state) :
    ¬ condition ∧ observe ((next ()).run state).1 ≠ observe state := by
  obtain ⟨_, middle, checked, -, changed⟩ := (keeps_failIf condition error).changed_bind changed
  obtain ⟨holds, rfl⟩ := run_failIf_ok.mp checked
  exact ⟨holds, changed⟩

theorem state_bind_pure (first : Effect State Error A) (value : A → B) (state : State) :
    ((first >>= fun result => pure (value result)).run state).1 = (first.run state).1 := by
  rw [run_bind]
  rcases first.run state with ⟨middle, _ | _⟩ <;> rfl

end Keeps

def Preserves (property : State → Prop) (action : Effect State Error A) : Prop :=
  ∀ state, property state → property (action.run state).1

section Preserves

variable {property : State → Prop} {action : Effect State Error A}

theorem preserves_pure (value : A) : Preserves property (pure value : Effect State Error A) := fun _ holds => holds

theorem preserves_lift (check : Except Error A) : Preserves property (monadLift check : Effect State Error A) :=
  fun _ holds => holds

theorem preserves_fail (error : Error) : Preserves property (fail error : Effect State Error A) := fun _ holds => holds

theorem preserves_current : Preserves property (current : Effect State Error State) := fun _ holds => holds

theorem preserves_failIf (condition : Prop) [Decidable condition] (error : Error) :
    Preserves property (failIf condition error : Effect State Error Unit) := by
  intro state holds
  rw [run_failIf]
  exact holds

theorem preserves_write {update : State → State} (kept : ∀ state, property state → property (update state)) :
    Preserves property (write update : Effect State Error Unit) := kept

theorem preserves_transact {action : Transaction State Error A}
    (succeeds : ∀ state result after, property state → action.run state = .ok (result, after) → property after) :
    Preserves property (transact action) := by
  intro state holds
  rw [run_transact, Transaction.attempt]
  split
  · next result after ran => exact succeeds state result after holds ran
  · exact holds

theorem Preserves.bind {first : Effect State Error A} {next : A → Effect State Error B} (head : Preserves property first)
    (tail : ∀ value, Preserves property (next value)) : Preserves property (first >>= next) :=
  fun state holds => state_bind (head state holds) fun value middle => tail value middle

theorem Preserves.attempt (kept : Preserves property action) :
    Preserves property (attempt action) := kept

theorem Preserves.undone (kept : Preserves property action) :
    Preserves property (rollingBack id (fun _ before => before) action) := by
  intro state holds
  rcases ran : action.run state with ⟨after, error | result⟩
  · rw [run_rollingBack_of_error ran]
    exact holds
  · rw [run_rollingBack_of_ok ran]
    have reached := kept state holds
    rw [ran] at reached
    exact reached

end Preserves

end Effect
