import ShuleHub.Lib.Effects

/-! The transaction that a request has open on its client, and what the request does elsewhere meanwhile. After a
statement has failed every later one of the transaction fails, and nothing of it is kept; what was done elsewhere
stays done. -/

structure OpenTransaction (Db Outside : Type) where
  db : Db
  aborted : Bool
  outside : Outside

namespace OpenTransaction

variable {Db Outside Part Error A B : Type}

variable {result : A} {db : Db} {error : Error} {next : A → Effect (OpenTransaction Db Outside) Error B}
  {outside : Outside}

def opened (db : Db) (outside : Outside) : OpenTransaction Db Outside := ⟨db, false, outside⟩

/-- A statement; `ignored` is the answer to one that comes after a failure. -/
def query (ignored : Error) (statement : Transaction Db Error A) : Effect (OpenTransaction Db Outside) Error A :=
  fun state =>
    if state.aborted then (state, .error ignored)
    else
      match statement.run state.db with
      | .ok (result, db) => ({ state with db }, .ok result)
      | .error error => ({ state with aborted := true }, .error error)

def onOutside (update : Outside → Outside) : Effect (OpenTransaction Db Outside) Error Unit :=
  Effect.write fun state => { state with outside := update state.outside }

def settle (state : OpenTransaction Db Outside) (rollback : Bool) (committed : Db) : Db :=
  if rollback ∨ state.aborted then committed else state.db

variable {ignored : Error} {statement : Transaction Db Error A} {state : OpenTransaction Db Outside}

theorem run_query_of_ok (sound : state.aborted = false)
    (ran : statement.run state.db = .ok (result, db)) :
    (query ignored statement).run state = ({ state with db }, .ok result) := by
  simp only [Effect.run, query, sound, Bool.false_eq_true, if_false]
  rw [ran]

theorem run_query_of_error (sound : state.aborted = false)
    (failed : statement.run state.db = .error error) :
    (query ignored statement).run state = ({ state with aborted := true }, .error error) := by
  simp only [Effect.run, query, sound, Bool.false_eq_true, if_false]
  rw [failed]

theorem run_query_of_aborted (aborted : state.aborted = true) :
    (query ignored statement).run state = (state, .error ignored) := by
  simp only [Effect.run, query, aborted, if_true]

theorem run_query_ok {after : OpenTransaction Db Outside} :
    (query ignored statement).run state = (after, .ok result) ↔
      state.aborted = false ∧ ∃ db, statement.run state.db = .ok (result, db) ∧ { state with db } = after := by
  constructor
  · intro ran
    cases aborted : state.aborted with
    | true =>
      rw [run_query_of_aborted aborted] at ran
      cases ran
    | false =>
      cases outcome : statement.run state.db with
      | error error =>
        rw [run_query_of_error aborted outcome] at ran
        cases ran
      | ok pair =>
        obtain ⟨value, db⟩ := pair
        rw [run_query_of_ok aborted outcome] at ran
        cases ran
        exact ⟨rfl, db, rfl, by rw [aborted]⟩
  · rintro ⟨sound, db, ran, rfl⟩
    exact run_query_of_ok sound ran

theorem run_bind_query {after : Db} (ran : statement.run db = .ok (result, after)) :
    (query ignored statement >>= next).run (opened db outside) = (next result).run (opened after outside) :=
  Effect.run_bind_of_ok (run_query_of_ok rfl ran)

theorem keeps_query (ignored : Error) (statement : Transaction Db Error A) :
    Effect.Keeps (fun state : OpenTransaction Db Outside => state.outside) (query ignored statement) := by
  intro state
  cases aborted : state.aborted with
  | true => rw [run_query_of_aborted aborted]
  | false =>
    cases outcome : statement.run state.db with
    | error error => rw [run_query_of_error aborted outcome]
    | ok pair =>
      obtain ⟨value, db⟩ := pair
      rw [run_query_of_ok aborted outcome]

theorem changed_bind_lift {check : Except Error A}
    (changed : (((monadLift check : Effect _ Error A) >>= next).run (opened db outside)).1.outside ≠ outside) :
    ∃ value, check = .ok value ∧ ((next value).run (opened db outside)).1.outside ≠ outside :=
  @Effect.changed_bind_lift _ _ _ _ _ OpenTransaction.outside _ _ _ changed

theorem changed_bind_failIf {condition : Prop} [Decidable condition]
    {next : Unit → Effect (OpenTransaction Db Outside) Error B}
    (changed : (((failIf condition error : Effect _ Error Unit) >>= next).run (opened db outside)).1.outside ≠ outside) :
    ¬ condition ∧ ((next ()).run (opened db outside)).1.outside ≠ outside :=
  @Effect.changed_bind_failIf _ _ _ _ OpenTransaction.outside _ _ _ _ _ changed

theorem changed_bind_query
    (changed : ((query ignored statement >>= next).run (opened db outside)).1.outside ≠ outside) :
    ∃ result after, statement.run db = .ok (result, after) ∧
      ((next result).run (opened after outside)).1.outside ≠ outside := by
  obtain ⟨result, middle, ran, -, changed⟩ := (keeps_query ignored statement).changed_bind changed
  obtain ⟨-, after, succeeded, rfl⟩ := run_query_ok.mp ran
  exact ⟨result, after, succeeded, changed⟩

theorem settle_rollback (committed : Db) : state.settle true committed = committed := by
  simp [settle]

theorem settle_commit (sound : state.aborted = false) (committed : Db) : state.settle false committed = state.db := by
  simp [settle, sound]

end OpenTransaction
