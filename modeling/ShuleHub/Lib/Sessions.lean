import ShuleHub.Lib.Effects

/-! Statements that run on the client of a request: in the transaction that the request has open, or else each in one
of its own. No action here goes on after a statement of its transaction has failed. -/

structure Stores (Db Outside : Type) where
  committed : Db
  outside : Outside

/-- `client` is what the open transaction of the request makes of the database. -/
structure Session (Db Outside : Type) extends Stores Db Outside where
  client : Option Db

namespace Session

open Effect

variable {Db Outside Part Error A B : Type} {session : Session Db Outside}

def query (statement : Transaction Db Error A) : Effect (Session Db Outside) Error A := fun session =>
  match session.client with
  | some db =>
    match statement.run db with
    | .ok (result, after) => ({ session with client := some after }, .ok result)
    | .error error => (session, .error error)
  | none =>
    match statement.run session.committed with
    | .ok (result, after) => ({ session with committed := after }, .ok result)
    | .error error => (session, .error error)

/-- `BEGIN` on a client, the action, and `COMMIT` or `ROLLBACK`; in a transaction that is open, only the action. -/
def withTransaction (action : Effect (Session Db Outside) Error A) : Effect (Session Db Outside) Error A :=
  fun session =>
    match session.client with
    | some _ => action.run session
    | none =>
      match action.run { session with client := some session.committed } with
      | (after, .ok result) => ({ after with committed := after.client.getD after.committed, client := none }, .ok result)
      | (after, .error error) => ({ after with client := none }, .error error)

def onOutside (action : Effect Outside Error A) : Effect (Session Db Outside) Error A :=
  Effect.zoom (·.outside) (fun session outside => { session with outside }) action

def inContext (action : Effect (Session Db Outside) Error A) : Effect (Stores Db Outside) Error A := fun stores =>
  ((action.run { stores with client := none }).1.toStores, (action.run { stores with client := none }).2)

/-- A part of a state that can be read and replaced. -/
structure IsPart (part : Db → Part) (update : Db → Part → Db) : Prop where
  part_update : ∀ db value, part (update db value) = value
  update_part : ∀ db, update db (part db) = db
  update_update : ∀ db first second, update (update db first) second = update db second

/-- On an open client the action does what the transaction does to a part of the database, and nothing else. Where
the transaction fails, so does the action, with nothing committed. -/
def Simulates (part : Db → Part) (update : Db → Part → Db) (action : Effect (Session Db Outside) Error A)
    (transaction : Transaction Part Error A) : Prop :=
  ∀ session db, session.client = some db →
    match transaction.run (part db) with
    | .ok (result, value) => action.run session = ({ session with client := some (update db value) }, .ok result)
    | .error _ => ∃ after error, action.run session = (after, .error error) ∧ after.committed = session.committed

section Simulates

variable {part : Db → Part} {update : Db → Part → Db}

theorem simulates_query (transaction : Transaction Part Error A) :
    Simulates part update (query (Transaction.zoom part update transaction) : Effect (Session Db Outside) Error A)
      transaction := by
  intro session db opened
  cases ran : transaction.run (part db) with
  | ok outcome =>
    have zoomed : (Transaction.zoom part update transaction).run db = .ok (outcome.1, update db outcome.2) :=
      Transaction.run_zoom_ok.mpr ⟨outcome.2, ran, rfl⟩
    simp only [run, query, opened]
    rw [zoomed]
  | error error =>
    have zoomed : (Transaction.zoom part update transaction).run db = .error error :=
      Transaction.run_zoom_error.mpr ran
    refine ⟨session, error, ?_, rfl⟩
    simp only [run, query, opened]
    rw [zoomed]

theorem simulates_fail (first second : Error) :
    Simulates part update (fail first : Effect (Session Db Outside) Error A) (fail second : Transaction Part Error A) :=
  fun session _ _ => ⟨session, first, rfl, rfl⟩

theorem simulates_pure (isPart : IsPart part update) (value : A) :
    Simulates part update (pure value : Effect (Session Db Outside) Error A)
      (pure value : Transaction Part Error A) := by
  intro session db opened
  rw [Transaction.run_pure]
  change (session, _) = _
  rw [isPart.update_part, ← opened]

theorem simulates_bind (isPart : IsPart part update) {first : Effect (Session Db Outside) Error A}
    {next : A → Effect (Session Db Outside) Error B} {head : Transaction Part Error A}
    {tail : A → Transaction Part Error B} (starts : Simulates part update first head)
    (follows : ∀ value, Simulates part update (next value) (tail value)) :
    Simulates part update (first >>= next) (head >>= tail) := by
  intro session db opened
  have started := starts session db opened
  rw [Transaction.run_bind]
  cases ran : head.run (part db) with
  | ok outcome =>
    obtain ⟨value, middle⟩ := outcome
    rw [ran] at started
    have rest := follows value { session with client := some (update db middle) } (update db middle) rfl
    rw [isPart.part_update] at rest
    rw [run_bind_of_ok started]
    cases last : (tail value).run middle with
    | ok result =>
      rw [last] at rest
      rw [rest]
      simp only [last, isPart.update_update]
    | error error =>
      rw [last] at rest
      simp only [last]
      exact rest
  | error error =>
    rw [ran] at started
    obtain ⟨after, thrown, failed, kept⟩ := started
    exact ⟨after, thrown, run_bind_of_error failed, kept⟩

theorem simulates_refusal {first : Effect (Session Db Outside) Error B}
    (kept : ∀ session db, session.client = some db → (first.run session).1.committed = session.committed)
    (thrown error : Error) :
    Simulates part update (first >>= fun _ => (fail thrown : Effect (Session Db Outside) Error A))
      (fail error : Transaction Part Error A) := by
  intro session db opened
  have stays := kept session db opened
  rcases ran : first.run session with ⟨after, failure | value⟩
  · rw [ran] at stays
    exact ⟨after, failure, run_bind_of_error ran, stays⟩
  · rw [ran] at stays
    exact ⟨after, thrown, run_bind_of_ok ran, stays⟩

theorem run_withTransaction (isPart : IsPart part update) {action : Effect (Session Db Outside) Error A}
    {transaction : Transaction Part Error A} (simulates : Simulates part update action transaction)
    {session : Session Db Outside} (idle : session.client = none) :
    ((withTransaction action).run session).1.committed =
        update session.committed (transaction.commit (part session.committed)) ∧
      ((withTransaction action).run session).1.client = none := by
  have simulated := simulates { session with client := some session.committed } session.committed rfl
  cases ran : transaction.run (part session.committed) with
  | ok outcome =>
    rw [ran] at simulated
    simp only [run, withTransaction, idle] at simulated ⊢
    rw [simulated, Transaction.commit_of_ok ran]
    exact ⟨rfl, rfl⟩
  | error error =>
    rw [ran] at simulated
    obtain ⟨after, thrown, failed, kept⟩ := simulated
    simp only [run, withTransaction, idle] at failed ⊢
    rw [failed, Transaction.commit_of_error ran, isPart.update_part]
    exact ⟨kept, rfl⟩

end Simulates

theorem query_of_open (statement : Transaction Db Error A) {db : Db}
    (opened : session.client = some db) :
    ((query statement).run session).1.committed = session.committed := by
  simp only [run, query, opened]
  cases statement.run db <;> rfl

theorem query_of_idle {Observed : Type} (observe : Db → Observed) (statement : Transaction Db Error A)
    (keeps : ∀ db result after, statement.run db = .ok (result, after) → observe after = observe db) (idle : session.client = none) :
    observe ((query statement).run session).1.committed = observe session.committed ∧
      ((query statement).run session).1.client = none := by
  simp only [run, query, idle]
  cases ran : statement.run session.committed with
  | ok outcome => exact ⟨keeps _ _ _ ran, rfl⟩
  | error error => exact ⟨rfl, idle⟩

end Session
