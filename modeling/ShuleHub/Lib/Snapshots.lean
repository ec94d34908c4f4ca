import ShuleHub.Lib.Processes
import ShuleHub.Lib.Runs
import ShuleHub.Lib.Transaction

/-! READ COMMITTED transactions in any interleaving. A row that a statement locks stays as the statement found it
until the transaction ends, so a transaction acts as a whole on the tables at its commit. Only what a statement reads
without a lock may be older: it is what was committed when the statement began. -/

namespace Snapshots

open Runs

structure Session (Db : Type) where
  tables : Db
  /-- What the others have committed. -/
  committed : Db
  /-- What was committed when each of the coming unlocked reads began, as far as they have begun. -/
  snapshots : List Db

section Sessions

variable {Db Error A : Type} {action : Transaction Db Error A} {seen : Db} {measure : Db → Nat} {sum : Nat}

def Session.begun (db : Db) (snapshots : List Db) : Session Db := ⟨db, db, snapshots⟩

def onTables (action : Transaction Db Error A) : Transaction (Session Db) Error A :=
  Transaction.zoom (·.tables) (fun session tables => { session with tables }) action

def snapshot : Transaction (Session Db) Error Db := fun session =>
  match session.snapshots with
  | [] => .ok (session.committed, session)
  | first :: rest => .ok (first, { session with snapshots := rest })

/-- A sum that the next statement takes over the rows of its snapshot and those of its own transaction. -/
def visibleTotal (measure : Db → Nat) : Transaction (Session Db) Error Nat := do
  let session ← Transaction.current
  let seen ← snapshot
  return measure seen + measure session.tables - measure session.committed

variable {session after : Session Db} {result : A}

@[simp] theorem run_onTables_ok :
    (onTables action).run session = .ok (result, after) ↔
      ∃ tables, action.run session.tables = .ok (result, tables) ∧ after = { session with tables } :=
  Transaction.run_zoom_ok

theorem run_onTables_error {error : Error} :
    (onTables action).run session = .error error ↔ action.run session.tables = .error error :=
  Transaction.run_zoom_error

/-- The session once the next unlocked read is over. -/
def Session.rest (session : Session Db) : Session Db := { session with snapshots := session.snapshots.tail }

@[simp] theorem Session.rest_tables : session.rest.tables = session.tables := rfl

theorem snapshot_ok :
    (snapshot : Transaction (Session Db) Error Db).run session = .ok (seen, after) ↔
      session.snapshots.headD session.committed = seen ∧ session.rest = after := by
  obtain ⟨tables, committed, snapshots⟩ := session
  cases snapshots <;> simp [snapshot, Transaction.run, Session.rest]

theorem visibleTotal_ok :
    (visibleTotal measure : Transaction (Session Db) Error Nat).run session = .ok (sum, after) ↔
      measure (session.snapshots.headD session.committed) + measure session.tables - measure session.committed = sum ∧
        session.rest = after := by
  simp only [visibleTotal, Transaction.run_bind_ok, Transaction.run_current_ok, Transaction.run_pure_ok, snapshot_ok]
  constructor
  · rintro ⟨_, _, ⟨rfl, rfl⟩, _, _, ⟨rfl, rfl⟩, rfl, rfl⟩
    exact ⟨rfl, rfl⟩
  · rintro ⟨rfl, rfl⟩
    exact ⟨_, _, ⟨rfl, rfl⟩, _, _, ⟨rfl, rfl⟩, rfl, rfl⟩

theorem run_snapshot_ok (read : (snapshot : Transaction (Session Db) Error Db).run session = .ok (seen, after)) :
    after.tables = session.tables ∧ after.committed = session.committed := by
  obtain ⟨-, rfl⟩ := snapshot_ok.mp read
  exact ⟨rfl, rfl⟩

theorem Session.rest_of_alone (alone : session.snapshots = []) : session.rest = session := by
  rw [Session.rest, alone]
  exact congrArg _ alone.symm

theorem snapshot_of_alone
    (read : (snapshot : Transaction (Session Db) Error Db).run session = .ok (seen, after))
    (alone : session.snapshots = []) :
    seen = session.committed ∧ after = session := by
  obtain ⟨rfl, rfl⟩ := snapshot_ok.mp read
  rw [Session.rest_of_alone alone, alone]
  exact ⟨rfl, rfl⟩

theorem visibleTotal_of_alone
    (read : (visibleTotal measure : Transaction (Session Db) Error Nat).run session = .ok (sum, after))
    (alone : session.snapshots = []) :
    sum = measure session.tables ∧ after = session := by
  obtain ⟨rfl, rfl⟩ := visibleTotal_ok.mp read
  rw [Session.rest_of_alone alone, alone]
  exact ⟨Nat.add_sub_cancel_left _ _, rfl⟩

theorem run_visibleTotal_ok
    (read : (visibleTotal measure : Transaction (Session Db) Error Nat).run session = .ok (sum, after)) :
    after.tables = session.tables ∧ after.committed = session.committed := by
  obtain ⟨-, rfl⟩ := visibleTotal_ok.mp read
  exact ⟨rfl, rfl⟩

/-- What a statement leaves to the statements after it: the reads still to come are among those that were. -/
structure Session.Continues (session after : Session Db) : Prop where
  committed : after.committed = session.committed
  snapshots : ∀ seen ∈ after.snapshots, seen ∈ session.snapshots

theorem Session.rest_continues : session.Continues session.rest :=
  ⟨rfl, fun _ later => List.mem_of_mem_tail later⟩

theorem Session.head_source (session : Session Db) : session.snapshots.headD session.committed = session.committed ∨
    session.snapshots.headD session.committed ∈ session.snapshots := by
  cases session.snapshots with
  | nil => exact .inl rfl
  | cons first rest => exact .inr (List.mem_cons_self ..)

theorem snapshot_continues
    (read : (snapshot : Transaction (Session Db) Error Db).run session = .ok (seen, after)) :
    (seen = session.committed ∨ seen ∈ session.snapshots) ∧ session.Continues after := by
  obtain ⟨rfl, rfl⟩ := snapshot_ok.mp read
  exact ⟨session.head_source, Session.rest_continues⟩

theorem snapshot_head
    (read : (snapshot : Transaction (Session Db) Error Db).run session = .ok (seen, after)) :
    seen = session.snapshots.headD session.committed :=
  (snapshot_ok.mp read).1.symm

theorem visibleTotal_continues
    (read : (visibleTotal measure : Transaction (Session Db) Error Nat).run session = .ok (sum, after)) :
    session.Continues after := by
  obtain ⟨-, rfl⟩ := visibleTotal_ok.mp read
  exact Session.rest_continues

theorem visibleTotal_ge
    (read : (visibleTotal measure : Transaction (Session Db) Error Nat).run session = .ok (sum, after))
    (shown : ∀ seen ∈ session.snapshots, measure session.committed ≤ measure seen) :
    measure session.tables ≤ sum := by
  obtain ⟨rfl, rfl⟩ := visibleTotal_ok.mp read
  have enough : measure session.committed ≤ measure (session.snapshots.headD session.committed) := by
    rcases session.head_source with source | member
    · exact Nat.le_of_eq (congrArg measure source.symm)
    · exact shown _ member
  omega

end Sessions

variable {Db Request Error Result : Type}

structure InFlight (Db Request : Type) where
  request : Request
  snapshots : List Db

structure Finished (Db Request Error Result : Type) where
  request : Request
  before : Db
  after : Db
  outcome : Except Error Result

structure World (Db Request Error Result : Type) where
  db : Db
  inFlight : List (InFlight Db Request)
  finished : List (Finished Db Request Error Result)

def World.idle (db : Db) : World Db Request Error Result := ⟨db, [], []⟩

/-- In `read` the next unlocked read of a transaction begins. -/
inductive Event (Request : Type) where
  | begin (request : Request)
  | read (index : Nat)
  | commit (index : Nat)
  | abort (index : Nat)
deriving DecidableEq

variable (program : Request → Transaction (Session Db) Error Result)

def settle (transaction : InFlight Db Request) (db : Db) : Db × Except Error Result :=
  match (program transaction.request).run (.begun db transaction.snapshots) with
  | .ok (result, session) => (session.tables, .ok result)
  | .error error => (db, .error error)

def commitAt (world : World Db Request Error Result) (index : Nat) (transaction : InFlight Db Request) :
    World Db Request Error Result :=
  let settled := settle program transaction world.db
  { db := settled.1
    inFlight := world.inFlight.eraseIdx index
    finished := world.finished ++ [⟨transaction.request, world.db, settled.1, settled.2⟩] }

@[grind =] def step (world : World Db Request Error Result) : Event Request → World Db Request Error Result
  | .begin request => { world with inFlight := world.inFlight ++ [⟨request, []⟩] }
  | .read index =>
    { world with
      inFlight := world.inFlight.modify index fun transaction =>
        { transaction with snapshots := transaction.snapshots ++ [world.db] } }
  | .commit index =>
    match world.inFlight[index]? with
    | none => world
    | some transaction => commitAt program world index transaction
  | .abort index => { world with inFlight := world.inFlight.eraseIdx index }

def alone (world : World Db Request Error Result) (request : Request) : World Db Request Error Result :=
  commitAt program world world.inFlight.length ⟨request, []⟩

/-- A condition on each transaction that commits and on the tables at that moment. -/
def Committing (guard : InFlight Db Request → Db → Prop) (world : World Db Request Error Result) :
    Event Request → Prop
  | .commit index =>
    match world.inFlight[index]? with
    | none => True
    | some transaction => guard transaction world.db
  | _ => True

instance decidableCommitting (guard : InFlight Db Request → Db → Prop)
    [decision : ∀ transaction db, Decidable (guard transaction db)] (world : World Db Request Error Result) :
    (event : Event Request) → Decidable (Committing guard world event)
  | .begin _ => instDecidableTrue
  | .read _ => instDecidableTrue
  | .abort _ => instDecidableTrue
  | .commit index =>
    match found : world.inFlight[index]? with
    | none => isTrue (by simp [Committing, found])
    | some transaction =>
      decidable_of_iff (guard transaction world.db) (by simp [Committing, found])

section Rules

variable {program} {guard : InFlight Db Request → Db → Prop} {transaction : InFlight Db Request} {db : Db}
  {property : Db → List (Finished Db Request Error Result) → Prop} {stable : Db → Prop}
  {events : List (Event Request)}

theorem settle_of_ok {result : Result} {session : Session Db}
    (succeeded : (program transaction.request).run (.begun db transaction.snapshots) = .ok (result, session)) :
    settle program transaction db = (session.tables, .ok result) := by
  simp only [settle, succeeded]

theorem settle_cases (motive : Db × Except Error Result → Prop)
    (fails : ∀ error, motive (db, .error error))
    (succeeds : ∀ result session,
      (program transaction.request).run (.begun db transaction.snapshots) = .ok (result, session) →
        motive (session.tables, .ok result)) : motive (settle program transaction db) := by
  unfold settle
  split
  · next result session succeeded => exact succeeds result session succeeded
  · next error failed => exact fails error

theorem settle_preserves {property : Db → Prop} (before : property db)
    (succeeds : ∀ result session,
      (program transaction.request).run (.begun db transaction.snapshots) = .ok (result, session) →
        property session.tables) : property (settle program transaction db).1 :=
  settle_cases (fun settled => property settled.1) (fun _ => before) succeeds

/-- The tables, and what the snapshots of the transactions in flight have to do with them. -/
structure Known (since : Db → Db → Prop) (property : Db → List (Finished Db Request Error Result) → Prop)
    (world : World Db Request Error Result) : Prop where
  holds : property world.db world.finished
  seen : ∀ transaction ∈ world.inFlight, ∀ db ∈ transaction.snapshots, since db world.db

theorem known_idle {since : Db → Db → Prop}
    (initial : property db []) : Known since property (World.idle db : World Db Request Error Result) :=
  ⟨initial, by simp [World.idle]⟩

theorem step_known (since : Db → Db → Prop)
    (lasting : ∀ db finished, property db finished → since db db)
    (grows : ∀ transaction db finished, property db finished → guard transaction db → ∀ seen, since seen db →
      since seen (settle program transaction db).1)
    (kept : ∀ transaction db finished, property db finished → (∀ seen ∈ transaction.snapshots, since seen db) →
      guard transaction db → property (settle program transaction db).1 (finished ++
        [⟨transaction.request, db, (settle program transaction db).1, (settle program transaction db).2⟩]))
    (world : World Db Request Error Result) (event : Event Request) (known : Known since property world)
    (meets : Committing guard world event) : Known since property (step program world event) := by
  cases event with
  | begin request =>
    refine ⟨known.holds, fun transaction member => ?_⟩
    rcases List.mem_append.mp member with old | new
    · exact known.seen transaction old
    · rw [List.mem_singleton.mp new]
      simp
  | read index =>
    refine ⟨known.holds, fun transaction member => ?_⟩
    obtain ⟨place, found⟩ := List.getElem?_of_mem member
    obtain ⟨before, old, changed⟩ := Processes.modified found
    have earlier := known.seen before (List.mem_of_getElem? old)
    rcases changed with ⟨-, rfl⟩ | ⟨-, rfl⟩
    · intro db shown
      rcases List.mem_append.mp shown with old | new
      · exact earlier db old
      · rw [List.mem_singleton.mp new]
        exact lasting world.db world.finished known.holds
    · exact earlier
  | commit index =>
    simp only [Committing] at meets
    simp only [step]
    split
    · exact known
    · next transaction found =>
      rw [found] at meets
      constructor
      · exact kept transaction world.db world.finished known.holds
          (known.seen transaction (List.mem_of_getElem? found)) meets
      · intro other member seen shown
        apply grows transaction world.db world.finished known.holds meets
        exact known.seen other (List.mem_of_mem_eraseIdx member) seen shown
  | abort index => exact ⟨known.holds, fun other member => known.seen other (List.mem_of_mem_eraseIdx member)⟩

theorem along_of_commits (invariant property : Db → List (Finished Db Request Error Result) → Prop)
    (lasting : ∀ db finished, invariant db finished → stable db)
    (kept : ∀ transaction db finished, invariant db finished → (∀ seen ∈ transaction.snapshots, stable seen) →
      guard transaction db → invariant (settle program transaction db).1 (finished ++
        [⟨transaction.request, db, (settle program transaction db).1, (settle program transaction db).2⟩]))
    (implied : ∀ db finished, invariant db finished → property db finished)
    (initial : invariant db [])
    (admitted : Meets (step program) (Committing guard) (World.idle db : World Db Request Error Result) events) :
    Along (step program) (fun world => property world.db world.finished) (World.idle db) events :=
  along_of_meets (step_known (fun seen _ => stable seen) lasting (fun _ _ _ _ _ _ shown => shown) kept)
    (fun _ known => implied _ _ known.holds) (known_idle initial) admitted

theorem along_iff_grown (since : Db → Db → Prop) (invariant property : Db → List (Finished Db Request Error Result) → Prop)
    (lasting : ∀ db finished, invariant db finished → since db db)
    (grows : ∀ transaction db finished, invariant db finished → guard transaction db → ∀ seen, since seen db →
      since seen (settle program transaction db).1)
    (kept : ∀ transaction db finished, invariant db finished → (∀ seen ∈ transaction.snapshots, since seen db) →
      guard transaction db → invariant (settle program transaction db).1 (finished ++
        [⟨transaction.request, db, (settle program transaction db).1, (settle program transaction db).2⟩]))
    (implied : ∀ db finished, invariant db finished → property db finished)
    (broken : ∀ transaction db finished, invariant db finished → (∀ seen ∈ transaction.snapshots, since seen db) →
      ¬ guard transaction db → ¬ property (settle program transaction db).1 (finished ++
        [⟨transaction.request, db, (settle program transaction db).1, (settle program transaction db).2⟩])) (events : List (Event Request)) (initial : invariant db []) :
    Along (step program) (fun world => property world.db world.finished) (World.idle db) events ↔
      Meets (step program) (Committing guard) (World.idle db : World Db Request Error Result) events := by
  refine along_iff_meets (step_known since lasting grows kept) (fun _ known => implied _ _ known.holds)
    (fun world event known fails => ?_) events (known_idle initial)
  cases event with
  | commit index =>
    simp only [Committing] at fails
    simp only [step]
    split
    · next absent =>
      rw [absent] at fails
      exact absurd trivial fails
    · next transaction found =>
      rw [found] at fails
      exact broken transaction world.db world.finished known.holds
        (known.seen transaction (List.mem_of_getElem? found)) fails
  | _ => exact absurd trivial fails

theorem along_iff_commits (invariant property : Db → List (Finished Db Request Error Result) → Prop)
    (lasting : ∀ db finished, invariant db finished → stable db)
    (kept : ∀ transaction db finished, invariant db finished → (∀ seen ∈ transaction.snapshots, stable seen) →
      guard transaction db → invariant (settle program transaction db).1 (finished ++
        [⟨transaction.request, db, (settle program transaction db).1, (settle program transaction db).2⟩]))
    (implied : ∀ db finished, invariant db finished → property db finished)
    (broken : ∀ transaction db finished, invariant db finished → (∀ seen ∈ transaction.snapshots, stable seen) →
      ¬ guard transaction db → ¬ property (settle program transaction db).1 (finished ++
        [⟨transaction.request, db, (settle program transaction db).1, (settle program transaction db).2⟩])) (events : List (Event Request)) (initial : invariant db []) :
    Along (step program) (fun world => property world.db world.finished) (World.idle db) events ↔
      Meets (step program) (Committing guard) (World.idle db : World Db Request Error Result) events :=
  along_iff_grown (fun seen _ => stable seen) invariant property lasting (fun _ _ _ _ _ _ shown => shown) kept
    implied broken events initial

/-- A law about each transaction, from an invariant of the tables: the snapshots have it too. -/
theorem along_of_laws (invariant : Db → Prop) (law : Request → Db → Db → Prop)
    (kept : ∀ transaction db, invariant db → (∀ seen ∈ transaction.snapshots, invariant seen) → guard transaction db →
      invariant (settle program transaction db).1 ∧ law transaction.request db (settle program transaction db).1) (initial : invariant db)
    (admitted : Meets (step program) (Committing guard) (World.idle db : World Db Request Error Result) events) :
    Along (step program)
      (fun world => invariant world.db ∧ ∀ done ∈ world.finished, law done.request done.before done.after)
      (World.idle db) events := by
  apply along_of_commits
    (fun db finished => invariant db ∧ ∀ done ∈ finished, law done.request done.before done.after)
    (fun db finished => invariant db ∧ ∀ done ∈ finished, law done.request done.before done.after)
    (fun db finished inv => inv.1) _ (fun _ _ inv => inv) ⟨initial, by simp⟩ admitted
  intro transaction db finished inv seen admits
  obtain ⟨holds, lawful⟩ := kept transaction db inv.1 seen admits
  refine ⟨holds, fun done member => ?_⟩
  rcases List.mem_append.mp member with old | new
  · exact inv.2 done old
  · rw [List.mem_singleton.mp new]
    exact lawful

theorem along_of_alone {admits : Request → Db → Prop}
    (invariant property : Db → List (Finished Db Request Error Result) → Prop)
    (kept : ∀ request db finished, invariant db finished → admits request db →
      invariant (settle program ⟨request, []⟩ db).1 (finished ++
        [⟨request, db, (settle program ⟨request, []⟩ db).1, (settle program ⟨request, []⟩ db).2⟩]))
    (implied : ∀ db finished, invariant db finished → property db finished) {requests : List Request}
    (initial : invariant db [])
    (admitted : Meets (alone program) (fun world request => admits request world.db)
      (World.idle db : World Db Request Error Result) requests) :
    Along (alone program) (fun world => property world.db world.finished) (World.idle db) requests := by
  have preserved (world : World Db Request Error Result) (request : Request)
      (known : Known (fun _ _ => True) invariant world) (admits : admits request world.db) :
      Known (fun _ _ => True) invariant (alone program world request) :=
    ⟨kept request world.db world.finished known.holds admits, fun _ _ _ _ => trivial⟩
  exact along_of_meets preserved (fun world known => implied world.db world.finished known.holds)
    (known_idle initial) admitted

end Rules

end Snapshots
