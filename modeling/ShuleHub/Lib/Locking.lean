import ShuleHub.Lib.Runs

/-! Concurrent requests that take locks in stages and keep them until they finish. When whatever a
request has read is covered by its locks, every interleaving is the serial run of its finished
requests in the order in which they finish. -/

namespace Locking

open Runs

structure Protocol (Db Request Lock View Result : Type) where
  start : Request → View
  /-- What a request knows after its next stage, which reads the committed tables. -/
  stage : Request → Nat → View → Db → View
  /-- The locks a request holds after so many stages. -/
  held : Request → Nat → View → List Lock
  ready : Request → Nat → View → Bool
  settle : Request → View → Db → Db × Result

structure InFlight (Request View : Type) where
  request : Request
  stages : Nat
  view : View

structure Finished (Db Request Result : Type) where
  request : Request
  before : Db
  after : Db
  result : Result

structure World (Db Request View Result : Type) where
  db : Db
  inFlight : List (InFlight Request View)
  finished : List (Finished Db Request Result)

inductive Event (Request : Type) where
  | begin (request : Request)
  | advance (index : Nat)
  | finish (index : Nat)
  | abort (index : Nat)

variable {Db Request Lock View Result : Type} (p : Protocol Db Request Lock View Result)

def World.idle (db : Db) : World Db Request View Result := ⟨db, [], []⟩

def locks (transaction : InFlight Request View) : List Lock :=
  p.held transaction.request transaction.stages transaction.view

def Apart (first second : InFlight Request View) : Prop := ∀ lock ∈ locks p first, lock ∉ locks p second

instance [DecidableEq Lock] (first second : InFlight Request View) : Decidable (Apart p first second) :=
  inferInstanceAs (Decidable (∀ lock ∈ _, _))

def next (transaction : InFlight Request View) (db : Db) : InFlight Request View :=
  ⟨transaction.request, transaction.stages + 1,
    p.stage transaction.request transaction.stages transaction.view db⟩

/-- A stage whose locks another request holds waits: the step leaves the world as it is. -/
def step [DecidableEq Lock] (world : World Db Request View Result) : Event Request → World Db Request View Result
  | .begin request => { world with inFlight := world.inFlight ++ [⟨request, 0, p.start request⟩] }
  | .advance index =>
    match world.inFlight[index]? with
    | none => world
    | some transaction =>
      if p.ready transaction.request transaction.stages transaction.view = false ∧
          ∀ other ∈ world.inFlight.eraseIdx index, Apart p (next p transaction world.db) other then
        { world with inFlight := next p transaction world.db :: world.inFlight.eraseIdx index }
      else world
  | .finish index =>
    match world.inFlight[index]? with
    | none => world
    | some transaction =>
      if p.ready transaction.request transaction.stages transaction.view then
        let settled := p.settle transaction.request transaction.view world.db
        { db := settled.1
          inFlight := world.inFlight.eraseIdx index
          finished := world.finished ++ [⟨transaction.request, world.db, settled.1, settled.2⟩] }
      else world
  | .abort index => { world with inFlight := world.inFlight.eraseIdx index }

@[grind =] def observed (request : Request) : Nat → Db → View
  | 0, _ => p.start request
  | stages + 1, db => p.stage request stages (observed request stages db) db

@[grind =] def Serial (atomic : Request → Db → Db × Result) :
    Db → List (Finished Db Request Result) → Db → Prop
  | first, [], last => first = last
  | first, done :: rest, last =>
    done.before = first ∧ atomic done.request first = (done.after, done.result) ∧ Serial atomic done.after rest last

theorem serial_append {atomic : Request → Db → Db × Result} {first middle : Db}
    {history : List (Finished Db Request Result)} (done : Finished Db Request Result)
    (serial : Serial atomic first history middle) (before : done.before = middle)
    (ran : atomic done.request middle = (done.after, done.result)) :
    Serial atomic first (history ++ [done]) done.after := by
  induction history generalizing first with
  | nil =>
    cases serial
    exact ⟨before, ran, rfl⟩
  | cons earlier history ih => exact ⟨serial.1, serial.2.1, ih serial.2.2⟩

section Serializability

variable (good : Db → Prop) (atomic : Request → Db → Db × Result)
  {first last : Db} {allowed : Finished Db Request Result → Prop}
  {invariant : List (Finished Db Request Result) → Db → Prop} {history : List (Finished Db Request Result)}

structure Sound : Prop where
  startsFree : ∀ request, p.held request 0 (p.start request) = []
  atomicGood : ∀ request db, good db → good (atomic request db).1
  complete : ∀ request stages db, good db → p.ready request stages (observed p request stages db) = true →
    p.settle request (observed p request stages db) db = atomic request db
  stable : ∀ mine stages theirs db, good db →
    (∀ otherStages, p.ready theirs otherStages (observed p theirs otherStages db) = true →
      (∀ lock ∈ p.held mine stages (observed p mine stages db),
        lock ∉ p.held theirs otherStages (observed p theirs otherStages db)) →
      observed p mine stages (atomic theirs db).1 = observed p mine stages db)

structure Covered (first : Db) (world : World Db Request View Result) : Prop where
  good : good world.db
  serial : Serial atomic first world.finished world.db
  views : ∀ transaction ∈ world.inFlight,
    transaction.view = observed p transaction.request transaction.stages world.db
  apart : world.inFlight.Pairwise fun first second => Apart p first second ∧ Apart p second first

variable {p good atomic}

theorem apart_symm {first second : InFlight Request View} (apart : Apart p first second) :
    Apart p second first :=
  fun lock held other => apart lock other held

theorem covered_remaining {world : World Db Request View Result} (index : Nat)
    (covered : Covered p good atomic first world) :
    Covered p good atomic first { world with inFlight := world.inFlight.eraseIdx index } :=
  { covered with
    views := fun transaction member => covered.views transaction (List.mem_of_mem_eraseIdx member)
    apart := covered.apart.sublist (List.eraseIdx_sublist _ _) }

theorem apart_of_getElem? {transactions : List (InFlight Request View)} {index : Nat}
    {transaction : InFlight Request View}
    (apart : transactions.Pairwise fun first second => Apart p first second ∧ Apart p second first)
    (found : transactions[index]? = some transaction) :
    ∀ other ∈ transactions.eraseIdx index, Apart p other transaction := by
  induction transactions generalizing index with
  | nil => simp
  | cons head rest ih =>
    obtain ⟨fromHead, tail⟩ := List.pairwise_cons.mp apart
    cases index with
    | zero =>
      obtain rfl : head = transaction := by simpa using found
      intro other member
      exact (fromHead other (by simpa using member)).2
    | succ index =>
      have later : rest[index]? = some transaction := by simpa using found
      intro other member
      rw [List.eraseIdx_cons_succ, List.mem_cons] at member
      rcases member with rfl | member
      · exact (fromHead transaction (List.mem_of_getElem? later)).1
      · exact ih tail later other member

theorem step_covered [DecidableEq Lock] (sound : Sound p good atomic) (world : World Db Request View Result)
    (event : Event Request) (covered : Covered p good atomic first world) :
    Covered p good atomic first (step p world event) := by
  cases event with
  | begin request =>
    refine { covered with views := ?_, apart := ?_ }
    · intro transaction member
      rcases List.mem_append.mp member with old | new
      · exact covered.views transaction old
      · rw [List.mem_singleton.mp new]
        rfl
    · refine List.pairwise_append.mpr ⟨covered.apart, by simp, ?_⟩
      intro other _ fresh new
      have free : Apart p fresh other := by
        rw [List.mem_singleton.mp new]
        intro lock held
        simp [locks, sound.startsFree] at held
      exact ⟨apart_symm free, free⟩
  | advance index =>
    simp only [step]
    split
    · exact covered
    · next transaction found =>
      split
      · next unlocked =>
        have remaining := covered_remaining index covered
        refine { remaining with views := ?_, apart := ?_ }
        · intro other member
          rcases List.mem_cons.mp member with rfl | old
          · have seen := covered.views transaction (List.mem_of_getElem? found)
            simp only [next, observed, seen]
          · exact remaining.views other old
        · refine List.pairwise_cons.mpr ⟨fun other member => ?_, remaining.apart⟩
          exact ⟨unlocked.2 other member, apart_symm (unlocked.2 other member)⟩
      · exact covered
  | finish index =>
    simp only [step]
    split
    · exact covered
    · next transaction found =>
      split
      · next ready =>
        have seen := covered.views transaction (List.mem_of_getElem? found)
        rw [seen] at ready
        have settled := sound.complete _ _ _ covered.good ready
        have remaining := covered_remaining index covered
        have others := apart_of_getElem? covered.apart found
        rw [seen, settled]
        refine ⟨sound.atomicGood _ _ covered.good,
          serial_append _ covered.serial rfl rfl, fun other member => ?_, remaining.apart⟩
        have kept := remaining.views other member
        have free := others other member
        simp only [Apart, locks, seen, kept] at free
        rw [sound.stable other.request other.stages transaction.request world.db covered.good
          transaction.stages ready free]
        exact kept
      · exact covered
  | abort index => exact covered_remaining index covered

/-- Every interleaving is a serial run of the requests that have finished. -/
theorem run_serial [DecidableEq Lock] (sound : Sound p good atomic) (initial : good first)
    (events : List (Event Request)) :
    Serial atomic first (run (step p) (World.idle first) events).finished
      (run (step p) (World.idle first) events).db := by
  have start : Covered p good atomic first (World.idle first) :=
    ⟨initial, rfl, by simp [World.idle], by simp [World.idle]⟩
  exact (run_preserves (step_covered sound) events start).serial

theorem serial_preserves {invariant : Db → Prop}
    (kept : ∀ done, allowed done → invariant done.before →
      atomic done.request done.before = (done.after, done.result) → invariant done.after) (serial : Serial atomic first history last)
    (within : ∀ done ∈ history, allowed done) (initial : invariant first) : invariant last := by
  induction history generalizing first with
  | nil => exact serial ▸ initial
  | cons done history ih =>
    obtain ⟨rfl, ran, rest⟩ := serial
    obtain ⟨own, others⟩ := List.forall_mem_cons.mp within
    exact ih rest others (kept done own initial ran)

/-- An invariant of the requests finished so far and what they left, at every point of a serial run. -/
theorem serial_split
    (kept : ∀ earlier done, allowed done → invariant earlier done.before →
      atomic done.request done.before = (done.after, done.result) → invariant (earlier ++ [done]) done.after) {earlier rest : List (Finished Db Request Result)}
    {done : Finished Db Request Result} (serial : Serial atomic first history last)
    (within : ∀ done ∈ history, allowed done) (initial : invariant [] first)
    (split : history = earlier ++ done :: rest) :
    invariant earlier done.before ∧ atomic done.request done.before = (done.after, done.result) := by
  subst split
  suffices general : ∀ {past : List (Finished Db Request Result)} {first : Db}, invariant past first →
      Serial atomic first (earlier ++ done :: rest) last → (∀ other ∈ earlier, allowed other) →
      invariant (past ++ earlier) done.before ∧
        atomic done.request done.before = (done.after, done.result) from
    general initial serial fun other member => within other (List.mem_append_left _ member)
  clear serial within
  induction earlier with
  | nil =>
    intro past first now serial _
    obtain ⟨rfl, ran, -⟩ := serial
    exact ⟨by rwa [List.append_nil], ran⟩
  | cons head earlier ih =>
    intro past first now serial within
    obtain ⟨rfl, ran, rest⟩ := serial
    obtain ⟨headAllowed, others⟩ := List.forall_mem_cons.mp within
    have after := kept past head headAllowed now ran
    have later := ih after rest others
    rwa [List.append_assoc, List.singleton_append] at later

theorem serial_pairwise
    {relation : Finished Db Request Result → Finished Db Request Result → Prop}
    (kept : ∀ earlier done, allowed done → invariant earlier done.before →
      atomic done.request done.before = (done.after, done.result) → invariant (earlier ++ [done]) done.after)
    (relates : ∀ past earlier done, allowed done → invariant past done.before → earlier ∈ past →
      atomic done.request done.before = (done.after, done.result) → relation earlier done) (serial : Serial atomic first history last)
    (within : ∀ done ∈ history, allowed done) (initial : invariant [] first) : history.Pairwise relation := by
  rw [List.pairwise_iff_getElem]
  intro i j _ later before
  have split : history = history.take j ++ history[j] :: history.drop (j + 1) := by
    rw [List.getElem_cons_drop, List.take_append_drop]
  obtain ⟨remembered, ran⟩ := serial_split kept serial within initial split
  refine relates _ _ _ (within _ (List.getElem_mem later)) remembered ?_ ran
  exact List.mem_take_iff_getElem.mpr ⟨i, by omega, rfl⟩

end Serializability

theorem run_requests [DecidableEq Lock] {allowed : Request → Prop} {events : List (Event Request)}
    (begun : ∀ request, Event.begin request ∈ events → allowed request) (db : Db) :
    ∀ done ∈ (run (step p) (World.idle db) events).finished, allowed done.request := by
  let guard (_ : World Db Request View Result) (event : Event Request) : Prop :=
    ∀ request, event = .begin request → allowed request
  let known (world : World Db Request View Result) : Prop :=
    (∀ transaction ∈ world.inFlight, allowed transaction.request) ∧
      ∀ done ∈ world.finished, allowed done.request
  have preserved : ∀ world event, known world → guard world event → known (step p world event) := by
    rintro world event ⟨flying, finished⟩ guarded
    cases event with
    | begin request =>
      refine ⟨fun transaction member => ?_, finished⟩
      rcases List.mem_append.mp member with old | new
      · exact flying transaction old
      · rw [List.mem_singleton.mp new]
        exact guarded request rfl
    | advance index =>
      simp only [step]
      split
      · exact ⟨flying, finished⟩
      · next transaction found =>
        split
        · refine ⟨List.forall_mem_cons.mpr ⟨?_, ?_⟩, finished⟩
          · exact flying transaction (List.mem_of_getElem? found)
          · exact fun other member => flying other (List.mem_of_mem_eraseIdx member)
        · exact ⟨flying, finished⟩
    | finish index =>
      simp only [step]
      split
      · exact ⟨flying, finished⟩
      · next transaction found =>
        split
        · refine ⟨fun other member => flying other (List.mem_of_mem_eraseIdx member), fun done member => ?_⟩
          rcases List.mem_append.mp member with old | new
          · exact finished done old
          · rw [List.mem_singleton.mp new]
            exact flying transaction (List.mem_of_getElem? found)
        · exact ⟨flying, finished⟩
    | abort index => exact ⟨fun other member => flying other (List.mem_of_mem_eraseIdx member), finished⟩
  have guarded : ∀ (world : World Db Request View Result) (events : List (Event Request)),
      (∀ request, Event.begin request ∈ events → allowed request) → Meets (step p) guard world events := by
    intro world events
    induction events generalizing world with
    | nil => exact fun _ => trivial
    | cons event events ih =>
      intro begun
      refine ⟨fun request same => begun request (by simp [same]), ih _ fun request member => ?_⟩
      exact begun request (List.mem_cons_of_mem _ member)
  have start : known (World.idle db) := ⟨by simp [World.idle], by simp [World.idle]⟩
  exact (meets_preserves preserved start (guarded _ events begun)).2

section Conditions

variable {p} {world : World Db Request View Result} {db : Db}

/-- A condition on each request that finishes, on what it knows and on the tables at that moment. -/
def Finishing (p : Protocol Db Request Lock View Result) (condition : InFlight Request View → Db → Prop)
    (world : World Db Request View Result) : Event Request → Prop
  | .finish index =>
    match world.inFlight[index]? with
    | none => True
    | some transaction =>
      p.ready transaction.request transaction.stages transaction.view = true → condition transaction world.db
  | _ => True

instance decidableFinishing (condition : InFlight Request View → Db → Prop)
    [decision : ∀ transaction db, Decidable (condition transaction db)] (world : World Db Request View Result) :
    (event : Event Request) → Decidable (Finishing p condition world event)
  | .begin _ => instDecidableTrue
  | .advance _ => instDecidableTrue
  | .abort _ => instDecidableTrue
  | .finish index =>
    match found : world.inFlight[index]? with
    | none => isTrue (by simp [Finishing, found])
    | some transaction =>
      decidable_of_iff
        (p.ready transaction.request transaction.stages transaction.view = true → condition transaction world.db)
        (by simp [Finishing, found])

theorem finishing_of_forall {condition : InFlight Request View → Db → Prop}
    {event : Event Request} (always : ∀ transaction db, condition transaction db) : Finishing p condition world event := by
  cases event with
  | finish index =>
    simp only [Finishing]
    split
    · trivial
    · exact fun _ => always _ _
  | _ => trivial

variable {allowed : Request → Prop} {condition : InFlight Request View → Db → Prop} {good : Db → Prop}
  {knows : InFlight Request View → Db → Prop}

variable (p allowed condition good knows) in
structure Sustains : Prop where
  startsFree : ∀ request, p.held request 0 (p.start request) = []
  begins : ∀ request db, allowed request → good db → knows ⟨request, 0, p.start request⟩ db
  acquires : ∀ transaction db, good db → knows transaction db →
    p.ready transaction.request transaction.stages transaction.view = false → knows (next p transaction db) db
  settles : ∀ transaction db, good db → knows transaction db →
    p.ready transaction.request transaction.stages transaction.view = true → condition transaction db →
    good (p.settle transaction.request transaction.view db).1 ∧
      ∀ other, Apart p other transaction → knows other db →
        knows other (p.settle transaction.request transaction.view db).1

variable (p good knows) in
structure Sustained (world : World Db Request View Result) : Prop where
  good : good world.db
  knows : ∀ transaction ∈ world.inFlight, knows transaction world.db
  apart : world.inFlight.Pairwise fun first second => Apart p first second ∧ Apart p second first

theorem sustained_idle (initial : good db) :
    Sustained p good knows (World.idle db : World Db Request View Result) :=
  ⟨initial, by simp [World.idle], by simp [World.idle]⟩

theorem sustained_remaining (index : Nat)
    (sustained : Sustained p good knows world) :
    Sustained p good knows { world with inFlight := world.inFlight.eraseIdx index } :=
  { sustained with
    knows := fun transaction member => sustained.knows transaction (List.mem_of_mem_eraseIdx member)
    apart := sustained.apart.sublist (List.eraseIdx_sublist _ _) }

theorem step_sustained [DecidableEq Lock] (sustains : Sustains p allowed condition good knows)
    (world : World Db Request View Result) (event : Event Request) (sustained : Sustained p good knows world)
    (begins : ∀ request, event = .begin request → allowed request) (finishes : Finishing p condition world event) :
    Sustained p good knows (step p world event) := by
  cases event with
  | begin request =>
    refine { sustained with knows := ?_, apart := ?_ }
    · intro transaction member
      rcases List.mem_append.mp member with old | new
      · exact sustained.knows transaction old
      · rw [List.mem_singleton.mp new]
        exact sustains.begins request world.db (begins request rfl) sustained.good
    · refine List.pairwise_append.mpr ⟨sustained.apart, by simp, ?_⟩
      intro other _ fresh new
      have free : Apart p fresh other := by
        rw [List.mem_singleton.mp new]
        intro lock held
        simp [locks, sustains.startsFree] at held
      exact ⟨apart_symm free, free⟩
  | advance index =>
    simp only [step]
    split
    · exact sustained
    · next transaction found =>
      split
      · next unlocked =>
        have remaining := sustained_remaining index sustained
        have own := sustained.knows transaction (List.mem_of_getElem? found)
        refine ⟨sustained.good, ?_, ?_⟩
        · intro other member
          rcases List.mem_cons.mp member with rfl | old
          · exact sustains.acquires transaction world.db sustained.good own unlocked.1
          · exact remaining.knows other old
        · refine List.pairwise_cons.mpr ⟨fun other member => ?_, remaining.apart⟩
          exact ⟨unlocked.2 other member, apart_symm (unlocked.2 other member)⟩
      · exact sustained
  | finish index =>
    simp only [Finishing] at finishes
    simp only [step]
    split
    · exact sustained
    · next transaction found =>
      rw [found] at finishes
      split
      · next ready =>
        have own := sustained.knows transaction (List.mem_of_getElem? found)
        obtain ⟨kept, lasts⟩ := sustains.settles transaction world.db sustained.good own ready (finishes ready)
        have remaining := sustained_remaining index sustained
        have others := apart_of_getElem? sustained.apart found
        exact ⟨kept, fun other member => lasts other (others other member) (remaining.knows other member),
          remaining.apart⟩
      · exact sustained
  | abort index => exact sustained_remaining index sustained

/-- What is good stays good in every run of allowed requests that meet the condition where they finish. -/
theorem along_of_sustains [DecidableEq Lock] (sustains : Sustains p allowed condition good knows) {property : Db → Prop}
    (implied : ∀ db, good db → property db) {events : List (Event Request)} (initial : good db)
    (begun : ∀ request, Event.begin request ∈ events → allowed request)
    (finishes : Meets (step p) (Finishing p condition) (World.idle db : World Db Request View Result) events) :
    Along (step p) (fun world => property world.db) (World.idle db : World Db Request View Result) events := by
  have each : Meets (step p) (fun _ event => ∀ request, event = .begin request → allowed request)
      (World.idle db : World Db Request View Result) events :=
    meets_of_forall _ fun event member request same => begun request (same ▸ member)
  exact along_of_meets
    (fun world event sustained (meets : (∀ request, event = .begin request → allowed request) ∧ _) =>
      step_sustained sustains world event sustained meets.1 meets.2)
    (fun world sustained => implied world.db sustained.good) (sustained_idle initial) (meets_and each finishes)

end Conditions

section Coverage

variable (covers : Db → View → Lock → Prop)

def Relies (db : Db) (transaction : InFlight Request View) : Prop :=
  ∀ lock ∈ locks p transaction, covers db transaction.view lock

variable (good : Db → Prop) (moves : Db → Db → Prop)

/-- What the stages and locks of a protocol owe to the states that it may reach. -/
structure Guards : Prop where
  startsFree : ∀ request, p.held request 0 (p.start request) = []
  acquires : ∀ transaction db, good db → Relies p covers db transaction →
    p.ready transaction.request transaction.stages transaction.view = false →
    Relies p covers db (next p transaction db)
  settles : ∀ transaction db, good db → Relies p covers db transaction →
    p.ready transaction.request transaction.stages transaction.view = true →
    good (p.settle transaction.request transaction.view db).1 ∧
      moves db (p.settle transaction.request transaction.view db).1 ∧
      ∀ view lock, lock ∉ locks p transaction → covers db view lock →
        covers (p.settle transaction.request transaction.view db).1 view lock

structure Relied (world : World Db Request View Result) : Prop where
  good : good world.db
  relies : ∀ transaction ∈ world.inFlight, Relies p covers world.db transaction
  apart : world.inFlight.Pairwise fun first second => Apart p first second ∧ Apart p second first

variable {p covers good moves}

theorem guards_sustain (guards : Guards p covers good moves) :
    Sustains p (fun _ => True) (fun _ _ => True) good fun transaction db => Relies p covers db transaction where
  startsFree := guards.startsFree
  begins request db _ _ lock held := by simp [locks, guards.startsFree] at held
  acquires := guards.acquires
  settles transaction db fine relies ready _ := by
    obtain ⟨kept, -, covered⟩ := guards.settles transaction db fine relies ready
    exact ⟨kept, fun other apart relied lock held => covered other.view lock (apart lock held) (relied lock held)⟩

theorem step_relied [DecidableEq Lock] (guards : Guards p covers good moves) (reflexive : ∀ db, moves db db)
    (world : World Db Request View Result) (event : Event Request) (relied : Relied p covers good world) :
    Relied p covers good (step p world event) ∧ moves world.db (step p world event).db := by
  refine ⟨?_, ?_⟩
  · have kept := step_sustained (guards_sustain guards) world event
      ⟨relied.good, relied.relies, relied.apart⟩ (fun _ _ => trivial) (finishing_of_forall fun _ _ => trivial)
    exact ⟨kept.good, kept.knows, kept.apart⟩
  · cases event with
    | begin request => exact reflexive _
    | advance index =>
      simp only [step]
      split
      · exact reflexive _
      · split <;> exact reflexive _
    | finish index =>
      simp only [step]
      split
      · exact reflexive _
      · next transaction found =>
        split
        · next ready =>
          have own := relied.relies transaction (List.mem_of_getElem? found)
          exact (guards.settles transaction world.db relied.good own ready).2.1
        · exact reflexive _
    | abort index => exact reflexive _

theorem run_relied [DecidableEq Lock] (guards : Guards p covers good moves) (reflexive : ∀ db, moves db db)
    (transitive : ∀ {first second third}, moves first second → moves second third → moves first third)
    (world : World Db Request View Result) (events : List (Event Request)) (relied : Relied p covers good world) :
    Relied p covers good (run (step p) world events) ∧ moves world.db (run (step p) world events).db := by
  induction events generalizing world with
  | nil => exact ⟨relied, reflexive _⟩
  | cons event events ih =>
    obtain ⟨next, moved⟩ := step_relied guards reflexive world event relied
    obtain ⟨last, rest⟩ := ih (step p world event) next
    exact ⟨last, transitive moved rest⟩

theorem relied_idle {db : Db} (initial : good db) : Relied p covers good (World.idle db : World Db Request View Result) :=
  ⟨initial, by simp [World.idle], by simp [World.idle]⟩

end Coverage

section Exclusive

variable {View : Type} (read : Request → Db → View) (settle : Request → View → Db → Db × Result)

/-- The first stage takes the lock, the second reads, and the request writes at its end. -/
def exclusive : Protocol Db Request Unit (Option View) Result where
  start _ := none
  stage request stages view db := if stages = 0 then none else view <|> some (read request db)
  held _ stages _ := if stages = 0 then [] else [()]
  ready _ _ view := view.isSome
  settle request view db := settle request (view.getD (read request db)) db

variable {read settle}

theorem observed_exclusive (request : Request) (stages : Nat) (db : Db) :
    observed (exclusive read settle) request stages db =
      if stages ≤ 1 then none else some (read request db) := by
  match stages with
  | 0 | 1 => rfl
  | stages + 2 =>
    induction stages with
    | zero => rfl
    | succ stages ih =>
      change (exclusive read settle).stage request (stages + 2)
        (observed (exclusive read settle) request (stages + 2) db) db = _
      rw [ih]
      simp [exclusive]

theorem exclusive_sound {atomic : Request → Db → Db × Result}
    (same : ∀ request db, settle request (read request db) db = atomic request db) :
    Sound (exclusive read settle) (fun _ => True) atomic where
  startsFree _ := rfl
  atomicGood _ _ good := good
  complete request stages db _ ready := by
    rw [observed_exclusive] at ready ⊢
    split at ready
    · cases ready
    · next later =>
      rw [if_neg later]
      exact same request db
  stable mine stages theirs db _ otherStages ready apart := by
    cases stages with
    | zero => rfl
    | succ stages =>
      -- Whoever is ready holds the one lock, which this request holds from its first stage on.
      rw [observed_exclusive] at ready
      split at ready
      · cases ready
      · next later =>
        have begun : otherStages ≠ 0 := by omega
        exact absurd (by simp [exclusive, begun]) (apart () (by simp [exclusive]))

end Exclusive

end Locking
