import ShuleHub.Lib.Processes
import ShuleHub.Lib.Runs

/-! The clients that a request context takes from the pool. A call that finds no client in the context takes one,
begins a transaction on it, applies the settings of the request and puts the client into the context for the calls
that its callback makes; afterwards it puts back what it found there. -/

namespace ShuleHub.Database

open Processes Runs

/-- What `SET LOCAL` says of a request, as far as the policies of the tables read it. -/
structure SessionConfig where
  runtimeRoleName : Option String
  tenantId : String
  userId : String
  role : String
deriving DecidableEq

/-- A client as the calls of one request context left it: in the pool, or checked out, or in a transaction, with or
without the settings of the request. -/
inductive ClientState where
  | pooled
  | checkedOut
  | begun
  | scoped (config : SessionConfig)
deriving DecidableEq

inductive CallKind where
  | query
  | withClient
  | withRequestTransaction
deriving DecidableEq

/-- Where a call is: it waits for a client; it has sent `BEGIN`, then `SET LOCAL`; its callback runs; it has sent
`COMMIT` or `ROLLBACK`. A call that found a client in the context only runs its callback, `borrowing` that client
or, in `withRequestTransaction`, leaving it where it is. -/
inductive CallPhase where
  | waiting
  | beginning (client : Nat) (previousClient : Option Nat)
  | configuring (client : Nat) (previousClient : Option Nat)
  | running (client : Nat) (previousClient : Option Nat)
  | ending (client : Nat) (previousClient : Option Nat)
  | borrowing (client : Nat)
  | nested
  | done
deriving DecidableEq

structure DatabaseCall where
  kind : CallKind
  phase : CallPhase

/-- A request context with its calls, the clients of the pool, and the state of the client that each statement of
the calls ran on. -/
structure RequestScope where
  config : SessionConfig
  dbClient : Option Nat
  calls : List DatabaseCall
  clients : Nat → ClientState
  statements : List ClientState

inductive ScopeEvent where
  | begin (kind : CallKind)
  | grant (place client : Nat)
  | advance (place : Nat)
  | statement (place : Nat)
  | finish (place : Nat)
  | fail (place : Nat)
deriving DecidableEq

namespace ScopedSessions

variable {phase : CallPhase} (scope : RequestScope) (place : Nat) (call : DatabaseCall) (client : Nat)
  (config : SessionConfig)

def opened : RequestScope := ⟨config, none, [], fun _ => .pooled, []⟩

def setClient (state : ClientState) : RequestScope :=
  { scope with clients := Function.update scope.clients client state }

def setPhase (phase : CallPhase) : RequestScope :=
  { scope with calls := scope.calls.set place { call with phase } }

def execute : RequestScope :=
  { scope with statements := scope.clients client :: scope.statements }

def beginCall (kind : CallKind) : RequestScope :=
  match scope.dbClient, kind with
  | none, kind => { scope with calls := scope.calls ++ [⟨kind, .waiting⟩] }
  | some client, .query => execute { scope with calls := scope.calls ++ [⟨.query, .done⟩] } client
  | some client, .withClient => { scope with calls := scope.calls ++ [⟨.withClient, .borrowing client⟩] }
  | some _, .withRequestTransaction => { scope with calls := scope.calls ++ [⟨.withRequestTransaction, .nested⟩] }

/-- What the `finally` block will put into the context: `withRequestTransaction` leaves no client there. -/
def savedClient : CallKind → Option Nat
  | .withRequestTransaction => none
  | _ => scope.dbClient

def grantClient (place client : Nat) (call : DatabaseCall) : RequestScope :=
  if call.phase = .waiting ∧ scope.clients client = .pooled then
    setPhase (setClient scope client .begun) place call (.beginning client (savedClient scope call.kind))
  else scope

/-- The answer to what a call has sent arrives, and the call goes on. -/
def advanceCall : RequestScope :=
  match call.phase with
  | .beginning client previousClient =>
    setPhase (setClient scope client (.scoped scope.config)) place call (.configuring client previousClient)
  | .configuring client previousClient =>
    let entered := { setPhase scope place call (.running client previousClient) with dbClient := some client }
    if call.kind = .query then execute entered client else entered
  | .ending client previousClient =>
    { setPhase (setClient scope client .pooled) place call .done with dbClient := previousClient }
  | _ => scope

def runStatement : RequestScope :=
  match call.kind, call.phase with
  | .withClient, .running client _ => execute scope client
  | .withClient, .borrowing client => execute scope client
  | _, _ => scope

def endSession (place client : Nat) (previousClient : Option Nat) (call : DatabaseCall) :
    RequestScope :=
  setPhase (setClient scope client .checkedOut) place call (.ending client previousClient)

def finishCall : RequestScope :=
  match call.phase with
  | .running client previousClient => endSession scope place client previousClient call
  | .borrowing _ => setPhase scope place call .done
  | .nested => setPhase scope place call .done
  | _ => scope

def failCall : RequestScope :=
  match call.phase with
  | .waiting => setPhase scope place call .done
  | .beginning client previousClient => endSession scope place client previousClient call
  | .configuring client previousClient => endSession scope place client previousClient call
  | .running client previousClient => endSession scope place client previousClient call
  | .ending client previousClient => endSession scope place client previousClient call
  | .borrowing _ => setPhase scope place call .done
  | .nested => setPhase scope place call .done
  | .done => scope

def onCall (action : DatabaseCall → RequestScope) : RequestScope :=
  match scope.calls[place]? with
  | some call => action call
  | none => scope

@[grind =] def step : ScopeEvent → RequestScope
  | .begin kind => beginCall scope kind
  | .grant place client => onCall scope place (grantClient scope place client)
  | .advance place => onCall scope place (advanceCall scope place)
  | .statement place => onCall scope place (runStatement scope)
  | .finish place => onCall scope place (finishCall scope place)
  | .fail place => onCall scope place (failCall scope place)

def Scoped : Prop := ∀ state ∈ scope.statements, state = .scoped scope.config
deriving Decidable

def Running : Prop :=
  ∃ (place : Nat) (call : DatabaseCall) (previousClient : Option Nat), scope.calls[place]? = some call ∧
    call.phase = .running client previousClient

def Ending : Prop :=
  ∃ (place : Nat) (call : DatabaseCall) (previousClient : Option Nat), scope.calls[place]? = some call ∧
    call.phase = .ending client previousClient

/-- The condition on one event: no query begins on a client that the context still holds after its `COMMIT` or
`ROLLBACK`, a callback that borrowed a client runs its statements while the call that took it runs its own, and the
client that a call puts back into the context still belongs to a call. -/
def Structured : ScopeEvent → Prop
  | .begin .query => ∀ client, scope.dbClient = some client → ¬ Ending scope client
  | .statement place => ∀ call client, scope.calls[place]? = some call → call.phase = .borrowing client →
      Running scope client
  | .advance place => ∀ call client previousClient, scope.calls[place]? = some call →
      call.phase = .ending client (some previousClient) →
        Running scope previousClient ∨ Ending scope previousClient
  | _ => True

@[grind =] def taken : CallPhase → Option Nat
  | .beginning client _ => some client
  | .configuring client _ => some client
  | .running client _ => some client
  | .ending client _ => some client
  | _ => none

def previousOf : CallPhase → Option Nat
  | .beginning _ previousClient => previousClient
  | .configuring _ previousClient => previousClient
  | .running _ previousClient => previousClient
  | .ending _ previousClient => previousClient
  | _ => none

def offered : CallPhase → Option Nat
  | .running client _ => some client
  | .ending client _ => some client
  | _ => none

@[grind =] def sessionOf : CallPhase → ClientState
  | .beginning _ _ => .begun
  | .configuring _ _ => .scoped config
  | .running _ _ => .scoped config
  | .ending _ _ => .checkedOut
  | _ => .pooled

/-- Every client that a call took is where the call left it, no other call took it, and the call does not put it
back into the context itself. -/
structure Held (calls : List DatabaseCall) (clients : Nat → ClientState) : Prop where
  sessions : ∀ (place : Nat) (call : DatabaseCall) (client : Nat), calls[place]? = some call →
    taken call.phase = some client → clients client = sessionOf config call.phase
  single : ∀ client, AtMostOne (fun call : DatabaseCall => taken call.phase = some client) calls
  saved : ∀ (place : Nat) (call : DatabaseCall) (client : Nat), calls[place]? = some call →
    taken call.phase = some client → previousOf call.phase ≠ some client

def Offered (calls : List DatabaseCall) (client : Nat) : Prop :=
  ∃ (place : Nat) (call : DatabaseCall), calls[place]? = some call ∧ offered call.phase = some client

structure Inv : Prop where
  held : Held scope.config scope.calls scope.clients
  context : ∀ client, scope.dbClient = some client → Offered scope.calls client
  statements : Scoped scope

variable {client}

theorem offered_iff {scope : RequestScope} :
    Offered scope.calls client ↔ Running scope client ∨ Ending scope client := by
  constructor
  · rintro ⟨place, ⟨kind, phase⟩, found, own⟩
    cases phase with
    | running holder previousClient =>
      cases own
      exact .inl ⟨place, _, previousClient, found, rfl⟩
    | ending holder previousClient =>
      cases own
      exact .inr ⟨place, _, previousClient, found, rfl⟩
    | waiting => cases own
    | beginning holder previousClient => cases own
    | configuring holder previousClient => cases own
    | borrowing holder => cases own
    | nested => cases own
    | done => cases own
  · rintro (⟨place, call, previousClient, found, phase⟩ | ⟨place, call, previousClient, found, phase⟩)
    · exact ⟨place, call, found, by rw [phase]; rfl⟩
    · exact ⟨place, call, found, by rw [phase]; rfl⟩

theorem taken_of_offered (own : offered phase = some client) :
    taken phase = some client := by
  cases phase <;> first | exact own | cases own

theorem sessionOf_ne_pooled {config : SessionConfig}
    (own : taken phase = some client) : sessionOf config phase ≠ .pooled := by
  cases phase <;> simp_all [sessionOf, taken]

namespace Held

variable {config : SessionConfig} {calls : List DatabaseCall} {clients : Nat → ClientState} {place client : Nat}
  {call : DatabaseCall} {phase : CallPhase}

theorem nil : Held config [] clients := by
  constructor
  · intro place call client found
    simp at found
  · intro client
    exact AtMostOne.nil
  · intro place call client found
    simp at found

theorem running (held : Held config calls clients) {previousClient : Option Nat} (found : calls[place]? = some call)
    (own : call.phase = .running client previousClient) : clients client = .scoped config := by
  have kept := held.sessions place call client found (by rw [own]; rfl)
  rwa [own] at kept

theorem of_before (held : Held config calls clients) {after : List DatabaseCall}
    (earlier : ∀ (other : Nat) (process : DatabaseCall) (holder : Nat), after[other]? = some process →
      taken process.phase = some holder → calls[other]? = some process) : Held config after clients := by
  constructor
  · intro other process holder found own
    exact held.sessions other process holder (earlier other process holder found own) own
  · intro holder
    apply (held.single holder).of_before
    intro other process found own
    exact ⟨process, earlier other process holder found own, own⟩
  · intro other process holder found own
    exact held.saved other process holder (earlier other process holder found own) own

theorem append (held : Held config calls clients) (free : taken call.phase = none) :
    Held config (calls ++ [call]) clients := by
  apply held.of_before
  intro other process holder found own
  rcases appended found with old | ⟨-, rfl⟩
  · exact old
  · rw [free] at own
    cases own

theorem idle (held : Held config calls clients) (free : taken phase = none) :
    Held config (calls.set place { call with phase }) clients := by
  apply held.of_before
  intro other process holder found own
  rcases replaced found with ⟨-, rfl⟩ | ⟨-, old⟩
  · rw [free] at own
    cases own
  · exact old

theorem only (held : Held config calls clients) (found : calls[place]? = some call)
    (own : taken call.phase = some client ∨ clients client = .pooled) {other : Nat} {process : DatabaseCall}
    (otherFound : calls[other]? = some process) (otherOwn : taken process.phase = some client) : other = place := by
  rcases own with own | pooled
  · exact held.single client other place process call otherFound found otherOwn own
  · have kept := held.sessions other process client otherFound otherOwn
    exact absurd (kept.symm.trans pooled) (sessionOf_ne_pooled otherOwn)

theorem take (held : Held config calls clients) (found : calls[place]? = some call) (phase : CallPhase)
    (own : taken call.phase = some client ∨ taken call.phase = none ∧ clients client = .pooled)
    (takes : taken phase = some client) (saves : previousOf phase ≠ some client) :
    Held config (calls.set place { call with phase })
      (Function.update clients client (sessionOf config phase)) := by
  have reach : taken call.phase = some client ∨ clients client = .pooled := own.imp_right And.right
  constructor
  · intro other process holder processFound processOwn
    rcases replaced processFound with ⟨-, rfl⟩ | ⟨differs, old⟩
    · cases takes.symm.trans processOwn
      exact Function.update_self ..
    · have ne : holder ≠ client := by
        rintro rfl
        exact differs (held.only found reach old processOwn).symm
      rw [Function.update_of_ne ne]
      exact held.sessions other process holder old processOwn
  · intro holder
    by_cases same : holder = client
    · subst same
      apply AtMostOne.of_place
      intro other process processFound processOwn
      rcases replaced processFound with ⟨rfl, -⟩ | ⟨-, old⟩
      · rfl
      · exact held.only found reach old processOwn
    · apply (held.single holder).of_before
      intro other process processFound processOwn
      rcases replaced processFound with ⟨-, rfl⟩ | ⟨-, old⟩
      · exact absurd (Option.some.inj (processOwn.symm.trans takes)) same
      · exact ⟨process, old, processOwn⟩
  · intro other process holder processFound processOwn
    rcases replaced processFound with ⟨-, rfl⟩ | ⟨-, old⟩
    · cases takes.symm.trans processOwn
      exact saves
    · exact held.saved other process holder old processOwn

theorem release (held : Held config calls clients) (found : calls[place]? = some call)
    (own : taken call.phase = some client) :
    Held config (calls.set place { call with phase := .done }) (Function.update clients client .pooled) := by
  have kept : Held config (calls.set place { call with phase := .done }) clients := held.idle rfl
  constructor
  · intro other process holder processFound processOwn
    have ne : holder ≠ client := by
      rintro rfl
      rcases replaced processFound with ⟨-, rfl⟩ | ⟨differs, old⟩
      · cases processOwn
      · exact differs (held.only found (.inl own) old processOwn).symm
    rw [Function.update_of_ne ne]
    exact kept.sessions other process holder processFound processOwn
  · exact kept.single
  · exact kept.saved

end Held

namespace Offered

variable {calls : List DatabaseCall} {place client : Nat} {call : DatabaseCall} {phase : CallPhase}

theorem append (own : Offered calls client) : Offered (calls ++ [call]) client := by
  obtain ⟨place, holder, found, offers⟩ := own
  have early := (List.getElem?_eq_some_iff.mp found).1
  exact ⟨place, holder, by rwa [List.getElem?_append_left early], offers⟩

theorem set (own : Offered calls client) (found : calls[place]? = some call)
    (keeps : offered call.phase = some client → offered phase = some client) :
    Offered (calls.set place { call with phase }) client := by
  obtain ⟨other, holder, holderFound, offers⟩ := own
  by_cases same : place = other
  · subst same
    cases found.symm.trans holderFound
    refine ⟨place, { call with phase }, ?_, keeps offers⟩
    rw [List.getElem?_set_self (List.getElem?_eq_some_iff.mp found).1]
  · exact ⟨other, holder, by rwa [List.getElem?_set_ne same], offers⟩

theorem of_place (found : calls[place]? = some call) (offers : offered phase = some client) :
    Offered (calls.set place { call with phase }) client := by
  refine ⟨place, { call with phase }, ?_, offers⟩
  rw [List.getElem?_set_self (List.getElem?_eq_some_iff.mp found).1]

end Offered

section Steps

variable {scope : RequestScope} {place client : Nat} {call : DatabaseCall} {phase : CallPhase}

theorem Inv.execute (inv : Inv scope) (session : scope.clients client = .scoped scope.config) :
    Inv (execute scope client) :=
  ⟨inv.held, inv.context, List.forall_mem_cons.mpr ⟨session, inv.statements⟩⟩

theorem Inv.begin (inv : Inv scope) (kind : CallKind) (free : taken phase = none) :
    Inv { scope with calls := scope.calls ++ [⟨kind, phase⟩] } :=
  ⟨inv.held.append free, fun client own => (inv.context client own).append, inv.statements⟩

theorem Inv.idle (inv : Inv scope) (found : scope.calls[place]? = some call)
    (free : taken phase = none) (idle : offered call.phase = none) : Inv (setPhase scope place call phase) := by
  refine ⟨inv.held.idle free, ?_, inv.statements⟩
  intro client own
  apply (inv.context client own).set found
  intro offers
  rw [idle] at offers
  cases offers

theorem Inv.take (inv : Inv scope) (found : scope.calls[place]? = some call) (phase : CallPhase)
    (own : taken call.phase = some client ∨ taken call.phase = none ∧ scope.clients client = .pooled)
    (takes : taken phase = some client) (saves : previousOf phase ≠ some client)
    (offers : ∀ holder, offered call.phase = some holder → offered phase = some holder) :
    Inv (setPhase (setClient scope client (sessionOf scope.config phase)) place call phase) :=
  ⟨inv.held.take found phase own takes saves, fun holder kept => (inv.context holder kept).set found (offers holder),
    inv.statements⟩

theorem Inv.endSession (inv : Inv scope) (found : scope.calls[place]? = some call)
    (takes : taken call.phase = some client)
    (offers : ∀ holder, offered call.phase = some holder → holder = client) :
    Inv (endSession scope place client (previousOf call.phase) call) := by
  apply inv.take found (.ending client (previousOf call.phase)) (.inl takes) rfl
  · exact inv.held.saved place call client found takes
  · intro holder offered
    rw [offers holder offered]
    rfl

theorem beginCall_inv (inv : Inv scope) (kind : CallKind) (guarded : Structured scope (.begin kind)) :
    Inv (beginCall scope kind) := by
  cases stored : scope.dbClient with
  | none =>
    have same : beginCall scope kind = { scope with calls := scope.calls ++ [⟨kind, .waiting⟩] } := by
      simp only [beginCall, stored]
    rw [same]
    exact inv.begin kind rfl
  | some client =>
    cases kind with
    | query =>
      have same : beginCall scope .query =
          execute { scope with calls := scope.calls ++ [⟨.query, .done⟩] } client := by
        simp only [beginCall, stored]
      rw [same]
      apply (inv.begin .query rfl).execute
      rcases offered_iff.mp (inv.context client stored) with ⟨place, call, previousClient, found, phase⟩ | ending
      · exact inv.held.running found phase
      · exact absurd ending (guarded client stored)
    | withClient =>
      have same : beginCall scope .withClient =
          { scope with calls := scope.calls ++ [⟨.withClient, .borrowing client⟩] } := by
        simp only [beginCall, stored]
      rw [same]
      exact inv.begin .withClient rfl
    | withRequestTransaction =>
      have same : beginCall scope .withRequestTransaction =
          { scope with calls := scope.calls ++ [⟨.withRequestTransaction, .nested⟩] } := by
        simp only [beginCall, stored]
      rw [same]
      exact inv.begin .withRequestTransaction rfl

theorem grantClient_inv (inv : Inv scope) (found : scope.calls[place]? = some call) (client : Nat) :
    Inv (grantClient scope place client call) := by
  unfold grantClient
  split
  · next free =>
    have idle : taken call.phase = none := by rw [free.1]; rfl
    apply inv.take found (.beginning client (savedClient scope call.kind)) (.inr ⟨idle, free.2⟩) rfl
    · intro saved
      have stored : scope.dbClient = some client := by
        cases kind : call.kind <;> rw [kind] at saved <;> first | exact saved | cases saved
      obtain ⟨other, holder, holderFound, offers⟩ := inv.context client stored
      have own := taken_of_offered offers
      have session := inv.held.sessions other holder client holderFound own
      exact sessionOf_ne_pooled own (session.symm.trans free.2)
    · intro holder offers
      rw [free.1] at offers
      cases offers
  · exact inv

theorem advanceCall_inv (inv : Inv scope) (found : scope.calls[place]? = some call)
    (guarded : Structured scope (.advance place)) : Inv (advanceCall scope place call) := by
  have saved := inv.held.saved place call
  obtain ⟨kind, phase⟩ := call
  cases phase with
  | beginning client previousClient =>
    have different := saved client found rfl
    exact inv.take found (.configuring client previousClient) (.inl rfl) rfl different nofun
  | configuring client previousClient =>
    have session : scope.clients client = .scoped scope.config := inv.held.sessions place _ client found rfl
    have different := saved client found rfl
    have kept := inv.held.take found (.running client previousClient) (.inl rfl) rfl different
    have same : Function.update scope.clients client (sessionOf scope.config (.running client previousClient)) =
        scope.clients := by
      rw [sessionOf, ← session, Function.update_eq_self]
    rw [same] at kept
    have entered :
        Inv { setPhase scope place ⟨kind, .configuring client previousClient⟩ (.running client previousClient) with
          dbClient := some client } := by
      refine ⟨kept, ?_, inv.statements⟩
      rintro holder ⟨⟩
      exact Offered.of_place found rfl
    simp only [advanceCall]
    split
    · exact entered.execute session
    · exact entered
  | ending client previousClient =>
    refine ⟨inv.held.release found rfl, ?_, inv.statements⟩
    intro holder restored
    have stored : previousClient = some holder := restored
    have different := saved client found rfl
    subst stored
    have belongs := offered_iff.mpr (guarded _ client holder found rfl)
    apply belongs.set found
    intro offers
    cases offers
    exact absurd rfl different
  | waiting => exact inv
  | running client previousClient => exact inv
  | borrowing client => exact inv
  | nested => exact inv
  | done => exact inv

theorem runStatement_inv (inv : Inv scope) (found : scope.calls[place]? = some call)
    (guarded : Structured scope (.statement place)) : Inv (runStatement scope call) := by
  unfold runStatement
  split
  · next own => exact inv.execute (inv.held.running found own)
  · next client _ own =>
    obtain ⟨owner, process, previousClient, ownerFound, running⟩ := guarded call client found own
    exact inv.execute (inv.held.running ownerFound running)
  · exact inv

theorem finishCall_inv (inv : Inv scope) (found : scope.calls[place]? = some call) :
    Inv (finishCall scope place call) := by
  obtain ⟨kind, phase⟩ := call
  cases phase with
  | running client previousClient =>
    apply inv.endSession found rfl
    rintro holder ⟨⟩
    rfl
  | borrowing client => exact inv.idle found rfl rfl
  | nested => exact inv.idle found rfl rfl
  | waiting => exact inv
  | beginning client previousClient => exact inv
  | configuring client previousClient => exact inv
  | ending client previousClient => exact inv
  | done => exact inv

theorem failCall_inv (inv : Inv scope) (found : scope.calls[place]? = some call) :
    Inv (failCall scope place call) := by
  obtain ⟨kind, phase⟩ := call
  cases phase with
  | waiting => exact inv.idle found rfl rfl
  | beginning client previousClient => exact inv.endSession found rfl nofun
  | configuring client previousClient => exact inv.endSession found rfl nofun
  | running client previousClient =>
    apply inv.endSession found rfl
    rintro holder ⟨⟩
    rfl
  | ending client previousClient =>
    apply inv.endSession found rfl
    rintro holder ⟨⟩
    rfl
  | borrowing client => exact inv.idle found rfl rfl
  | nested => exact inv.idle found rfl rfl
  | done => exact inv

theorem onCall_inv (inv : Inv scope) (place : Nat) {action : DatabaseCall → RequestScope}
    (each : ∀ call, scope.calls[place]? = some call → Inv (action call)) : Inv (onCall scope place action) := by
  unfold onCall
  split
  · next call found => exact each call found
  · exact inv

theorem step_inv (inv : Inv scope) (event : ScopeEvent) (guarded : Structured scope event) :
    Inv (step scope event) := by
  cases event with
  | begin kind => exact beginCall_inv inv kind guarded
  | grant place client => exact onCall_inv inv place fun call found => grantClient_inv inv found client
  | advance place => exact onCall_inv inv place fun call found => advanceCall_inv inv found guarded
  | statement place => exact onCall_inv inv place fun call found => runStatement_inv inv found guarded
  | finish place => exact onCall_inv inv place fun call found => finishCall_inv inv found
  | fail place => exact onCall_inv inv place fun call found => failCall_inv inv found

end Steps

theorem opened_inv (config : SessionConfig) : Inv (opened config) :=
  ⟨Held.nil, fun _ stored => (nomatch stored), fun _ member => absurd member List.not_mem_nil⟩

/-- Every statement of a request context runs in a transaction with the settings of the request, in every order of
the calls and of the answers to them, as long as each event meets the condition. -/
theorem statements_are_scoped_of_structured (config : SessionConfig) (events : List ScopeEvent)
    (structured : Meets step Structured (opened config) events) :
    Along step Scoped (opened config) events :=
  along_of_meets (fun _ event inv guarded => step_inv inv event guarded) (fun _ inv => inv.statements)
    (opened_inv config) structured

def parentConfig : SessionConfig := ⟨some "shulehub_app", "school", "parent", "parent"⟩

/-- A request that begins a transaction with a query in it, and then sends another query. -/
def nestedEvents : List ScopeEvent :=
  [.begin .withRequestTransaction, .grant 0 0, .advance 0, .advance 0, .begin .query, .finish 0, .advance 0,
    .begin .query, .grant 2 0, .advance 2, .advance 2, .finish 2, .advance 2]

theorem statements_are_scoped_of_structured_nested : Along step Scoped (opened parentConfig) nestedEvents := by
  apply statements_are_scoped_of_structured parentConfig nestedEvents
  refine ⟨trivial, trivial, ?_, ?_, ?_, trivial, ?_, ?_, trivial, ?_, ?_, trivial, ?_, trivial⟩
  · rintro call client previousClient ⟨⟩ ⟨⟩
  · rintro call client previousClient ⟨⟩ ⟨⟩
  · rintro client ⟨⟩ ⟨place, call, previousClient, found, ending⟩
    cases place with
    | zero =>
      cases found
      cases ending
    | succ later => simp [step, beginCall, opened, grantClient, onCall, advanceCall, setPhase, setClient] at found
  · rintro call client previousClient ⟨⟩ ⟨⟩
  · rintro client ⟨⟩
  · rintro call client previousClient ⟨⟩ ⟨⟩
  · rintro call client previousClient ⟨⟩ ⟨⟩
  · rintro call client previousClient ⟨⟩ ⟨⟩

/-- Two calls wait for a client at once. The second finds the client of the first in the context, and puts it back
after the first has released it. -/
def overlappingEvents : List ScopeEvent :=
  [.begin .query, .begin .query, .grant 0 0, .advance 0, .advance 0, .grant 1 1, .finish 0, .advance 0,
    .advance 1, .advance 1, .finish 1, .advance 1, .begin .query]

theorem query_runs_on_released_client :
    ¬ ∀ (config : SessionConfig) (events : List ScopeEvent), Along step Scoped (opened config) events := by
  intro always
  exact absurd (always parentConfig overlappingEvents) (by decide)

end ScopedSessions

end ShuleHub.Database
