import ShuleHub.Lib.Runs

/-! The transaction of an HTTP request: the tenant middleware opens it, the statements of the handler run in
it, and it is committed or rolled back once the response has been sent. -/

namespace ShuleHub.Database

open Runs

variable {Write : Type}

/-- What a handler does: it answers, or it runs a statement and goes on as the statement succeeds or fails.
One that swallows the failure goes on in the same way in both cases. -/
inductive Handler (Write : Type) where
  | respond (statusCode : Nat)
  | query (writes : List Write) (succeeded failed : Handler Write)
deriving DecidableEq

namespace Handler

def safePlatformLog (entry : Write) (next : Handler Write) : Handler Write := .query [entry] next next

/-- The statements of `sendSms` under `sendOtpBestEffort`: the first that fails ends them, the handler goes on. -/
def sendOtpBestEffort (statements : List (List Write)) (next : Handler Write) : Handler Write :=
  statements.foldr (fun writes rest => .query writes rest next) next

def recordValidationFailure (event : Write) (next : Handler Write) : Handler Write := .query [event] next next

end Handler

structure RequestTransaction (Write : Type) where
  pending : List Write
  aborted : Bool

def RequestTransaction.execute (transaction : RequestTransaction Write) (writes : List Write) (fails : Bool) :
    Bool × RequestTransaction Write :=
  if transaction.aborted then (false, transaction)
  else if fails then (false, { transaction with aborted := true })
  else (true, { transaction with pending := transaction.pending ++ writes })

def RequestTransaction.commit (transaction : RequestTransaction Write) : List Write :=
  if transaction.aborted then [] else transaction.pending

/-- Where a request stands: in its handler; answered, or closed without an answer, with the end of its
transaction sent to the database; or past that. -/
inductive Stage (Write : Type) where
  | running (handler : Handler Write)
  | finalizing (statusCode : Option Nat)
  | released (statusCode : Option Nat)
deriving DecidableEq

structure HttpRequest (Write : Type) where
  stage : Stage Write
  transaction : RequestTransaction Write

structure Server (Write : Type) where
  committed : List (Nat × Write)
  requests : List (HttpRequest Write)

def Server.idle : Server Write := ⟨[], []⟩

/-- `execute` is the next statement of a handler, `finish` and `close` are the events of the response, `settle`
is the end of the transaction in the database, and `follow` is a statement of a later request that the client
sent after it had received the response of this one. -/
inductive RequestEvent (Write : Type) where
  | begin (handler : Handler Write)
  | execute (index : Nat) (fails : Bool)
  | finish (index : Nat)
  | close (index : Nat)
  | settle (index : Nat)
  | follow (index : Nat)
deriving DecidableEq

def rollsBack (statusCode : Option Nat) : Bool := statusCode.all fun code => 400 ≤ code

def HttpRequest.executed (request : HttpRequest Write) (fails : Bool) : HttpRequest Write :=
  match request.stage with
  | .running (.query writes succeeded failed) =>
    let (success, transaction) := request.transaction.execute writes fails
    ⟨.running (if success then succeeded else failed), transaction⟩
  | .running (.respond _) => request
  | .finalizing _ => request
  | .released _ => request

def HttpRequest.finished (request : HttpRequest Write) : HttpRequest Write :=
  match request.stage with
  | .running (.respond statusCode) => { request with stage := .finalizing (some statusCode) }
  | .running (.query _ _ _) => request
  | .finalizing _ => request
  | .released _ => request

def HttpRequest.closed (request : HttpRequest Write) : HttpRequest Write :=
  match request.stage with
  | .running _ => { request with stage := .finalizing none }
  | .finalizing _ => request
  | .released _ => request

def HttpRequest.settled (request : HttpRequest Write) : HttpRequest Write × List Write :=
  match request.stage with
  | .finalizing statusCode =>
    ({ request with stage := .released statusCode },
      if rollsBack statusCode then [] else request.transaction.commit)
  | .running _ => (request, [])
  | .released _ => (request, [])

def HttpRequest.received (request : HttpRequest Write) : Option Nat :=
  match request.stage with
  | .running _ => none
  | .finalizing statusCode => statusCode
  | .released statusCode => statusCode

def HttpRequest.Succeeded (request : HttpRequest Write) : Prop := request.received.any (· < 400) = true
deriving Decidable

@[grind =] def Stage.isReleased : Stage Write → Bool
  | .running _ => false
  | .finalizing _ => false
  | .released _ => true

def HttpRequest.IsReleased (request : HttpRequest Write) : Prop := request.stage.isReleased = true
deriving Decidable

namespace RequestTransactions

variable {index : Nat} {event : RequestEvent Write} {request : HttpRequest Write} (server : Server Write)

def update (index : Nat) (change : HttpRequest Write → HttpRequest Write × List Write) :
    Server Write :=
  match server.requests[index]? with
  | none => server
  | some request =>
    { committed := server.committed ++ (change request).2.map fun write => (index, write)
      requests := server.requests.set index (change request).1 }

@[grind =] def step : RequestEvent Write → Server Write
  | .begin handler => { server with requests := server.requests ++ [⟨.running handler, ⟨[], false⟩⟩] }
  | .execute index fails => update server index fun request => (request.executed fails, [])
  | .finish index => update server index fun request => (request.finished, [])
  | .close index => update server index fun request => (request.closed, [])
  | .settle index => update server index HttpRequest.settled
  | .follow _ => server

def Durable (index : Nat) (request : HttpRequest Write) : Prop :=
  ∀ write ∈ request.transaction.pending, (index, write) ∈ server.committed

/-- What is asked of one step: the end of a transaction leaves the writes of a request that succeeded, and
whoever was told so finds them. -/
def Kept (event : RequestEvent Write) : Prop :=
  match event with
  | .settle index =>
    ∀ request ∈ (step server event).requests[index]?, request.Succeeded → Durable (step server event) index request
  | .follow index => ∀ request ∈ server.requests[index]?, request.Succeeded → Durable server index request
  | .begin _ => True
  | .execute _ _ => True
  | .finish _ => True
  | .close _ => True

instance [DecidableEq Write] (server : Server Write) : (event : RequestEvent Write) → Decidable (Kept server event)
  | .settle index => inferInstanceAs (Decidable (∀ request ∈ (step server (.settle index)).requests[index]?, _ →
      ∀ write ∈ request.transaction.pending, (index, write) ∈ _))
  | .follow index => inferInstanceAs (Decidable (∀ request ∈ server.requests[index]?, _ →
      ∀ write ∈ request.transaction.pending, (index, write) ∈ _))
  | .begin _ => instDecidableTrue
  | .execute _ _ => instDecidableTrue
  | .finish _ => instDecidableTrue
  | .close _ => instDecidableTrue

/-- The condition on one step: no statement of a request that was reported as a success has failed before its
commit, and whoever follows such a request comes after the commit; a request without writes is free of both. -/
def Sound : RequestEvent Write → Prop
  | .settle index =>
    ∀ request ∈ server.requests[index]?, request.Succeeded → request.IsReleased ∨
      request.transaction.aborted = false ∨ request.transaction.pending = []
  | .follow index =>
    ∀ request ∈ server.requests[index]?, request.Succeeded → request.IsReleased ∨ request.transaction.pending = []
  | .begin _ => True
  | .execute _ _ => True
  | .finish _ => True
  | .close _ => True

/-- What the server has committed for each request: everything once a success is released, nothing before. -/
structure Accounted : Prop where
  released : ∀ index request, server.requests[index]? = some request → request.IsReleased → request.Succeeded →
    Durable server index request
  unreleased : ∀ index request, server.requests[index]? = some request → ¬ request.IsReleased →
    ∀ write, (index, write) ∉ server.committed
  known : ∀ index write, (index, write) ∈ server.committed → index < server.requests.length

variable {server}

theorem accounted_idle : Accounted (.idle : Server Write) where
  released _ _ found := by simp [Server.idle] at found
  unreleased _ _ found := by simp [Server.idle] at found
  known _ _ member := by simp [Server.idle] at member

theorem accounted_begin (accounted : Accounted server) (handler : Handler Write) :
    Accounted (step server (.begin handler)) := by
  have new : ∀ index request, (step server (.begin handler)).requests[index]? = some request →
      server.requests[index]? = some request ∨
        index = server.requests.length ∧ request = ⟨.running handler, ⟨[], false⟩⟩ := by
    intro index request found
    simp only [step, List.getElem?_append, List.getElem?_singleton] at found
    split at found
    · exact .inl found
    · next late =>
      split at found
      · next first => exact .inr ⟨by omega, (Option.some.inj found).symm⟩
      · cases found
  refine ⟨?_, ?_, ?_⟩
  · intro index request found released succeeded
    rcases new index request found with old | ⟨rfl, rfl⟩
    · exact accounted.released index request old released succeeded
    · exact fun write member => absurd member List.not_mem_nil
  · intro index request found open' write member
    rcases new index request found with old | ⟨rfl, rfl⟩
    · exact accounted.unreleased index request old open' write member
    · exact absurd (accounted.known _ write member) (Nat.lt_irrefl _)
  · intro index write member
    simp only [step, List.length_append]
    exact Nat.lt_add_right _ (accounted.known index write member)

theorem accounted_update
    {change : HttpRequest Write → HttpRequest Write × List Write} (accounted : Accounted server)
    (released : ∀ request, server.requests[index]? = some request → (change request).1.IsReleased →
      (change request).1.Succeeded → ∀ write ∈ (change request).1.transaction.pending,
        (index, write) ∈ server.committed ∨ write ∈ (change request).2)
    (unreleased : ∀ request, server.requests[index]? = some request → ¬ (change request).1.IsReleased →
      (change request).2 = [] ∧ ¬ request.IsReleased) :
    Accounted (update server index change) := by
  unfold update
  cases found : server.requests[index]? with
  | none => exact accounted
  | some request =>
    have bound : index < server.requests.length := (List.getElem?_eq_some_iff.mp found).1
    have own : (server.requests.set index (change request).1)[index]? = some (change request).1 :=
      List.getElem?_set_self bound
    change Accounted ⟨server.committed ++ (change request).2.map fun write => (index, write), _⟩
    refine ⟨?_, ?_, ?_⟩
    · intro other changed present done succeeded write member
      apply List.mem_append.mpr
      by_cases same : index = other
      · subst same
        cases own.symm.trans present
        rcases released request found done succeeded write member with old | new
        · exact .inl old
        · exact .inr (List.mem_map.mpr ⟨write, new, rfl⟩)
      · rw [List.getElem?_set_ne same] at present
        exact .inl (accounted.released other changed present done succeeded write member)
    · intro other changed present open' write member
      by_cases same : index = other
      · subst same
        cases own.symm.trans present
        obtain ⟨none, before⟩ := unreleased request found open'
        rw [none, List.map_nil, List.append_nil] at member
        exact accounted.unreleased index request found before write member
      · rw [List.getElem?_set_ne same] at present
        rcases List.mem_append.mp member with old | new
        · exact accounted.unreleased other changed present open' write old
        · obtain ⟨_, _, equal⟩ := List.mem_map.mp new
          exact same (Prod.mk.inj equal).1
    · intro other write member
      rw [List.length_set]
      rcases List.mem_append.mp member with old | new
      · exact accounted.known other write old
      · obtain ⟨_, _, equal⟩ := List.mem_map.mp new
        exact (Prod.mk.inj equal).1 ▸ bound

theorem accounted_silent {change : HttpRequest Write → HttpRequest Write}
    (accounted : Accounted server) (kept : ∀ request, change request = request ∨
      ¬ (change request).IsReleased ∧ ¬ request.IsReleased) :
    Accounted (update server index fun request => (change request, [])) := by
  apply accounted_update accounted
  · intro request found released succeeded write member
    rcases kept request with same | ⟨open', -⟩
    · simp only [same] at released succeeded member
      exact .inl (accounted.released index request found released succeeded write member)
    · exact absurd released open'
  · intro request found open'
    rcases kept request with same | ⟨-, before⟩
    · exact ⟨rfl, same ▸ open'⟩
    · exact ⟨rfl, before⟩

theorem executed_kept (request : HttpRequest Write) (fails : Bool) :
    request.executed fails = request ∨ ¬ (request.executed fails).IsReleased ∧ ¬ request.IsReleased := by
  obtain ⟨stage, transaction⟩ := request
  match stage with
  | .running (.query writes succeeded failed) =>
    exact .inr ⟨by simp [HttpRequest.executed, HttpRequest.IsReleased, Stage.isReleased],
      by simp [HttpRequest.IsReleased, Stage.isReleased]⟩
  | .running (.respond _) => exact .inl rfl
  | .finalizing _ => exact .inl rfl
  | .released _ => exact .inl rfl

theorem finished_kept (request : HttpRequest Write) :
    request.finished = request ∨ ¬ request.finished.IsReleased ∧ ¬ request.IsReleased := by
  obtain ⟨stage, transaction⟩ := request
  match stage with
  | .running (.respond _) =>
    exact .inr ⟨by simp [HttpRequest.finished, HttpRequest.IsReleased, Stage.isReleased],
      by simp [HttpRequest.IsReleased, Stage.isReleased]⟩
  | .running (.query _ _ _) => exact .inl rfl
  | .finalizing _ => exact .inl rfl
  | .released _ => exact .inl rfl

theorem closed_kept (request : HttpRequest Write) :
    request.closed = request ∨ ¬ request.closed.IsReleased ∧ ¬ request.IsReleased := by
  obtain ⟨stage, transaction⟩ := request
  match stage with
  | .running _ =>
    exact .inr ⟨by simp [HttpRequest.closed, HttpRequest.IsReleased, Stage.isReleased],
      by simp [HttpRequest.IsReleased, Stage.isReleased]⟩
  | .finalizing _ => exact .inl rfl
  | .released _ => exact .inl rfl

section Settled

variable {request : HttpRequest Write}

@[simp] theorem settled_transaction : request.settled.1.transaction = request.transaction := by
  unfold HttpRequest.settled
  split <;> rfl

theorem settled_succeeded : request.settled.1.Succeeded ↔ request.Succeeded := by
  obtain ⟨stage, transaction⟩ := request
  cases stage <;> exact Iff.rfl

theorem settled_unreleased (open' : ¬ request.settled.1.IsReleased) :
    request.settled.2 = [] ∧ ¬ request.IsReleased := by
  obtain ⟨stage, transaction⟩ := request
  cases stage with
  | running _ => exact ⟨rfl, open'⟩
  | finalizing _ => exact absurd rfl open'
  | released _ => exact absurd rfl open'

theorem settled_writes (succeeded : request.Succeeded) (open' : ¬ request.IsReleased)
    (done : request.settled.1.IsReleased) : request.settled.2 = request.transaction.commit := by
  obtain ⟨stage, transaction⟩ := request
  match stage with
  | .running _ => exact absurd done open'
  | .released _ => exact absurd rfl open'
  | .finalizing none => cases succeeded
  | .finalizing (some code) =>
    have low : code < 400 := by simpa [HttpRequest.Succeeded, HttpRequest.received] using succeeded
    have kept : rollsBack (some code) = false := by simpa [rollsBack] using low
    simp [HttpRequest.settled, kept]

end Settled

theorem commit_eq_pending {transaction : RequestTransaction Write}
    (kept : transaction.aborted = false ∨ transaction.pending = []) : transaction.commit = transaction.pending := by
  unfold RequestTransaction.commit
  rcases kept with intact | empty
  · rw [intact]
    rfl
  · rw [empty, ite_self]

theorem accounted_settle (accounted : Accounted server)
    (sound : Sound server (.settle index)) : Accounted (step server (.settle index)) := by
  apply accounted_update accounted
  · intro request found done succeeded write member
    rw [settled_transaction] at member
    have told := settled_succeeded.mp succeeded
    by_cases before : request.IsReleased
    · exact .inl (accounted.released index request found before told write member)
    · have kept := (sound request found told).resolve_left before
      rw [settled_writes told before done, commit_eq_pending kept]
      exact .inr member
  · intro request _ open'
    exact settled_unreleased open'

theorem accounted_step (accounted : Accounted server)
    (sound : Sound server event) : Accounted (step server event) := by
  cases event with
  | begin handler => exact accounted_begin accounted handler
  | execute index fails => exact accounted_silent accounted fun request => executed_kept request fails
  | finish index => exact accounted_silent accounted finished_kept
  | close index => exact accounted_silent accounted closed_kept
  | settle index => exact accounted_settle accounted sound
  | follow index => exact accounted

theorem settled_request
    (found : server.requests[index]? = some request) :
    (step server (.settle index)).requests[index]? = some request.settled.1 ∧
      (step server (.settle index)).committed =
        server.committed ++ request.settled.2.map fun write => (index, write) := by
  have bound : index < server.requests.length := (List.getElem?_eq_some_iff.mp found).1
  simp only [step, update, found]
  exact ⟨List.getElem?_set_self bound, trivial⟩

theorem unanswered_of_unreleased (open' : ¬ request.settled.1.IsReleased) :
    ¬ request.settled.1.Succeeded := by
  obtain ⟨stage, transaction⟩ := request
  cases stage with
  | running _ => exact nofun
  | finalizing _ => exact absurd rfl open'
  | released _ => exact absurd rfl open'

theorem settle_kept_iff (accounted : Accounted server) :
    Kept server (.settle index) ↔ Sound server (.settle index) := by
  constructor
  · intro kept request found succeeded
    by_contra unsound
    simp only [not_or] at unsound
    obtain ⟨open', failed, some⟩ := unsound
    obtain ⟨after, written⟩ := settled_request found
    obtain ⟨write, member⟩ := List.exists_mem_of_ne_nil _ some
    have aborted : request.transaction.aborted = true := by simpa using failed
    have lost : request.settled.2 = [] := by
      unfold HttpRequest.settled RequestTransaction.commit
      split <;> simp [aborted]
    have there := kept _ after (settled_succeeded.mpr succeeded) write (by rwa [settled_transaction])
    rw [written, lost, List.map_nil, List.append_nil] at there
    exact accounted.unreleased index request found open' write there
  · intro sound changed present succeeded
    have after := accounted_settle accounted sound
    by_cases released : changed.IsReleased
    · exact after.released index changed present released succeeded
    · cases found : server.requests[index]? with
      | none =>
        have gone : (step server (.settle index)).requests[index]? = none := by simp [step, update, found]
        cases gone.symm.trans present
      | some request =>
        cases (settled_request found).1.symm.trans present
        exact absurd succeeded (unanswered_of_unreleased released)

theorem follow_kept_iff (accounted : Accounted server) :
    Kept server (.follow index) ↔ Sound server (.follow index) := by
  constructor
  · intro kept request found succeeded
    by_contra early
    simp only [not_or] at early
    obtain ⟨open', some⟩ := early
    obtain ⟨write, member⟩ := List.exists_mem_of_ne_nil _ some
    exact accounted.unreleased index request found open' write (kept request found succeeded write member)
  · intro sound request found succeeded
    rcases sound request found succeeded with released | empty
    · exact accounted.released index request found released succeeded
    · intro write member
      rw [empty] at member
      exact absurd member List.not_mem_nil

theorem kept_iff (accounted : Accounted server) :
    Kept server event ↔ Sound server event := by
  cases event with
  | settle index => exact settle_kept_iff accounted
  | follow index => exact follow_kept_iff accounted
  | begin _ => exact Iff.rfl
  | execute _ _ => exact Iff.rfl
  | finish _ => exact Iff.rfl
  | close _ => exact Iff.rfl

end RequestTransactions

/-- A success means that everything is committed and seen by whoever was told, exactly when no request that
answers with success has had a failed statement, swallowed or not, before its commit, and no client is heard
again before the commit of the request it was answered for. -/
theorem success_is_durable_iff_nothing_failed_before_commit (events : List (RequestEvent Write)) :
    Meets RequestTransactions.step RequestTransactions.Kept (.idle : Server Write) events ↔
      Meets RequestTransactions.step RequestTransactions.Sound (.idle : Server Write) events := by
  apply meets_iff_meets _ _ events RequestTransactions.accounted_idle
  · intro server event accounted
    exact RequestTransactions.kept_iff accounted
  · intro server event accounted sound
    exact RequestTransactions.accounted_step accounted sound

/-- A one-time password is stored and answered for, but its message fails: the commit keeps nothing. -/
theorem swallowed_failure_loses_the_otp_challenge :
    ¬ Meets RequestTransactions.step RequestTransactions.Kept (.idle : Server String)
      [.begin (.query ["parent_otp_challenges"] (.sendOtpBestEffort [["sms_logs"]] (.respond 201)) (.respond 500)),
        .execute 0 false, .execute 0 true, .finish 0, .settle 0] := by
  decide

end ShuleHub.Database
