import ShuleHub.Auth.AuthService
import ShuleHub.Lib.Processes
import ShuleHub.Lib.Runs

/-! The one connection to Redis, and the commands that the rotations of refresh tokens and the invalidations of
sessions send over it, in any order. -/

namespace ShuleHub.Auth

open Processes Runs

/-- The sessions, the keys that the connection watches, and whether one of them was written since. -/
structure RedisConnection where
  store : SessionStore
  watched : List String
  dirty : Bool

namespace RedisConnection

variable (connection : RedisConnection)

def watch (sessionKey : String) : RedisConnection :=
  { connection with watched := sessionKey :: connection.watched }

def unwatch : RedisConnection := { connection with watched := [], dirty := false }

def del (sessionKey : String) : RedisConnection :=
  { connection with
    store := connection.store.expire sessionKey
    dirty := connection.dirty ||
      (sessionKey ∈ connection.watched ∧ (connection.store.getSession sessionKey).isSome) }

def srem (userId sessionId : String) : RedisConnection :=
  { connection with
    store :=
      { connection.store with userSessions := connection.store.userSessions.filter (· ≠ (userId, sessionId)) } }

/-- `MULTI`, `SET` and `EXEC` go out together. The transaction does nothing on a dirty connection. -/
def exec (session : AuthSessionRecord) : RedisConnection :=
  if connection.dirty then connection.unwatch
  else
    { connection.unwatch with
      store := { connection.store with sessions := connection.store.sessions.put session } }

variable {connection}

theorem getSession_del (connection : RedisConnection) (gone sessionId : String) :
    (connection.del gone).store.getSession sessionId =
      if sessionId = gone then none else connection.store.getSession sessionId :=
  connection.store.getSession_expire gone sessionId

theorem exec_dirty (dirty : connection.dirty = true) (session : AuthSessionRecord) :
    connection.exec session = connection.unwatch := if_pos dirty

theorem getSession_exec (clean : connection.dirty = false)
    (session : AuthSessionRecord) (sessionId : String) :
    (connection.exec session).store.getSession sessionId =
      if sessionId = session.sessionId then some session else connection.store.getSession sessionId := by
  rw [exec, if_neg (by simp [clean])]
  exact connection.store.sessions.find_put

end RedisConnection

inductive Invalidation where
  | reading
  | deleting (found : Option AuthSessionRecord)
  | removing (userId : String)
  | finished

inductive Rotation where
  | watching (attempt : Nat)
  | reading (attempt : Nat)
  | expired
  | reused
  | invalidating (phase : Invalidation)
  | writing (attempt : Nat) (currentSession nextSession : AuthSessionRecord)
  | done (result : Except Exception AuthSessionRecord)

inductive SessionCall where
  | rotate (input : RotateInput) (phase : Rotation)
  | invalidate (sessionId : String) (phase : Invalidation)

/-- The connection, the calls that use it, and the sessions that an invalidation has deleted. -/
structure RedisWorld where
  connection : RedisConnection
  calls : List SessionCall
  deleted : List String

namespace SessionRotation

variable (connection : RedisConnection)

def stepInvalidation (sessionId : String) :
    Invalidation → Invalidation × RedisConnection
  | .reading => (.deleting (connection.store.getSession sessionId), connection)
  | .deleting none => (.finished, connection.del sessionId)
  | .deleting (some session) => (.removing session.userId, connection.del sessionId)
  | .removing userId => (.finished, connection.srem userId sessionId)
  | .finished => (.finished, connection)

def readSession (input : RotateInput) (attempt : Nat) (now : Int) : Rotation :=
  match connection.store.getSession input.sessionId with
  | none => .expired
  | some currentSession =>
    if currentSession.refreshTokenId ≠ input.currentRefreshTokenId then .reused
    else .writing attempt currentSession (rotatedSession currentSession input now)

@[grind =] def stepRotation (input : RotateInput) (now : Int) :
    Rotation → Rotation × RedisConnection
  | .watching attempt => (.reading attempt, connection.watch input.sessionId)
  | .reading attempt => (readSession connection input attempt now, connection)
  | .expired => (.done (.error (.unauthorized "Session has expired")), connection.unwatch)
  | .reused => (.invalidating .reading, connection.unwatch)
  | .invalidating .finished => (.done (.error (.unauthorized "Refresh token reuse detected")), connection)
  | .invalidating phase =>
    let (next, after) := stepInvalidation connection input.sessionId phase
    (.invalidating next, after)
  | .writing attempt _ nextSession =>
    if connection.dirty = false then (.done (.ok nextSession), connection.exec nextSession)
    else if attempt < 2 then (.watching (attempt + 1), connection.exec nextSession)
    else
      (.done (.error (.conflict "Session rotation failed due to a concurrent update")), connection.exec nextSession)
  | .done result => (.done result, connection)

def stepCall (now : Int) : SessionCall → SessionCall × RedisConnection
  | .rotate input phase =>
    let (next, after) := stepRotation connection input now phase
    (.rotate input next, after)
  | .invalidate sessionId phase =>
    let (next, after) := stepInvalidation connection sessionId phase
    (.invalidate sessionId next, after)

def deletes : SessionCall → List String
  | .rotate input (.invalidating (.deleting _)) => [input.sessionId]
  | .invalidate sessionId (.deleting _) => [sessionId]
  | _ => []

def step (world : RedisWorld) (event : Nat × Int) : RedisWorld :=
  match world.calls[event.1]? with
  | none => world
  | some call =>
    { connection := (stepCall world.connection event.2 call).2
      calls := world.calls.set event.1 (stepCall world.connection event.2 call).1
      deleted := deletes call ++ world.deleted }

@[grind =] def begun : SessionCall → Prop
  | .rotate _ (.watching 0) => True
  | .invalidate _ .reading => True
  | _ => False

def opened (store : SessionStore) (calls : List SessionCall) : RedisWorld := ⟨⟨store, [], false⟩, calls, []⟩

end SessionRotation

end ShuleHub.Auth
