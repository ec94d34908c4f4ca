import ShuleHub.Auth.SessionRotation

/-! Which refreshes succeed when calls overlap: one for each refresh token and none of a session that was
deleted, as long as no transaction passes on a session that changed since it was read. -/

namespace ShuleHub.Auth

open Processes Runs

namespace SessionRotation

variable {sessionId tokenId : String} {input : RotateInput} {attempt : Nat}
  {currentSession nextSession : AuthSessionRecord} {event : Nat × Int} (store : SessionStore)

def Succeeded (sessionId tokenId : String) : SessionCall → Prop
  | .rotate input (.done (.ok _)) => input.sessionId = sessionId ∧ input.currentRefreshTokenId = tokenId
  | _ => False

structure Exclusive (world : RedisWorld) : Prop where
  once : ∀ sessionId tokenId, AtMostOne (Succeeded sessionId tokenId) world.calls
  gone : ∀ sessionId ∈ world.deleted, world.connection.store.getSession sessionId = none

/-- The condition on one command: a transaction that Redis lets pass finds the session as its call read it. -/
def UpToDate (world : RedisWorld) (event : Nat × Int) : Prop :=
  match world.calls[event.1]? with
  | some (.rotate input (.writing _ currentSession _)) =>
    world.connection.dirty = true ∨ world.connection.store.getSession input.sessionId = some currentSession
  | _ => True

def nextTokenId : SessionCall → Option String
  | .rotate input _ => some input.nextRefreshTokenId
  | .invalidate _ _ => none

/-- The tokens that the refreshes draw differ from each other and from the ones that the sessions begin with. -/
structure Drawn (calls : List SessionCall) : Prop where
  distinct : ∀ tokenId, AtMostOne (fun call => nextTokenId call = some tokenId) calls
  new : ∀ sessionId session, store.getSession sessionId = some session →
    ∀ call ∈ calls, nextTokenId call ≠ some session.refreshTokenId

/-- A token that a session has or had: it began with it, or a refresh that succeeded handed it out. -/
def Past (initial : SessionStore) (calls : List SessionCall) (sessionId tokenId : String) : Prop :=
  (∃ session, initial.getSession sessionId = some session ∧ session.refreshTokenId = tokenId) ∨
    ∃ (place : Nat) (current : String) (call : SessionCall), calls[place]? = some call ∧
      Succeeded sessionId current call ∧ nextTokenId call = some tokenId

/-- What a call knows of the session that it read: it is that session still, or it was deleted, or another refresh
by the same token succeeded. -/
def Aware (world : RedisWorld) : SessionCall → Prop
  | .rotate input (.writing _ currentSession nextSession) =>
    currentSession.refreshTokenId = input.currentRefreshTokenId ∧ currentSession.sessionId = input.sessionId ∧
      nextSession.sessionId = input.sessionId ∧ nextSession.refreshTokenId = input.nextRefreshTokenId ∧
      (world.connection.store.getSession input.sessionId = some currentSession ∨
        input.sessionId ∈ world.deleted ∨
        ∃ (place : Nat) (other : SessionCall), world.calls[place]? = some other ∧
          Succeeded input.sessionId input.currentRefreshTokenId other)
  | _ => True

structure Inv (initial : SessionStore) (world : RedisWorld) : Prop where
  exclusive : Exclusive world
  drawn : Drawn initial world.calls
  stored : ∀ sessionId session, world.connection.store.getSession sessionId = some session →
    Past initial world.calls sessionId session.refreshTokenId
  spent : ∀ (place : Nat) (call : SessionCall) (sessionId tokenId : String), world.calls[place]? = some call →
    Succeeded sessionId tokenId call → Past initial world.calls sessionId tokenId ∧
      ∀ session, world.connection.store.getSession sessionId = some session → session.refreshTokenId ≠ tokenId
  aware : ∀ (place : Nat) (call : SessionCall), world.calls[place]? = some call → Aware world call

/-- A call as a `GET` leaves it, where it read the session as it is. -/
def Current : SessionCall → Prop
  | .rotate input (.writing _ currentSession nextSession) =>
    currentSession.refreshTokenId = input.currentRefreshTokenId ∧ currentSession.sessionId = input.sessionId ∧
      nextSession.sessionId = input.sessionId ∧ nextSession.refreshTokenId = input.nextRefreshTokenId ∧
      store.getSession input.sessionId = some currentSession
  | _ => True

structure Passes (call next : SessionCall) : Prop where
  token : nextTokenId next = nextTokenId call
  succeeded : ∀ sessionId tokenId, Succeeded sessionId tokenId next ↔ Succeeded sessionId tokenId call
  current : Current store next

theorem stepCall_cases (connection : RedisConnection) (now : Int) (call : SessionCall) :
    (Passes connection.store call (stepCall connection now call).1 ∧ deletes call = [] ∧
        ∀ sessionId, (stepCall connection now call).2.store.getSession sessionId =
          connection.store.getSession sessionId) ∨
      (Passes connection.store call (stepCall connection now call).1 ∧ ∃ gone, deletes call = [gone] ∧
        ∀ sessionId, (stepCall connection now call).2.store.getSession sessionId =
          if sessionId = gone then none else connection.store.getSession sessionId) ∨
      ∃ input attempt currentSession nextSession,
        call = .rotate input (.writing attempt currentSession nextSession) ∧ connection.dirty = false ∧
          stepCall connection now call = (.rotate input (.done (.ok nextSession)), connection.exec nextSession) := by
  cases call with
  | invalidate sessionId phase =>
    cases phase with
    | reading => exact .inl ⟨⟨rfl, fun _ _ => Iff.rfl, trivial⟩, rfl, fun _ => rfl⟩
    | deleting found =>
      refine .inr (.inl ⟨?_, sessionId, rfl, ?_⟩)
      · cases found <;> exact ⟨rfl, fun _ _ => Iff.rfl, trivial⟩
      · intro other
        cases found <;> exact connection.getSession_del sessionId other
    | removing userId => exact .inl ⟨⟨rfl, fun _ _ => Iff.rfl, trivial⟩, rfl, fun _ => rfl⟩
    | finished => exact .inl ⟨⟨rfl, fun _ _ => Iff.rfl, trivial⟩, rfl, fun _ => rfl⟩
  | rotate input phase =>
    cases phase with
    | watching attempt => exact .inl ⟨⟨rfl, fun _ _ => Iff.rfl, trivial⟩, rfl, fun _ => rfl⟩
    | reading attempt =>
      refine .inl ⟨⟨rfl, ?_, ?_⟩, rfl, fun _ => rfl⟩
      · intro sessionId tokenId
        simp only [stepCall, stepRotation, readSession]
        split
        · exact Iff.rfl
        · split <;> exact Iff.rfl
      · simp only [stepCall, stepRotation, readSession]
        split
        · trivial
        · next currentSession found =>
          split
          · trivial
          · next same =>
            have own := SessionStore.getSession_sessionId found
            exact ⟨not_not.mp same, own, own, rfl, found⟩
    | expired => exact .inl ⟨⟨rfl, fun _ _ => Iff.rfl, trivial⟩, rfl, fun _ => rfl⟩
    | reused => exact .inl ⟨⟨rfl, fun _ _ => Iff.rfl, trivial⟩, rfl, fun _ => rfl⟩
    | invalidating phase =>
      cases phase with
      | reading => exact .inl ⟨⟨rfl, fun _ _ => Iff.rfl, trivial⟩, rfl, fun _ => rfl⟩
      | deleting found =>
        refine .inr (.inl ⟨?_, input.sessionId, rfl, ?_⟩)
        · cases found <;> exact ⟨rfl, fun _ _ => Iff.rfl, trivial⟩
        · intro other
          cases found <;> exact connection.getSession_del input.sessionId other
      | removing userId => exact .inl ⟨⟨rfl, fun _ _ => Iff.rfl, trivial⟩, rfl, fun _ => rfl⟩
      | finished => exact .inl ⟨⟨rfl, fun _ _ => Iff.rfl, trivial⟩, rfl, fun _ => rfl⟩
    | writing attempt currentSession nextSession =>
      by_cases clean : connection.dirty = false
      · refine .inr (.inr ⟨input, attempt, currentSession, nextSession, rfl, clean, ?_⟩)
        simp only [stepCall, stepRotation, if_pos clean]
      · have dirty : connection.dirty = true := by simpa using clean
        refine .inl ⟨?_, rfl, ?_⟩
        · simp only [stepCall, stepRotation, if_neg clean]
          split <;> exact ⟨rfl, fun _ _ => Iff.rfl, trivial⟩
        · intro sessionId
          simp only [stepCall, stepRotation, if_neg clean, RedisConnection.exec_dirty dirty]
          split <;> rfl
    | done result => exact .inl ⟨⟨rfl, fun _ _ => Iff.rfl, trivial⟩, rfl, fun _ => rfl⟩

variable {initial : SessionStore} {world : RedisWorld} {place : Nat} {call next : SessionCall}

theorem past_set (found : world.calls[place]? = some call) (token : nextTokenId next = nextTokenId call)
    (succeeded : ∀ sessionId tokenId, Succeeded sessionId tokenId call → Succeeded sessionId tokenId next) (past : Past initial world.calls sessionId tokenId) :
    Past initial (world.calls.set place next) sessionId tokenId := by
  rcases past with began | ⟨other, current, done, stands, succeeds, hands⟩
  · exact .inl began
  · right
    by_cases same : place = other
    · subst same
      obtain rfl := Option.some.inj (found.symm.trans stands)
      exact ⟨place, current, next, List.getElem?_set_self (List.getElem?_eq_some_iff.mp found).1,
        succeeded _ _ succeeds, token.trans hands⟩
    · exact ⟨other, current, done, (List.getElem?_set_ne same).trans stands, succeeds, hands⟩

theorem succeeded_set (found : world.calls[place]? = some call)
    (succeeded : ∀ sessionId tokenId, Succeeded sessionId tokenId call → Succeeded sessionId tokenId next)
    (before : ∃ (place : Nat) (other : SessionCall), world.calls[place]? = some other ∧
      Succeeded sessionId tokenId other) :
    ∃ (other : Nat) (done : SessionCall), (world.calls.set place next)[other]? = some done ∧
      Succeeded sessionId tokenId done := by
  obtain ⟨other, done, stands, succeeds⟩ := before
  by_cases same : place = other
  · subst same
    obtain rfl := Option.some.inj (found.symm.trans stands)
    exact ⟨place, next, List.getElem?_set_self (List.getElem?_eq_some_iff.mp found).1, succeeded _ _ succeeds⟩
  · exact ⟨other, done, (List.getElem?_set_ne same).trans stands, succeeds⟩

theorem drawn_set (drawn : Drawn initial world.calls) (found : world.calls[place]? = some call)
    (token : nextTokenId next = nextTokenId call) : Drawn initial (world.calls.set place next) where
  distinct tokenId := by
    apply (drawn.distinct tokenId).of_before
    intro other process stands hands
    rcases replaced stands with ⟨rfl, rfl⟩ | ⟨_, old⟩
    · exact ⟨call, found, token.symm.trans hands⟩
    · exact ⟨process, old, hands⟩
  new sessionId session began other member := by
    rcases List.mem_or_eq_of_mem_set member with old | rfl
    · exact drawn.new sessionId session began other old
    · rw [token]
      exact drawn.new sessionId session began call (List.mem_of_getElem? found)

theorem inv_passes (inv : Inv initial world) (found : world.calls[place]? = some call)
    (passes : Passes world.connection.store call next) {connection : RedisConnection} {deleted : List String}
    (fewer : ∀ sessionId session, connection.store.getSession sessionId = some session →
      world.connection.store.getSession sessionId = some session)
    (gone : ∀ sessionId ∈ deleted, connection.store.getSession sessionId = none)
    (noted : ∀ sessionId ∈ world.deleted, sessionId ∈ deleted)
    (lost : ∀ sessionId, connection.store.getSession sessionId = world.connection.store.getSession sessionId ∨
      sessionId ∈ deleted) :
    Inv initial ⟨connection, world.calls.set place next, deleted⟩ := by
  have onwards := fun sessionId tokenId => (passes.succeeded sessionId tokenId).mpr
  refine ⟨⟨?_, gone⟩, drawn_set inv.drawn found passes.token, ?_, ?_, ?_⟩
  · intro sessionId tokenId
    apply (inv.exclusive.once sessionId tokenId).of_before
    intro other process stands succeeds
    rcases replaced stands with ⟨rfl, rfl⟩ | ⟨_, old⟩
    · exact ⟨call, found, (passes.succeeded sessionId tokenId).mp succeeds⟩
    · exact ⟨process, old, succeeds⟩
  · intro sessionId session stored
    exact past_set found passes.token onwards (inv.stored sessionId session (fewer sessionId session stored))
  · intro other process sessionId tokenId stands succeeds
    obtain ⟨past, differs⟩ : Past initial world.calls sessionId tokenId ∧
        ∀ session, world.connection.store.getSession sessionId = some session → session.refreshTokenId ≠ tokenId := by
      rcases replaced stands with ⟨rfl, rfl⟩ | ⟨_, old⟩
      · exact inv.spent place call sessionId tokenId found ((passes.succeeded sessionId tokenId).mp succeeds)
      · exact inv.spent other process sessionId tokenId old succeeds
    refine ⟨past_set found passes.token onwards past, ?_⟩
    intro session stored
    exact differs session (fewer sessionId session stored)
  · intro other process stands
    have known : ∀ (input : RotateInput) (currentSession : AuthSessionRecord),
        (world.connection.store.getSession input.sessionId = some currentSession ∨ input.sessionId ∈ world.deleted ∨
          ∃ (place : Nat) (other : SessionCall), world.calls[place]? = some other ∧
            Succeeded input.sessionId input.currentRefreshTokenId other) →
        connection.store.getSession input.sessionId = some currentSession ∨ input.sessionId ∈ deleted ∨
          ∃ (other : Nat) (done : SessionCall), (world.calls.set place next)[other]? = some done ∧
            Succeeded input.sessionId input.currentRefreshTokenId done := by
      intro input currentSession before
      rcases before with same | removed | another
      · rcases lost input.sessionId with kept | missing
        · exact .inl (kept.trans same)
        · exact .inr (.inl missing)
      · exact .inr (.inl (noted _ removed))
      · exact .inr (.inr (succeeded_set found onwards another))
    rcases replaced stands with ⟨rfl, rfl⟩ | ⟨_, old⟩
    · have current := passes.current
      unfold Current at current
      unfold Aware
      split
      · obtain ⟨latest, own, ownNext, drawn, read⟩ := current
        exact ⟨latest, own, ownNext, drawn, known _ _ (.inl read)⟩
      · trivial
    · have before := inv.aware other process old
      unfold Aware at before ⊢
      split
      · obtain ⟨latest, own, ownNext, drawn, aware⟩ := before
        exact ⟨latest, own, ownNext, drawn, known _ _ aware⟩
      · trivial

theorem not_past_drawn (inv : Inv initial world)
    (found : world.calls[place]? = some (.rotate input (.writing attempt currentSession nextSession)))
    (sessionId : String) : ¬ Past initial world.calls sessionId input.nextRefreshTokenId := by
  rintro (⟨session, began, same⟩ | ⟨other, current, done, stands, succeeds, hands⟩)
  · apply inv.drawn.new sessionId session began _ (List.mem_of_getElem? found)
    rw [same]
    rfl
  · obtain rfl := inv.drawn.distinct input.nextRefreshTokenId other place done _ stands found hands rfl
    obtain rfl := Option.some.inj (found.symm.trans stands)
    exact succeeds

theorem inv_write (inv : Inv initial world)
    (found : world.calls[place]? = some (.rotate input (.writing attempt currentSession nextSession)))
    (clean : world.connection.dirty = false)
    (unchanged : world.connection.store.getSession input.sessionId = some currentSession) :
    Inv initial ⟨world.connection.exec nextSession, world.calls.set place (.rotate input (.done (.ok nextSession))),
      world.deleted⟩ := by
  obtain ⟨latest, _, own, drawn, _⟩ := inv.aware place _ found
  have unused := not_past_drawn inv found input.sessionId
  have after := RedisConnection.getSession_exec clean nextSession
  have onwards : ∀ sessionId tokenId, Succeeded sessionId tokenId
      (.rotate input (.writing attempt currentSession nextSession)) →
      Succeeded sessionId tokenId (.rotate input (.done (.ok nextSession))) := fun _ _ => False.elim
  have token : nextTokenId (.rotate input (.done (.ok nextSession))) =
      nextTokenId (.rotate input (.writing attempt currentSession nextSession)) := rfl
  have past : Past initial world.calls input.sessionId input.currentRefreshTokenId :=
    latest ▸ inv.stored input.sessionId currentSession unchanged
  have inBounds := (List.getElem?_eq_some_iff.mp found).1
  refine ⟨⟨?_, ?_⟩, drawn_set inv.drawn found token, ?_, ?_, ?_⟩
  · -- whoever succeeded by this token before left the session with another one
    have first : ∀ (other : Nat) (process : SessionCall), world.calls[other]? = some process →
        ¬ Succeeded input.sessionId input.currentRefreshTokenId process := by
      intro other process stands succeeds
      exact (inv.spent other process _ _ stands succeeds).2 currentSession unchanged latest
    intro sessionId tokenId one two process other oneStands twoStands oneSucceeds twoSucceeds
    rcases replaced oneStands with ⟨rfl, rfl⟩ | ⟨_, oneOld⟩
    · rcases replaced twoStands with ⟨rfl, _⟩ | ⟨_, twoOld⟩
      · rfl
      · obtain ⟨rfl, rfl⟩ := oneSucceeds
        exact absurd twoSucceeds (first two other twoOld)
    · rcases replaced twoStands with ⟨rfl, rfl⟩ | ⟨_, twoOld⟩
      · obtain ⟨rfl, rfl⟩ := twoSucceeds
        exact absurd oneSucceeds (first one process oneOld)
      · exact inv.exclusive.once sessionId tokenId one two process other oneOld twoOld oneSucceeds twoSucceeds
  · intro sessionId deleted
    have missing := inv.exclusive.gone sessionId deleted
    change (world.connection.exec nextSession).store.getSession sessionId = none
    rw [after, if_neg]
    · exact missing
    · rintro rfl
      rw [own, unchanged] at missing
      cases missing
  · intro sessionId session stored
    change (world.connection.exec nextSession).store.getSession sessionId = some session at stored
    rw [after] at stored
    split at stored
    · next same =>
      obtain rfl := Option.some.inj stored
      refine .inr ⟨place, input.currentRefreshTokenId, _, List.getElem?_set_self inBounds, ⟨?_, rfl⟩, ?_⟩
      · exact own.symm.trans same.symm
      · rw [drawn]
        rfl
    · exact past_set found token onwards (inv.stored sessionId session stored)
  · intro other process sessionId tokenId stands succeeds
    have before : Past initial world.calls sessionId tokenId ∧ ∀ session, sessionId ≠ input.sessionId →
        world.connection.store.getSession sessionId = some session → session.refreshTokenId ≠ tokenId := by
      rcases replaced stands with ⟨rfl, rfl⟩ | ⟨_, old⟩
      · obtain ⟨rfl, rfl⟩ := succeeds
        exact ⟨past, fun _ differs => absurd rfl differs⟩
      · obtain ⟨known, differs⟩ := inv.spent other process sessionId tokenId old succeeds
        exact ⟨known, fun session _ => differs session⟩
    refine ⟨past_set found token onwards before.1, ?_⟩
    intro session stored
    change (world.connection.exec nextSession).store.getSession sessionId = some session at stored
    rw [after] at stored
    split at stored
    · next same =>
      obtain rfl := Option.some.inj stored
      rw [drawn]
      rintro rfl
      rw [own] at same
      exact unused (same ▸ before.1)
    · next differs => exact before.2 session (fun same => differs (same.trans own.symm)) stored
  · intro other process stands
    rcases replaced stands with ⟨rfl, rfl⟩ | ⟨_, old⟩
    · trivial
    · have before := inv.aware other process old
      unfold Aware at before ⊢
      split
      · next another _ known _ =>
        obtain ⟨latestKnown, ownKnown, ownNext, drawnKnown, aware⟩ := before
        refine ⟨latestKnown, ownKnown, ownNext, drawnKnown, ?_⟩
        rcases aware with same | removed | won
        · by_cases shared : another.sessionId = input.sessionId
          · -- the session that the other call read is the one that is replaced now
            rw [shared, unchanged] at same
            obtain rfl := Option.some.inj same
            refine .inr (.inr ⟨place, _, List.getElem?_set_self inBounds, ?_⟩)
            exact ⟨shared.symm, latest.symm.trans latestKnown⟩
          · left
            change (world.connection.exec nextSession).store.getSession another.sessionId = some known
            rw [after, if_neg (fun hit => shared (hit.trans own))]
            exact same
        · exact .inr (.inl removed)
        · exact .inr (.inr (succeeded_set found onwards won))
      · trivial

theorem inv_step (inv : Inv initial world) (upToDate : UpToDate world event) :
    Inv initial (step world event) := by
  unfold step
  split
  · exact inv
  · next call found =>
    rcases stepCall_cases world.connection event.2 call with ⟨passes, none, same⟩ | ⟨passes, gone, one, removed⟩ |
      ⟨input, attempt, currentSession, nextSession, rfl, clean, outcome⟩
    · refine inv_passes inv found passes ?_ ?_ ?_ ?_
      · intro sessionId session stored
        exact (same sessionId).symm.trans stored
      · intro sessionId deleted
        rw [none] at deleted
        exact (same sessionId).trans (inv.exclusive.gone sessionId deleted)
      · intro sessionId deleted
        exact List.mem_append_right _ deleted
      · intro sessionId
        exact .inl (same sessionId)
    · refine inv_passes inv found passes ?_ ?_ ?_ ?_
      · intro sessionId session stored
        rw [removed] at stored
        split at stored
        · cases stored
        · exact stored
      · intro sessionId deleted
        rw [removed]
        split
        · rfl
        · next differs =>
          rw [one] at deleted
          exact inv.exclusive.gone sessionId ((List.mem_cons.mp deleted).resolve_left differs)
      · intro sessionId deleted
        exact List.mem_append_right _ deleted
      · intro sessionId
        rw [removed, one]
        split
        · next hit => exact .inr (hit ▸ List.mem_cons_self)
        · exact .inl rfl
    · rw [outcome]
      simp only [UpToDate, found, clean, Bool.false_eq_true, false_or] at upToDate
      exact inv_write inv found clean upToDate

/-- A transaction that passes on a session that changed brings back a deleted one or rotates a token again. -/
theorem outdated_write (inv : Inv initial world) (outdated : ¬ UpToDate world event) :
    ¬ Exclusive (step world event) := by
  unfold UpToDate at outdated
  split at outdated
  · next input attempt currentSession nextSession found =>
    obtain ⟨clean, changed⟩ := not_or.mp outdated
    have notDirty : world.connection.dirty = false := by simpa using clean
    obtain ⟨_, _, own, _, aware⟩ := inv.aware _ _ found
    have passes : stepCall world.connection event.2 (.rotate input (.writing attempt currentSession nextSession)) =
        (.rotate input (.done (.ok nextSession)), world.connection.exec nextSession) := by
      simp only [stepCall, stepRotation, if_pos notDirty]
    have inBounds := (List.getElem?_eq_some_iff.mp found).1
    simp only [step, found, passes]
    rintro ⟨once, gone⟩
    rcases aware with same | removed | ⟨other, done, stands, succeeds⟩
    · exact changed same
    · have missing := gone input.sessionId (List.mem_append_right _ removed)
      change (world.connection.exec nextSession).store.getSession input.sessionId = none at missing
      rw [RedisConnection.getSession_exec notDirty, if_pos own.symm] at missing
      cases missing
    · have differs : event.1 ≠ other := by
        rintro rfl
        obtain rfl := Option.some.inj (found.symm.trans stands)
        exact succeeds
      exact differs (once input.sessionId input.currentRefreshTokenId event.1 other _ done
        (List.getElem?_set_self inBounds) ((List.getElem?_set_ne differs).trans stands) ⟨rfl, rfl⟩ succeeds)
  · exact absurd trivial outdated

theorem inv_opened {store : SessionStore} {calls : List SessionCall} (drawn : Drawn store calls)
    (all : ∀ call ∈ calls, begun call) : Inv store (opened store calls) where
  exclusive :=
    { once := by
        intro sessionId tokenId
        refine @AtMostOne.of_place _ _ _ 0 ?_
        intro place call found succeeds
        have start := all call (List.mem_of_getElem? found)
        unfold begun at start
        split at start
        · exact succeeds.elim
        · exact succeeds.elim
        · exact start.elim
      gone := fun _ member => absurd member List.not_mem_nil }
  drawn
  stored sessionId session found := .inl ⟨session, found, rfl⟩
  spent place call sessionId tokenId found succeeds := by
    have start := all call (List.mem_of_getElem? found)
    unfold begun at start
    split at start
    · exact succeeds.elim
    · exact succeeds.elim
    · exact start.elim
  aware place call found := by
    have start := all call (List.mem_of_getElem? found)
    unfold begun at start
    split at start
    · trivial
    · trivial
    · exact start.elim

end SessionRotation

/-- Of all refreshes by one token at most one succeeds, and no session that was deleted is written again, in every
state of every interleaving, exactly when each transaction that passes finds its session as its call read it. -/
theorem refreshes_are_exclusive_iff_transactions_are_up_to_date {store : SessionStore} {calls : List SessionCall}
    (all : ∀ call ∈ calls, SessionRotation.begun call) (drawn : SessionRotation.Drawn store calls)
    (events : List (Nat × Int)) :
    Along SessionRotation.step SessionRotation.Exclusive (SessionRotation.opened store calls) events ↔
      Meets SessionRotation.step SessionRotation.UpToDate (SessionRotation.opened store calls) events := by
  apply along_iff_meets _ _ _ events (SessionRotation.inv_opened drawn all)
  · intro world event inv upToDate
    exact SessionRotation.inv_step inv upToDate
  · intro world inv
    exact inv.exclusive
  · intro world event inv outdated
    exact SessionRotation.outdated_write inv outdated

namespace SessionRotation

def sampleSession : AuthSessionRecord where
  userId := "user-1"
  tenantId := some "lakeside"
  role := "teacher"
  audience := .school
  permissions := ["discipline:write"]
  sessionId := "session-1"
  isAuthenticated := true
  emailVerifiedAt := some 0
  refreshTokenId := "token-1"
  createdAt := 0
  updatedAt := 0
  refreshExpiresAt := 90000
  ipAddress := none
  userAgent := none

def sampleStore : SessionStore := SessionStore.empty.persistSession sampleSession

def refreshOf (nextRefreshTokenId : String) : SessionCall :=
  .rotate ⟨"session-1", "token-1", nextRefreshTokenId, "teacher", ["discipline:write"], some 0, 95000⟩ (.watching 0)

def sampleCalls : List SessionCall := [refreshOf "token-2", refreshOf "token-3"]

theorem sample_begun : ∀ call ∈ sampleCalls, begun call := by
  simp [sampleCalls, refreshOf, begun]

theorem sample_drawn : Drawn sampleStore sampleCalls where
  distinct tokenId := by
    have places : ∀ (place : Nat) (call : SessionCall), sampleCalls[place]? = some call →
        nextTokenId call = some tokenId → place = 0 ∧ tokenId = "token-2" ∨ place = 1 ∧ tokenId = "token-3" := by
      intro place call found hands
      match place, found with
      | 0, found =>
        obtain rfl := Option.some.inj found
        exact .inl ⟨rfl, (Option.some.inj hands).symm⟩
      | 1, found =>
        obtain rfl := Option.some.inj found
        exact .inr ⟨rfl, (Option.some.inj hands).symm⟩
      | _ + 2, found => cases found
    intro first second one other firstFound secondFound hands handsOther
    rcases places first one firstFound hands with ⟨rfl, rfl⟩ | ⟨rfl, rfl⟩
    · rcases places second other secondFound handsOther with ⟨rfl, _⟩ | ⟨_, differs⟩
      · rfl
      · exact absurd differs (by decide)
    · rcases places second other secondFound handsOther with ⟨_, differs⟩ | ⟨rfl, _⟩
      · exact absurd differs (by decide)
      · rfl
  new sessionId session found call member := by
    unfold sampleStore at found
    rw [SessionStore.getSession_persist] at found
    split at found
    · obtain rfl := Option.some.inj found
      revert call
      simp [sampleCalls, refreshOf, nextTokenId, sampleSession]
    · cases found

end SessionRotation

open SessionRotation in
theorem refreshes_in_turn_are_exclusive :
    Along step Exclusive (opened sampleStore sampleCalls) [(0, 10), (0, 11), (0, 12), (1, 13), (1, 14), (1, 15)] := by
  apply (refreshes_are_exclusive_iff_transactions_are_up_to_date sample_begun sample_drawn _).mpr
  exact ⟨trivial, trivial, .inr rfl, trivial, trivial, trivial, trivial⟩

open SessionRotation in
/-- The transaction of one refresh clears the watch of the other, and both succeed by one token. -/
theorem transaction_disarms_the_other_refresh :
    ¬ Along step Exclusive (opened sampleStore sampleCalls) [(0, 10), (0, 11), (1, 12), (1, 13), (0, 14), (1, 15)] := by
  rintro ⟨_, _, _, _, _, _, exclusive⟩
  have same := exclusive.once "session-1" "token-1" 0 1 _ _ rfl rfl ⟨rfl, rfl⟩ ⟨rfl, rfl⟩
  cases same

end ShuleHub.Auth
