import ShuleHub.Lib.JsText
import ShuleHub.Lib.KeyedTable
import ShuleHub.Lib.Runs

/-! The subscriptions to the public status page, and how many calls of one email and of one address succeed. -/

namespace ShuleHub.Support

open Runs

structure StatusSubscription where
  contactHash : String
  locale : Option String
  consentAt : Int
  clientIpHash : Option String
  createdAt : Int

abbrev StatusSubscriptions := KeyedTable StatusSubscription String (·.contactHash)

structure StatusSubscribeInput where
  email : String
  locale : Option String
  clientIp : Option String
  now : Int

inductive SubscribeError where
  | badRequest (message : String)
  | tooManyRequests (message : String)
deriving DecidableEq

def isEmail (text : List Char) : Bool :=
  match text.splitOn '@' with
  | [name, domain] => name ≠ [] && '.' ∈ (domain.drop 1).dropLast && text.all (!JsText.isSpace ·)
  | _ => false

def normalizeEmail (email : String) : Except SubscribeError String :=
  let normalized := JsText.toLowerCase (JsText.trim email)
  if isEmail normalized.toList then .ok normalized
  else .error (.badRequest "A valid email is required for status subscriptions")

def attemptWindow : Int := 15 * 60000

section Service

-- The HMAC under the secret of the service.
variable (hmac : String → String)

def hashContact (value : String) : String := hmac (JsText.toLowerCase (JsText.trim value))

def StatusSubscribeInput.ipHash (input : StatusSubscribeInput) : Option String :=
  (input.clientIp.filter (· ≠ "")).map (hashContact hmac)

def isRecentAttempt (contactHash : String) (ipHash : Option String) (since : Int) (row : StatusSubscription) : Prop :=
  since ≤ row.createdAt ∧ (row.contactHash = contactHash ∨ ipHash ≠ none ∧ row.clientIpHash = ipHash)
deriving Decidable

def countRecentStatusSubscriptionAttempts (contactHash : String) (ipHash : Option String) (since : Int)
    (rows : List StatusSubscription) : Nat :=
  rows.countP fun row => isRecentAttempt contactHash ipHash since row

/-- `INSERT … ON CONFLICT (tenant_id, contact_hash) DO UPDATE`: a row that is there keeps the time of its creation. -/
def createStatusSubscription (row : StatusSubscription) (rows : StatusSubscriptions) : StatusSubscriptions :=
  rows.put { row with createdAt := (rows.find row.contactHash).elim row.createdAt (·.createdAt) }

def subscribe (input : StatusSubscribeInput) (rows : StatusSubscriptions) : Except SubscribeError StatusSubscriptions :=
  match normalizeEmail input.email with
  | .error error => .error error
  | .ok email =>
    let contactHash := hashContact hmac email
    if 3 ≤ countRecentStatusSubscriptionAttempts contactHash (input.ipHash hmac) (input.now - attemptWindow) rows.rows then
      .error (.tooManyRequests "Too many status subscription attempts")
    else .ok (createStatusSubscription
      ⟨contactHash, (input.locale.map JsText.trim).filter (· ≠ ""), input.now, input.ipHash hmac, input.now⟩ rows)

structure SubscribedCall where
  email : String
  clientIp : Option String
  time : Int
deriving DecidableEq

structure StatusWorld where
  rows : StatusSubscriptions
  succeeded : List SubscribedCall

def applySubscribe (world : StatusWorld) (input : StatusSubscribeInput) : StatusWorld :=
  match normalizeEmail input.email, subscribe hmac input world.rows with
  | .ok email, .ok rows => ⟨rows, world.succeeded ++ [⟨email, input.clientIp.filter (· ≠ ""), input.now⟩]⟩
  | _, _ => world

end Service

def recentCalls (same : SubscribedCall → Bool) (since : Int) (calls : List SubscribedCall) : Nat :=
  calls.countP fun call => same call && since ≤ call.time

def callsWithin (same : SubscribedCall → Bool) (first : Int) (calls : List SubscribedCall) : Nat :=
  calls.countP fun call => same call && first ≤ call.time && call.time ≤ first + attemptWindow

/-- Of any email, and of any address, at most three calls have succeeded in any interval. -/
def WithinLimit (world : StatusWorld) : Prop :=
  ∀ first : Int,
    (∀ email, callsWithin (·.email = email) first world.succeeded ≤ 3) ∧
    ∀ address, callsWithin (·.clientIp = some address) first world.succeeded ≤ 3

/-- A call of an email or of an address that three calls have succeeded with in the window is rejected. -/
def RejectsFurther (hmac : String → String) (world : StatusWorld) (input : StatusSubscribeInput) : Prop :=
  ∀ email, normalizeEmail input.email = .ok email →
    (3 ≤ recentCalls (·.email = email) (input.now - attemptWindow) world.succeeded ∨
      ∃ address ∈ input.clientIp.filter (· ≠ ""),
        3 ≤ recentCalls (·.clientIp = some address) (input.now - attemptWindow) world.succeeded) →
      subscribe hmac input world.rows = .error (.tooManyRequests "Too many status subscription attempts")

def SubscribesAnew (hmac : String → String) (world : StatusWorld) (input : StatusSubscribeInput) : Prop :=
  ∀ email, normalizeEmail input.email = .ok email → world.rows.find (hashContact hmac email) = none

section Limit

variable {hmac : String → String} {world : StatusWorld} {input : StatusSubscribeInput}

def columns (hmac : String → String) (call : SubscribedCall) : String × Option String × Int :=
  (hashContact hmac call.email, call.clientIp.map (hashContact hmac), call.time)

structure Counted (hmac : String → String) (world : StatusWorld) : Prop where
  listed : world.rows.rows.map (fun row => (row.contactHash, row.clientIpHash, row.createdAt)) =
    world.succeeded.map (columns hmac)
  limit : WithinLimit world

theorem recentCalls_le (counted : Counted hmac world) {same : SubscribedCall → Bool} {contactHash : String}
    {ipHash : Option String} (since : Int) (recent : ∀ call, same call = true →
      hashContact hmac call.email = contactHash ∨ ipHash ≠ none ∧ call.clientIp.map (hashContact hmac) = ipHash) :
    recentCalls same since world.succeeded ≤
      countRecentStatusSubscriptionAttempts contactHash ipHash since world.rows.rows := by
  let hit (columns : String × Option String × Int) : Bool :=
    since ≤ columns.2.2 ∧ (columns.1 = contactHash ∨ ipHash ≠ none ∧ columns.2.1 = ipHash)
  have rows : countRecentStatusSubscriptionAttempts contactHash ipHash since world.rows.rows =
      (world.succeeded.map (columns hmac)).countP hit := by
    rw [← counted.listed, List.countP_map]
    rfl
  rw [rows, List.countP_map]
  apply List.countP_mono_left
  intro call _ matched
  simp only [Bool.and_eq_true, decide_eq_true_eq] at matched
  exact decide_eq_true ⟨matched.2, recent call matched.1⟩

theorem callsWithin_append {same : SubscribedCall → Bool} {calls : List SubscribedCall} {call : SubscribedCall}
    {first : Int} (old : callsWithin same first calls ≤ 3)
    (few : same call = true → recentCalls same (call.time - attemptWindow) calls < 3) :
    callsWithin same first (calls ++ [call]) ≤ 3 := by
  have earlier : same call = true → call.time ≤ first + attemptWindow → callsWithin same first calls < 3 := by
    intro own ended
    refine lt_of_le_of_lt (List.countP_mono_left ?_) (few own)
    intro other _ matched
    simp only [Bool.and_eq_true, decide_eq_true_eq] at matched ⊢
    exact ⟨matched.1.1, by omega⟩
  unfold callsWithin at *
  rw [List.countP_append, List.countP_singleton]
  split
  · next matched =>
    simp only [Bool.and_eq_true, decide_eq_true_eq] at matched
    have few := earlier matched.1.1 matched.2
    omega
  · omega

theorem subscribe_ok {rows : StatusSubscriptions} {email : String} (valid : normalizeEmail input.email = .ok email)
    (subscribed : subscribe hmac input world.rows = .ok rows) :
    countRecentStatusSubscriptionAttempts (hashContact hmac email) (input.ipHash hmac) (input.now - attemptWindow)
        world.rows.rows < 3 ∧
      rows = createStatusSubscription ⟨hashContact hmac email, (input.locale.map JsText.trim).filter (· ≠ ""), input.now,
        input.ipHash hmac, input.now⟩ world.rows := by
  simp only [subscribe, valid] at subscribed
  split at subscribed
  · cases subscribed
  · next few => exact ⟨Nat.lt_of_not_le few, (Except.ok.inj subscribed).symm⟩

theorem subscribe_rejects {email : String} (valid : normalizeEmail input.email = .ok email)
    (full : 3 ≤ countRecentStatusSubscriptionAttempts (hashContact hmac email) (input.ipHash hmac)
      (input.now - attemptWindow) world.rows.rows) :
    subscribe hmac input world.rows = .error (.tooManyRequests "Too many status subscription attempts") := by
  simp only [subscribe, valid]
  exact if_pos full

theorem counted_step (counted : Counted hmac world) (anew : SubscribesAnew hmac world input) :
    Counted hmac (applySubscribe hmac world input) := by
  unfold applySubscribe
  split
  · next email rows valid subscribed =>
    obtain ⟨few, rfl⟩ := subscribe_ok valid subscribed
    refine ⟨?_, fun first => ⟨fun other => ?_, fun address => ?_⟩⟩
    · have absent := (KeyedTable.find_eq_none _).mp (anew email valid)
      rw [createStatusSubscription, anew email valid, KeyedTable.put, dif_pos absent]
      simp only [KeyedTable.insert, List.map_append, counted.listed]
      rfl
    · apply callsWithin_append ((counted.limit first).1 other)
      intro own
      refine lt_of_le_of_lt (recentCalls_le counted _ fun call same => .inl ?_) few
      rw [of_decide_eq_true same, ← show email = other from of_decide_eq_true own]
    · apply callsWithin_append ((counted.limit first).2 address)
      intro own
      refine lt_of_le_of_lt (recentCalls_le counted _ fun call same => .inr ?_) few
      have given : input.clientIp.filter (· ≠ "") = some address := of_decide_eq_true own
      rw [StatusSubscribeInput.ipHash, given, of_decide_eq_true same]
      exact ⟨by simp, rfl⟩
  · exact counted

theorem rejects_further (counted : Counted hmac world) : RejectsFurther hmac world input := by
  intro email valid reached
  apply subscribe_rejects valid
  rcases reached with emails | ⟨address, given, addresses⟩
  · apply le_trans emails
    apply recentCalls_le counted
    intro call same
    rw [of_decide_eq_true same]
    exact .inl rfl
  · apply le_trans addresses
    apply recentCalls_le counted
    intro call same
    rw [StatusSubscribeInput.ipHash, Option.mem_def.mp given, of_decide_eq_true same]
    exact .inr ⟨nofun, rfl⟩

def noSubscriptions : StatusWorld := ⟨.empty, []⟩

end Limit

def subscription (email : String) (now : Int) : StatusSubscribeInput := ⟨email, none, some "197.232.1.1", now⟩

end ShuleHub.Support
