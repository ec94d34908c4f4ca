import ShuleHub.Lib.JsDate
import ShuleHub.Lib.JsText
import ShuleHub.Lib.Runs

/-! The rate limit of requests: Redis counts those of a route and an actor in each window of the clock. -/

namespace ShuleHub.Security

open Runs

structure RateLimitPolicy where
  bucket : String
  maxRequests : Nat
  windowSeconds : Nat

structure RateLimitSettings where
  rateLimitWindowSeconds : Nat
  rateLimitMaxRequests : Nat
  authSessionRateLimitMaxRequests : Nat
  authRecoveryRateLimitMaxRequests : Nat
  parentOtpRateLimitMaxRequests : Nat
  authRateLimitMaxRequests : Nat
  mpesaCallbackRateLimitMaxRequests : Nat

def resolveRouteKey (path : String) : String :=
  let startsWith (routes : List String) : Bool :=
    routes.any fun route => route.toList.isPrefixOf (JsText.toLowerCase path).toList
  if startsWith ["/auth/parent/otp"] then "auth-parent-otp"
  else if startsWith ["/auth/password-recovery", "/auth/password/forgot", "/auth/password/reset",
      "/auth/email-verification", "/auth/magic-link", "/auth/invitations/accept"] then "auth-recovery"
  else if startsWith ["/auth/login", "/auth/refresh"] then "auth-session"
  else if startsWith ["/auth"] then "auth"
  else if startsWith ["/payments/mpesa/callback", "/mpesa/callback", "/payments/mpesa/c2b", "/mpesa/c2b"] then
    "mpesa-callback"
  else if startsWith ["/sync"] then "sync"
  else "api"

def resolvePolicy (settings : RateLimitSettings) (routeKey : String) : RateLimitPolicy where
  bucket := routeKey
  maxRequests :=
    if routeKey = "auth-session" then settings.authSessionRateLimitMaxRequests
    else if routeKey = "auth-recovery" then settings.authRecoveryRateLimitMaxRequests
    else if routeKey = "auth-parent-otp" then settings.parentOtpRateLimitMaxRequests
    else if routeKey = "auth" then settings.authRateLimitMaxRequests
    else if routeKey = "mpesa-callback" then settings.mpesaCallbackRateLimitMaxRequests
    else settings.rateLimitMaxRequests
  windowSeconds := settings.rateLimitWindowSeconds

/-- The commands of Redis, which may fail. -/
inductive RateCommand where
  | incr
  | expire
  | ttl
deriving DecidableEq

/-- The user is none where it is the anonymous one. -/
structure LimitedRequest where
  path : String
  tenantId : Option String
  userId : Option String
  clientIp : Option String
  elapsed : Nat
  failure : Option RateCommand

structure RateLimitDecision where
  allowed : Bool
  limit : Nat
  remaining : Nat
  retryAfterSeconds : Nat
  resetAt : String
  routeKey : String
  actorKey : String
  totalHits : Nat

/-- A counter without an expiry stays. Times are in milliseconds. -/
structure RateCounter where
  hits : Nat
  expiresAt : Option Nat

/-- A request that was counted, and whether it was let through. -/
structure CountedRequest where
  bucket : String
  slot : Nat
  time : Nat
  limit : Nat
  allowed : Bool

structure LimitedWorld where
  now : Nat
  counters : String → Option RateCounter
  counted : List CountedRequest

def LimitedRequest.actorKey (request : LimitedRequest) : String :=
  match request.userId with
  | some userId => s!"user:{userId}"
  | none => "ip:" ++ request.clientIp.getD "unknown"

/-- The key of a counter without the number of its window. -/
def LimitedRequest.bucket (request : LimitedRequest) : String :=
  let routeKey := resolveRouteKey request.path
  let tenantId := request.tenantId.getD "anonymous"
  let actorKey := request.actorKey
  s!"rate-limit:{routeKey}:{tenantId}:{routeKey}:{actorKey}"

def redisKey (bucket : String) (slot : Nat) : String := s!"{bucket}:{slot}"

def secondsToLive (now : Nat) (counter : RateCounter) : Nat :=
  max (counter.expiresAt.elim 0 fun expiresAt => (expiresAt - now + 500) / 1000) 1

section Service

variable (settings : RateLimitSettings) (world : LimitedWorld) (request : LimitedRequest)

def policyOf : RateLimitPolicy := resolvePolicy settings (resolveRouteKey request.path)

def slotAt (now : Nat) : Nat := now / 1000 / settings.rateLimitWindowSeconds

def LimitedWorld.after : Nat := world.now + request.elapsed

/-- `INCR`, and `EXPIRE` for the first: the counter then. -/
def incremented : RateCounter :=
  let now := world.after request
  let live := (world.counters (redisKey request.bucket (slotAt settings now))).filter fun counter =>
    counter.expiresAt.all (now ≤ ·)
  match live with
  | some counter => { counter with hits := counter.hits + 1 }
  | none =>
    { hits := 1
      expiresAt := if request.failure = some .expire then none
        else some (now + settings.rateLimitWindowSeconds * 1000) }

/-- The decision, unless a command of Redis fails. -/
def consume : Option RateLimitDecision :=
  let now := world.after request
  let counter := incremented settings world request
  if request.failure = some .incr ∨ request.failure = some .ttl ∨ request.failure = some .expire ∧ counter.hits = 1 then
    none
  else some
    { allowed := counter.hits ≤ (policyOf settings request).maxRequests
      limit := (policyOf settings request).maxRequests
      remaining := (policyOf settings request).maxRequests - counter.hits
      retryAfterSeconds := secondsToLive now counter
      resetAt := JsDate.toISOString ((now / 1000 + secondsToLive now counter) * 1000 : Nat)
      routeKey := resolveRouteKey request.path
      actorKey := request.actorKey
      totalHits := counter.hits }

def evaluateRequest : LimitedWorld :=
  let now := world.after request
  if request.failure = some .incr then { world with now }
  else
    let slot := slotAt settings now
    { now
      counters :=
        Function.update world.counters (redisKey request.bucket slot) (some (incremented settings world request))
      counted := world.counted ++ [⟨request.bucket, slot, now, (policyOf settings request).maxRequests,
        (consume settings world request).any (·.allowed)⟩] }

end Service

def hitsIn (bucket : String) (slot : Nat) (counted : List CountedRequest) : Nat :=
  counted.countP fun hit => hit.bucket = bucket ∧ hit.slot = slot

def allowedIn (bucket : String) (limit slot : Nat) (counted : List CountedRequest) : Nat :=
  counted.countP fun hit => hit.bucket = bucket ∧ hit.limit = limit ∧ hit.allowed ∧ hit.slot = slot

def allowedBetween (bucket : String) (limit first last : Nat) (counted : List CountedRequest) : Nat :=
  counted.countP fun hit => hit.bucket = bucket ∧ hit.limit = limit ∧ hit.allowed ∧ first ≤ hit.time ∧ hit.time < last

/-- No more than the limit of a bucket are let through in a window of the clock, and no more than twice as many in any
span of that length. -/
def LimitHolds (settings : RateLimitSettings) (world : LimitedWorld) : Prop :=
  ∀ bucket limit, (∀ slot, allowedIn bucket limit slot world.counted ≤ limit) ∧
    ∀ first, allowedBetween bucket limit first (first + settings.rateLimitWindowSeconds * 1000) world.counted ≤
      2 * limit

def hitsBefore (settings : RateLimitSettings) (world : LimitedWorld) (request : LimitedRequest) : Nat :=
  hitsIn request.bucket (slotAt settings (world.after request)) world.counted

/-- A decision tells how many requests were counted, and refuses where the limit has been reached. -/
def CountsRightly (settings : RateLimitSettings) (world : LimitedWorld) (request : LimitedRequest) : Prop :=
  ∀ decision, consume settings world request = some decision →
    decision.totalHits = hitsBefore settings world request + 1 ∧
      (decision.allowed = false ↔ decision.limit ≤ hitsBefore settings world request)

theorem append_last_inj {separator : Char} {first second digits others : List Char} (left : separator ∉ digits)
    (right : separator ∉ others) (same : first ++ separator :: digits = second ++ separator :: others) :
    first = second ∧ digits = others := by
  rcases List.append_eq_append_iff.mp same with ⟨between, rfl, rest⟩ | ⟨between, rfl, rest⟩
  · cases between with
    | nil => exact ⟨(List.append_nil first).symm, (List.cons.inj rest).2⟩
    | cons c between =>
      rw [(List.cons.inj rest).2] at left
      exact absurd (List.mem_append_right _ (List.mem_cons_self ..)) left
  · cases between with
    | nil => exact ⟨List.append_nil second, (List.cons.inj rest).2.symm⟩
    | cons c between =>
      rw [(List.cons.inj rest).2] at right
      exact absurd (List.mem_append_right _ (List.mem_cons_self ..)) right

theorem redisKey_inj {first second : String} {slot other : Nat} :
    redisKey first slot = redisKey second other ↔ first = second ∧ slot = other := by
  have unmarked (n : Nat) : ':' ∉ (toString n).toList := by
    intro member
    rw [Nat.toString_eq_ofList_toDigits, String.toList_ofList] at member
    exact absurd (Nat.isDigit_of_mem_toDigits (by decide) (by decide) member) (by decide)
  constructor
  · intro same
    have texts := congrArg String.toList same
    simp only [redisKey, String.toList_append, List.append_assoc] at texts
    obtain ⟨buckets, slots⟩ := append_last_inj (unmarked slot) (unmarked other) texts
    refine ⟨String.toList_inj.mp buckets, ?_⟩
    rw [← JsText.decimalValue_toString slot, String.toList_inj.mp slots, JsText.decimalValue_toString]
  · rintro ⟨rfl, rfl⟩
    rfl

section Counting

variable {settings : RateLimitSettings} {world : LimitedWorld} {request : LimitedRequest}

def slotEnd (settings : RateLimitSettings) (slot : Nat) : Nat := (slot + 1) * settings.rateLimitWindowSeconds * 1000

/-- The counters of this window and of those to come hold the requests that were counted, until their window is over. -/
structure Counting (settings : RateLimitSettings) (world : LimitedWorld) : Prop where
  slots : ∀ hit ∈ world.counted, hit.slot = slotAt settings hit.time
  counters : ∀ bucket slot, slotAt settings world.now ≤ slot →
    hitsIn bucket slot world.counted = 0 ∧ world.counters (redisKey bucket slot) = none ∨
    ∃ expiresAt, world.counters (redisKey bucket slot) = some ⟨hitsIn bucket slot world.counted, expiresAt⟩ ∧
      ∀ time ∈ expiresAt, slotEnd settings slot ≤ time
  few : ∀ bucket limit slot, allowedIn bucket limit slot world.counted ≤ min limit (hitsIn bucket slot world.counted)

theorem slotAt_range (positive : 0 < settings.rateLimitWindowSeconds) (now : Nat) :
    slotAt settings now * settings.rateLimitWindowSeconds * 1000 ≤ now ∧
      now < slotEnd settings (slotAt settings now) := by
  have below := Nat.div_mul_le_self (now / 1000) settings.rateLimitWindowSeconds
  have above : now / 1000 < (now / 1000 / settings.rateLimitWindowSeconds + 1) * settings.rateLimitWindowSeconds :=
    Nat.lt_mul_of_div_lt (Nat.lt_succ_self _) positive
  unfold slotEnd slotAt
  constructor
  · omega
  · omega

theorem slotEnd_le {slot now : Nat} (begun : slot * settings.rateLimitWindowSeconds * 1000 ≤ now) :
    slotEnd settings slot ≤ now + settings.rateLimitWindowSeconds * 1000 := by
  rw [slotEnd, Nat.add_mul, Nat.add_mul, Nat.one_mul]
  exact Nat.add_le_add_right begun _

theorem slotAt_mono {first second : Nat} (le : first ≤ second) : slotAt settings first ≤ slotAt settings second :=
  Nat.div_le_div_right (Nat.div_le_div_right le)

theorem incremented_counts (positive : 0 < settings.rateLimitWindowSeconds) (counting : Counting settings world) :
    (incremented settings world request).hits = hitsBefore settings world request + 1 ∧
      ∀ time ∈ (incremented settings world request).expiresAt,
        slotEnd settings (slotAt settings (world.after request)) ≤ time := by
  unfold hitsBefore
  obtain ⟨begun, ended⟩ := slotAt_range positive (world.after request)
  have later : slotAt settings world.now ≤ slotAt settings (world.after request) := slotAt_mono (Nat.le_add_right ..)
  rcases counting.counters request.bucket _ later with ⟨uncounted, absent⟩ | ⟨expiresAt, present, lasts⟩
  · have new : incremented settings world request = ⟨1, if request.failure = some .expire then none
        else some (world.after request + settings.rateLimitWindowSeconds * 1000)⟩ := by
      simp only [incremented, absent, Option.filter_none]
    rw [new, uncounted]
    refine ⟨rfl, fun time expires => ?_⟩
    obtain ⟨-, given⟩ := Option.ite_none_left_eq_some.mp expires
    exact Option.some.inj given ▸ slotEnd_le begun
  · have lives : expiresAt.all (world.after request ≤ ·) = true := by
      cases expiresAt with
      | none => rfl
      | some time => exact decide_eq_true (ended.le.trans (lasts time rfl))
    have more : incremented settings world request =
        ⟨hitsIn request.bucket (slotAt settings (world.after request)) world.counted + 1, expiresAt⟩ := by
      simp only [incremented, present, Option.filter_some, lives, if_true]
    rw [more]
    exact ⟨rfl, lasts⟩

theorem consume_allowed (allowed : (consume settings world request).any (·.allowed) = true) :
    (incremented settings world request).hits ≤ (policyOf settings request).maxRequests := by
  simp only [consume] at allowed
  split at allowed
  · cases allowed
  · exact of_decide_eq_true allowed

theorem hitsIn_append {bucket : String} {slot : Nat} {counted : List CountedRequest} {hit : CountedRequest} :
    hitsIn bucket slot (counted ++ [hit]) =
      hitsIn bucket slot counted + if hit.bucket = bucket ∧ hit.slot = slot then 1 else 0 := by
  simp [hitsIn, List.countP_append, List.countP_singleton]

theorem counting_step (positive : 0 < settings.rateLimitWindowSeconds) (counting : Counting settings world) :
    Counting settings (evaluateRequest settings world request) := by
  obtain ⟨hits, lasts⟩ := @incremented_counts settings world request positive counting
  have later : slotAt settings world.now ≤ slotAt settings (world.after request) := slotAt_mono (Nat.le_add_right ..)
  unfold evaluateRequest
  split
  · exact { counting with counters := fun bucket slot coming => counting.counters bucket slot (later.trans coming) }
  · refine ⟨?_, ?_, ?_⟩
    · exact List.forall_mem_append.mpr ⟨counting.slots, List.forall_mem_singleton.mpr rfl⟩
    · intro bucket slot coming
      simp only [Function.update_apply, redisKey_inj, hitsIn_append]
      by_cases own : bucket = request.bucket ∧ slot = slotAt settings (world.after request)
      · obtain ⟨rfl, rfl⟩ := own
        rw [if_pos ⟨rfl, rfl⟩, if_pos ⟨rfl, rfl⟩, ← hitsBefore, ← hits]
        exact .inr ⟨_, rfl, lasts⟩
      · rw [if_neg own, if_neg fun same => own ⟨same.1.symm, same.2.symm⟩]
        exact counting.counters bucket slot (later.trans coming)
    · intro bucket limit slot
      have before := counting.few bucket limit slot
      simp only [allowedIn, hitsIn_append, List.countP_append, List.countP_singleton, decide_eq_true_eq] at before ⊢
      split
      · next added =>
        obtain ⟨rfl, rfl, allowed, rfl⟩ := added
        have room := consume_allowed allowed
        rw [hits, hitsBefore] at room
        rw [if_pos ⟨rfl, rfl⟩]
        omega
      · omega

theorem countP_le_add {Item : Type} {one first second : Item → Bool} {items : List Item}
    (covered : ∀ item ∈ items, one item = true → first item = true ∨ second item = true) :
    items.countP one ≤ items.countP first + items.countP second := by
  induction items with
  | nil => exact Nat.zero_le _
  | cons item items ih =>
    obtain ⟨own, others⟩ := List.forall_mem_cons.mp covered
    have rest := ih others
    simp only [List.countP_cons]
    split
    · next counted =>
      rcases own counted with left | right
      · rw [if_pos left]
        omega
      · rw [if_pos right]
        omega
    · omega

theorem limitHolds (positive : 0 < settings.rateLimitWindowSeconds) (counting : Counting settings world) :
    LimitHolds settings world := by
  intro bucket limit
  have each (slot : Nat) : allowedIn bucket limit slot world.counted ≤ limit :=
    (counting.few bucket limit slot).trans (Nat.min_le_left ..)
  refine ⟨each, fun first => ?_⟩
  have two : allowedBetween bucket limit first (first + settings.rateLimitWindowSeconds * 1000) world.counted ≤
      allowedIn bucket limit (slotAt settings first) world.counted +
        allowedIn bucket limit (slotAt settings first + 1) world.counted := by
    apply countP_le_add
    intro hit member within
    simp only [decide_eq_true_eq] at within ⊢
    obtain ⟨own, same, allowed, begun, ended⟩ := within
    have slot := counting.slots hit member
    have late : slotAt settings first ≤ slotAt settings hit.time := slotAt_mono begun
    have early : slotAt settings hit.time < slotAt settings first + 2 := by
      have first_ended : _ < (_ + 1) * _ * 1000 := (slotAt_range positive first).2
      have hit_begun := (slotAt_range positive hit.time).1
      have one := Nat.add_mul (slotAt settings first) 1 settings.rateLimitWindowSeconds
      have two := Nat.add_mul (slotAt settings first) 2 settings.rateLimitWindowSeconds
      have windows : slotAt settings hit.time * settings.rateLimitWindowSeconds <
          (slotAt settings first + 2) * settings.rateLimitWindowSeconds := by omega
      exact Nat.lt_of_mul_lt_mul_right windows
    rcases Nat.lt_or_eq_of_le late with next | now
    · exact .inr ⟨own, same, allowed, by omega⟩
    · exact .inl ⟨own, same, allowed, by omega⟩
  have now := each (slotAt settings first)
  have next := each (slotAt settings first + 1)
  omega

theorem countsRightly (positive : 0 < settings.rateLimitWindowSeconds) (counting : Counting settings world) :
    CountsRightly settings world request := by
  intro decision decided
  obtain ⟨hits, -⟩ := @incremented_counts settings world request positive counting
  simp only [consume] at decided
  split at decided
  · cases decided
  · obtain rfl := Option.some.inj decided
    refine ⟨hits, ?_⟩
    dsimp only
    rw [decide_eq_false_iff_not, hits]
    omega

end Counting

def idleLimits : LimitedWorld := ⟨0, fun _ => none, []⟩

theorem rate_limit_holds (settings : RateLimitSettings) (requests : List LimitedRequest)
    (positive : 0 < settings.rateLimitWindowSeconds) :
    Along (evaluateRequest settings) (LimitHolds settings) idleLimits requests ∧
      Meets (evaluateRequest settings) (CountsRightly settings) idleLimits requests := by
  have start : Counting settings idleLimits :=
    ⟨fun _ member => absurd member List.not_mem_nil, fun _ _ _ => .inl ⟨rfl, rfl⟩, fun _ _ _ => Nat.zero_le _⟩
  constructor
  · exact along_of_preserves (fun _ _ => counting_step positive) (fun _ => limitHolds positive) requests start
  · have every : Meets (evaluateRequest settings) (fun _ _ => True) idleLimits requests :=
      meets_of_forall idleLimits fun _ _ => trivial
    exact meets_of_meets (fun _ _ counting _ => countsRightly positive counting)
      (fun _ _ counting _ => counting_step positive counting) start every

def loginAttempt (elapsed : Nat) : LimitedRequest :=
  ⟨"/Auth/Login", some "lakeside", none, some "197.232.1.1", elapsed, none⟩

def loginLimits : RateLimitSettings := ⟨60, 120, 10, 5, 5, 20, 60⟩

theorem logins_are_limited :
    Along (evaluateRequest loginLimits) (LimitHolds loginLimits) idleLimits (List.replicate 12 (loginAttempt 1000)) ∧
      Meets (evaluateRequest loginLimits) (CountsRightly loginLimits) idleLimits
        (List.replicate 12 (loginAttempt 1000)) :=
  rate_limit_holds loginLimits _ (by decide)

end ShuleHub.Security
