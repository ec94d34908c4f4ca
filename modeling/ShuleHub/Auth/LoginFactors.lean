import ShuleHub.Auth.LoginChallenges

/-! The second factor of logins: codes that verify one login each, and devices that an earlier login trusted. -/

namespace ShuleHub.Auth

open Transaction Runs

/-- A login that was answered, with the tables that it found. -/
structure AnsweredLogin where
  call : AuthCall
  dto : LoginDto
  signedIn : SignIn
  before : AuthDb
  status : Option MfaStatus

structure FactorWorld where
  state : ChallengedWorld
  answered : List AnsweredLogin

section Factors

variable (service : AuthService)

def answeredBy (world : AuthWorld) : SessionEvent → Option AnsweredLogin
  | .login call dto =>
    match signIn service call world.db dto, (challengedLogin service call dto).run world with
    | .ok signedIn, .ok ((status, _), _) => some ⟨call, dto, signedIn, world.db, status⟩
    | _, _ => none
  | _ => none

def factorStep (world : FactorWorld) (event : SessionEvent) : FactorWorld :=
  ⟨LoginChallenges.step service world.state event,
    world.answered ++ (answeredBy service world.state.world event).toList⟩

variable (login : AnsweredLogin)

/-- The challenges that a verified login has used up. -/
def AnsweredLogin.consumed : List MfaChallengeRow :=
  match login.status, login.dto.mfaCode with
  | some .verified, some code => login.before.mfaChallenges.rows.filter
    (isOpenChallenge login.signedIn.user.id (hashSecret service code) login.call.now)
  | _, _ => []

/-- A verified login that was to trust its device. -/
def AnsweredLogin.Trusts (device : TrustedDeviceRow) : Prop :=
  login.status = some .verified ∧ login.dto.trustDevice = true ∧ login.signedIn.user.id = device.userId ∧
    (deviceToken service login.dto).map (hashSecret service) = some device.deviceTokenHash ∧
    device.expiresAt = defaultExpiry login.call.now

def AnsweredLogin.UsesDevice (device : TrustedDeviceRow) : Prop :=
  device.userId = login.signedIn.user.id ∧
    (deviceToken service login.dto).map (hashSecret service) = some device.deviceTokenHash ∧
    device.revokedAt = none ∧ login.call.now < device.expiresAt

/-- What stands behind the answer to a login: where a challenge is asked for, one that no login before has used up, or a
device that one of them, or the start, has trusted and that has not expired. -/
structure SecondFactor (start : AuthDb) (answered : List AnsweredLogin) : Prop where
  asked : service.config.mfaService = true → requiresChallenge login.signedIn.role login.signedIn.permissions = true →
    login.status = some .verified ∨ login.status = some .trustedDevice
  verified : login.status = some .verified → login.consumed service ≠ []
  unused : ∀ challenge ∈ login.consumed service, ∀ earlier ∈ answered, ∀ other ∈ earlier.consumed service,
    other.id ≠ challenge.id
  trusted : login.status = some .trustedDevice → ∃ device, login.UsesDevice service device ∧
    (device ∈ start.trustedDevices ∨ ∃ earlier ∈ answered, earlier.Trusts service device)

def HasSecondFactor (start : AuthDb) (world : FactorWorld) (event : SessionEvent) : Prop :=
  ∀ login ∈ answeredBy service world.state.world event, SecondFactor service login start world.answered

/-- The challenges that were used up stay so, and every device was trusted by a login or at the start. -/
structure FactorsKept (start : AuthDb) (world : FactorWorld) : Prop where
  spent : ∀ login ∈ world.answered, ∀ challenge ∈ login.consumed service,
    ∀ row ∈ world.state.world.db.mfaChallenges.rows, row.id = challenge.id → row.consumedAt ≠ none
  devices : ∀ device ∈ world.state.world.db.trustedDevices,
    device ∈ start.trustedDevices ∨ ∃ login ∈ world.answered, login.Trusts service device

end Factors

section Runs

variable {service : AuthService} {start db after : AuthDb} {world : FactorWorld} {event : SessionEvent}
  {login : AnsweredLogin} {call : AuthCall} {dto : LoginDto} {user : UserEntity} {role : String}
  {permissions : List String} {status : Option MfaStatus}

/-- What a login does to the challenges and the devices, by what became of its challenge. -/
theorem enforceLoginSecurity_factors
    (succeeded : (enforceLoginSecurity service call user role permissions dto).run db = .ok (status, after)) :
    (∃ code, status = some .verified ∧ dto.mfaCode = some code ∧
      (∃ challenge ∈ db.mfaChallenges.rows, isOpenChallenge user.id (hashSecret service code) call.now challenge) ∧
      after.mfaChallenges = (consumeChallenges db user.id (hashSecret service code) call.now).mfaChallenges ∧
      (after.trustedDevices = db.trustedDevices ∨ ∃ token, dto.trustDevice = true ∧
        deviceToken service dto = some token ∧ after = trustDevice service call user.id token
          (consumeChallenges db user.id (hashSecret service code) call.now))) ∨
    status ≠ some .verified ∧ after = db ∧ (status = some .trustedDevice →
      ∃ token, deviceToken service dto = some token ∧ isTrustedDevice service db user.id token call.now = true) := by
  unfold enforceLoginSecurity at succeeded
  simp only [run_ite_ok, run_pure_ok, Bool.not_eq_false] at succeeded
  rcases succeeded with ⟨-, rfl, rfl⟩ | ⟨-, enforced⟩
  · exact .inr ⟨by simp, rfl, by simp⟩
  · simp only [run_bind_ok, run_current_ok, run_pure_ok] at enforced
    obtain ⟨_, _, ⟨rfl, rfl⟩, found, middle, challenged, _, _, remembered, rfl, rfl⟩ := enforced
    unfold enforceLoginChallenge at challenged
    simp only [run_ite_ok, run_pure_ok, Bool.not_eq_false] at challenged
    rcases challenged with ⟨-, rfl, rfl⟩ | ⟨-, ⟨trusted, rfl, rfl⟩ | ⟨-, challenged⟩⟩
    · obtain ⟨-, rfl⟩ := run_pure_ok.mp remembered
      exact .inr ⟨by simp, rfl, by simp⟩
    · obtain ⟨-, rfl⟩ := run_pure_ok.mp remembered
      exact .inr ⟨by simp, rfl, fun _ => (Option.any_eq_true _ _).mp trusted⟩
    · split at challenged
      · next code enabled given =>
        simp only [run_bind_ok, run_current_ok, run_failIf_ok, run_write_ok, run_pure_ok, not_not] at challenged
        obtain ⟨_, _, ⟨rfl, rfl⟩, _, _, ⟨opened, rfl⟩, _, _, rfl, rfl, rfl⟩ := challenged
        obtain ⟨given, -⟩ := Option.filter_eq_some_iff.mp given
        refine .inl ⟨code, rfl, given, opened, ?_⟩
        unfold rememberDevice at remembered
        split at remembered
        · next _ _ _ token _ trust named =>
          obtain rfl := run_write_ok.mp remembered
          exact ⟨rfl, .inr ⟨token, trust, named, rfl⟩⟩
        · obtain ⟨-, rfl⟩ := run_pure_ok.mp remembered
          exact ⟨rfl, .inl rfl⟩
      · exact absurd challenged run_fail_ok

theorem answeredBy_eq_some {state : AuthWorld} (answered : answeredBy service state event = some login) :
    event = .login login.call login.dto ∧ login.before = state.db ∧
      signIn service login.call state.db login.dto = .ok login.signedIn ∧ ∃ response after,
        (challengedLogin service login.call login.dto).run state = .ok ((login.status, response), after) := by
  unfold answeredBy at answered
  split at answered
  · split at answered
    · next signedIn status response after signed ran =>
      obtain rfl := Option.some.inj answered
      exact ⟨rfl, rfl, signed, response, after, ran⟩
    · cases answered
  · cases answered

theorem hasSecondFactor (kept : FactorsKept service start world) : HasSecondFactor service start world event := by
  intro login answered
  obtain ⟨-, found, signed, response, after, ran⟩ := answeredBy_eq_some answered
  obtain ⟨signedIn, db, sameSigned, enforced, -, -⟩ := challengedLogin_ok.mp ran
  obtain rfl : login.signedIn = signedIn := Except.ok.inj (signed.symm.trans sameSigned)
  have challenged := (enforceLoginSecurity_ok enforced).2.2
  have factors := enforceLoginSecurity_factors enforced
  refine ⟨fun served required => challenged.mpr ⟨served, required⟩, fun verified => ?_, ?_, fun trusted => ?_⟩
  · rcases factors with ⟨code, -, given, ⟨challenge, member, isOpen⟩, -⟩ | ⟨other, -⟩
    · simp only [AnsweredLogin.consumed, verified, given, found]
      exact List.ne_nil_of_mem (List.mem_filter.mpr ⟨member, decide_eq_true isOpen⟩)
    · exact absurd verified other
  · intro challenge consumed earlier before other used same
    unfold AnsweredLogin.consumed at consumed
    split at consumed
    · obtain ⟨member, isOpen⟩ := List.mem_filter.mp consumed
      rw [found] at member
      exact kept.spent earlier before other used challenge member same.symm (of_decide_eq_true isOpen).2.2.1
    · cases consumed
  · rcases factors with ⟨code, verified, -⟩ | ⟨-, -, devices⟩
    · rw [verified] at trusted
      cases trusted
    · obtain ⟨token, named, isTrusted⟩ := devices trusted
      obtain ⟨device, member, own⟩ := List.any_eq_true.mp isTrusted
      obtain ⟨user, hash, standing, lasts⟩ := of_decide_eq_true own
      refine ⟨device, ⟨user, ?_, standing, lasts⟩, kept.devices device member⟩
      rw [named, hash]
      rfl

theorem factorsKept_same {state : ChallengedWorld} (kept : FactorsKept service start world)
    (challenges : state.world.db.mfaChallenges = world.state.world.db.mfaChallenges)
    (devices : state.world.db.trustedDevices = world.state.world.db.trustedDevices) :
    FactorsKept service start ⟨state, world.answered⟩ := by
  constructor
  · rw [challenges]
    exact kept.spent
  · rw [devices]
    exact kept.devices

theorem spent_of_mem {userId codeHash : String} {now : Int} {row : MfaChallengeRow}
    (member : row ∈ (consumeChallenges db userId codeHash now).mfaChallenges.rows) :
    row.consumedAt ≠ none ∨ row ∈ db.mfaChallenges.rows ∧ ¬ isOpenChallenge userId codeHash now row := by
  obtain ⟨old, stored, rfl⟩ := List.mem_map.mp member
  split
  · exact .inl nofun
  · next closed => exact .inr ⟨stored, closed⟩

theorem factorsKept_login {state : ChallengedWorld} (kept : FactorsKept service start world)
    (found : login.before = world.state.world.db)
    (enforced : (enforceLoginSecurity service login.call login.signedIn.user login.signedIn.role
      login.signedIn.permissions login.dto).run login.before = .ok (login.status, state.world.db)) :
    FactorsKept service start ⟨state, world.answered ++ [login]⟩ := by
  rcases enforceLoginSecurity_factors enforced with ⟨code, verified, given, -, spent, devices⟩ | ⟨other, same, -⟩
  · constructor
    · intro earlier among challenge used row member own
      rw [spent] at member
      rcases spent_of_mem member with consumed | ⟨stored, closed⟩
      · exact consumed
      · rcases List.mem_append.mp among with old | new
        · exact kept.spent earlier old challenge used row (found ▸ stored) own
        · rw [List.mem_singleton.mp new] at used
          simp only [AnsweredLogin.consumed, verified, given] at used
          obtain ⟨present, isOpen⟩ := List.mem_filter.mp used
          have one := (login.before.mfaChallenges.find_self stored).symm.trans
            (own ▸ login.before.mfaChallenges.find_self present)
          exact absurd (Option.some.inj one ▸ of_decide_eq_true isOpen) closed
    · have before : ∀ device ∈ login.before.trustedDevices, device ∈ start.trustedDevices ∨
          ∃ earlier ∈ world.answered ++ [login], earlier.Trusts service device := by
        intro device member
        rcases kept.devices device (found ▸ member) with first | ⟨earlier, old, trusts⟩
        · exact .inl first
        · exact .inr ⟨earlier, List.mem_append_left _ old, trusts⟩
      rcases devices with same | ⟨token, trust, named, stored⟩
      · rw [same]
        exact before
      · rw [stored]
        intro device member
        rcases List.mem_cons.mp member with rfl | old
        · exact .inr ⟨login, by simp, verified, trust, rfl, by rw [named]; rfl, rfl⟩
        · exact before device (List.mem_filter.mp old).1
  · have unused : login.consumed service = [] := by
      unfold AnsweredLogin.consumed
      split
      · next verified _ => exact absurd verified other
      · rfl
    constructor
    · rw [same, found]
      intro earlier among challenge used
      rcases List.mem_append.mp among with old | new
      · exact kept.spent earlier old challenge used
      · rw [List.mem_singleton.mp new, unused] at used
        cases used
    · rw [same, found]
      intro device member
      rcases kept.devices device member with first | ⟨earlier, old, trusts⟩
      · exact .inl first
      · exact .inr ⟨earlier, List.mem_append_left _ old, trusts⟩

theorem factorsKept_step (kept : FactorsKept service start world) :
    FactorsKept service start (factorStep service world event) := by
  cases event with
  | login call dto =>
    cases outcome : (challengedLogin service call dto).run world.state.world with
    | error =>
      have unanswered : answeredBy service world.state.world (.login call dto) = none := by
        simp only [answeredBy, outcome]
        split <;> first | rfl | contradiction
      simpa only [factorStep, LoginChallenges.step, outcome, unanswered, Option.toList_none, List.append_nil] using kept
    | ok answer =>
      obtain ⟨⟨status, response⟩, after⟩ := answer
      obtain ⟨signedIn, db, signed, enforced, rfl, -⟩ := challengedLogin_ok.mp outcome
      simp only [factorStep, LoginChallenges.step, outcome, answeredBy, signed, Option.toList_some]
      exact factorsKept_login kept rfl enforced
  | refresh call token =>
    have same := @factorsKept_same service start world (LoginChallenges.step service world.state (.refresh call token))
      kept rfl rfl
    simpa [factorStep, answeredBy] using same
  | updateRole call membershipId roleCode =>
    have factors := @commit_preserves _ _ _ (fun db : AuthDb => db.mfaChallenges = world.state.world.db.mfaChallenges ∧
      db.trustedDevices = world.state.world.db.trustedDevices)
      (updateTenantMembershipRole service call membershipId roleCode) _ ⟨rfl, rfl⟩ fun result after succeeded => by
        obtain ⟨_, _, _, _, _, _, _, _, rfl⟩ := updateTenantMembershipRole_ok succeeded
        exact ⟨rfl, rfl⟩
    have same := @factorsKept_same service start world (LoginChallenges.step service world.state
      (.updateRole call membershipId roleCode)) kept factors.1 factors.2
    simpa [factorStep, answeredBy] using same

/-- Where `MfaService` asks a role or its permissions for a challenge, no login goes without one in any run. -/
theorem second_factors_hold (service : AuthService) (start : ChallengedWorld) (events : List SessionEvent) :
    Meets (factorStep service) (HasSecondFactor service start.world.db) ⟨start, []⟩ events := by
  have initial : FactorsKept service start.world.db ⟨start, []⟩ :=
    ⟨fun _ member => absurd member List.not_mem_nil, fun _ member => .inl member⟩
  have every : Meets (factorStep service) (fun _ _ => True) ⟨start, []⟩ events := meets_of_forall _ fun _ _ => trivial
  exact meets_of_meets (fun _ _ kept _ => hasSecondFactor kept) (fun _ _ kept _ => factorsKept_step kept) initial every

end Runs

end ShuleHub.Auth
