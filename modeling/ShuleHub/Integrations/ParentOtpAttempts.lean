import ShuleHub.Integrations.ParentOtp
import ShuleHub.Lib.Processes

/-! What bounds the guesses at a one-time password: a challenge gives tokens once, but the attempts that are
counted are rolled back with the answer to a wrong code. -/

namespace ShuleHub.Integrations

open Auth Database Runs Processes ParentOtp

namespace ParentOtpAttempts

variable {before after : VerifyCall} {index : Nat} (runtime : OtpRuntime) (server : OtpServer) (attempts : Nat)

def IsGranted (call : VerifyCall) : Prop := ∃ response, call.stage = .answered (.ok response)

def wrongCodes : Nat := server.calls.countP (·.wrongCode)

def TurnedAway (call : VerifyCall) : Prop :=
  ∃ error, compareCode runtime call.request server.challenge = .error error

/-- What is asked of one step: tokens are given once, and after five wrong codes every request is refused. -/
@[grind =] def Kept (event : OtpEvent) : Prop :=
  AtMostOne IsGranted (ParentOtp.step runtime server event).calls ∧
    match event with
    | .compare index =>
      ∀ call ∈ server.calls[index]?, call.stage = .started → 5 ≤ wrongCodes server → TurnedAway runtime server call
    | .begin _ => True
    | .writeRow _ => True
    | .finish _ => True
    | .close _ => True

/-- A request may guess: its route is the one of the verification, and the challenge has a user, is neither
consumed nor expired, and had attempts left when it was first seen. -/
def MayGuess (challenge : ParentOtpChallengeRecord)
    (request : VerifyOtpRequest) : Prop :=
  request.userId = "anonymous" ∧ request.path = "/auth/parent/otp/verify" ∧ runtime.piiEncryptionKey ≠ "" ∧
    challenge.userId ≠ none ∧ challenge.consumedAt = none ∧ request.now ≤ challenge.expiresAt ∧ attempts < 5

/-- The condition on one step: once five wrong codes have been compared, no request may guess. -/
@[grind =] def WithinFive (server : OtpServer) : OtpEvent → Prop
  | .compare index =>
    ∀ call ∈ server.calls[index]?, call.stage = .started → 5 ≤ wrongCodes server →
      ¬ MayGuess runtime attempts server.challenge call.request
  | .begin _ => True
  | .writeRow _ => True
  | .finish _ => True
  | .close _ => True

/-- What holds in every run: the attempts are those from the start, one request at a time holds the row, one
that will consume it finds it open, and one that has tokens has consumed it. -/
structure Guarded (server : OtpServer) : Prop where
  uncounted : server.challenge.attempts = attempts
  alone : AtMostOne (fun call => call.stage.holdsRow = true) server.calls
  consuming : ∀ (index : Nat) (call : VerifyCall) (row : ParentOtpChallengeRecord) (response : AuthResponseDto),
    server.calls[index]? = some call → call.stage = .writing row (.ok response) →
      server.challenge.consumedAt = none ∧ row.consumedAt ≠ none ∧ row.attempts = attempts
  spent : ∀ (index : Nat) (call : VerifyCall), server.calls[index]? = some call → IsGranted call →
    server.challenge.consumedAt ≠ none
  once : AtMostOne IsGranted server.calls

variable {runtime} {server attempts}

theorem guarded_start (challenge : ParentOtpChallengeRecord) : Guarded challenge.attempts ⟨challenge, []⟩ where
  uncounted := rfl
  alone := .nil
  consuming _ _ _ _ found := by simp at found
  spent _ _ found := by simp at found
  once := .nil

def Calm (before after : VerifyCall) : Prop :=
  (∀ row response, after.stage = .writing row response → before.stage = .writing row response) ∧
    (IsGranted after → IsGranted before)

theorem calm_refl (call : VerifyCall) : Calm call call := ⟨fun _ _ same => same, fun same => same⟩

theorem holdsRow_iff {stage : VerifyStage} :
    stage.holdsRow = true ↔ ∃ row response, stage = .writing row response := by
  cases stage <;> simp [VerifyStage.holdsRow]

theorem Calm.holdsRow (calm : Calm before after)
    (holds : after.stage.holdsRow = true) : before.stage.holdsRow = true := by
  obtain ⟨row, response, writing⟩ := holdsRow_iff.mp holds
  exact holdsRow_iff.mpr ⟨row, response, calm.1 row response writing⟩

theorem guarded_calm {after : OtpServer} (guarded : Guarded attempts server)
    (same : after.challenge = server.challenge)
    (calm : ∀ (index : Nat) (call : VerifyCall), after.calls[index]? = some call →
      call.stage.holdsRow = true ∨ IsGranted call → ∃ before, server.calls[index]? = some before ∧ Calm before call) :
    Guarded attempts after where
  uncounted := by rw [same, guarded.uncounted]
  alone := guarded.alone.of_before fun index call found holds => by
    obtain ⟨before, old, kept⟩ := calm index call found (.inl holds)
    exact ⟨before, old, kept.holdsRow holds⟩
  consuming := by
    intro index call row response found writing
    obtain ⟨before, old, kept⟩ := calm index call found (.inl (holdsRow_iff.mpr ⟨row, _, writing⟩))
    rw [same]
    exact guarded.consuming index before row response old (kept.1 row _ writing)
  spent := by
    intro index call found given
    obtain ⟨before, old, kept⟩ := calm index call found (.inr given)
    rw [same]
    exact guarded.spent index before old (kept.2 given)
  once := guarded.once.of_before fun index call found given => by
    obtain ⟨before, old, kept⟩ := calm index call found (.inr given)
    exact ⟨before, old, kept.2 given⟩

theorem guarded_modify {change : VerifyCall → VerifyCall}
    (guarded : Guarded attempts server) (calm : ∀ call, Calm call (change call)) :
    Guarded attempts { server with calls := server.calls.modify index change } := by
  refine guarded_calm guarded ?_ ?_
  · rfl
  · intro place call found _
    obtain ⟨before, old, ⟨_, rfl⟩ | ⟨_, rfl⟩⟩ := modified found
    · exact ⟨before, old, calm before⟩
    · exact ⟨call, old, calm_refl call⟩

theorem calm_of_stage (writing : ∀ row response, after.stage ≠ .writing row response)
    (given : ∀ response, after.stage ≠ .answered (.ok response)) : Calm before after := by
  constructor
  · intro row response same
    exact absurd same (writing row response)
  · rintro ⟨response, same⟩
    exact absurd same (given response)

theorem compared_calm (runtime : OtpRuntime) (row : ParentOtpChallengeRecord) (call : VerifyCall) :
    Calm call (call.compared runtime row) := by
  unfold VerifyCall.compared
  split
  · split
    · exact calm_of_stage (by simp) (by simp)
    · exact calm_of_stage (by simp) (by simp)
    · split <;> exact calm_of_stage (by simp) (by simp)
  · exact calm_refl call

theorem closed_calm (call : VerifyCall) : Calm call call.closed := by
  unfold VerifyCall.closed
  split
  · exact calm_refl call
  · exact calm_of_stage (by simp) (by simp)

theorem guarded_begin (guarded : Guarded attempts server)
    (request : VerifyOtpRequest) :
    Guarded attempts { server with calls := server.calls ++ [⟨request, .started, false⟩] } := by
  refine guarded_calm guarded ?_ ?_
  · rfl
  · intro place call found held
    rcases appended found with old | ⟨-, rfl⟩
    · exact ⟨call, old, calm_refl call⟩
    · rcases held with holds | ⟨response, given⟩
      · cases holds
      · cases given

theorem written_cases (row : ParentOtpChallengeRecord) (call : VerifyCall) :
    Calm call (call.written row) ∨
      (∃ error, (call.written row).stage = .writing (incrementAttempts row) (.error error)) ∨
        row.consumedAt = none ∧ ∃ response, (call.written row).stage =
          .writing { row with consumedAt := some call.request.startedAt } response := by
  unfold VerifyCall.written
  split
  · exact .inr (.inl ⟨_, rfl⟩)
  · split
    · exact .inl (calm_of_stage (by simp) (by simp))
    · next subject stage consumed update =>
      unfold consumeChallenge at update
      split at update
      · next open' =>
        cases update
        exact .inr (.inr ⟨open'.1, _, rfl⟩)
      · cases update
  · exact .inl (calm_refl call)

theorem guarded_write (guarded : Guarded attempts server) (index : Nat)
    (free : ¬ server.calls.any (·.stage.holdsRow) = true) :
    Guarded attempts { server with calls := server.calls.modify index (·.written server.challenge) } := by
  have unheld : ∀ (place : Nat) (call : VerifyCall), server.calls[place]? = some call →
      ¬ call.stage.holdsRow = true := by
    intro place call found holds
    exact free (List.any_eq_true.mpr ⟨call, List.mem_of_getElem? found, holds⟩)
  have granted : ∀ (place : Nat) (call : VerifyCall),
      (server.calls.modify index (·.written server.challenge))[place]? = some call → IsGranted call →
      ∃ before, server.calls[place]? = some before ∧ IsGranted before := by
    rintro place call found ⟨response, given⟩
    obtain ⟨before, old, ⟨_, rfl⟩ | ⟨_, rfl⟩⟩ := modified found
    · rcases written_cases server.challenge before with calm | ⟨_, counted⟩ | ⟨_, _, consumed⟩
      · exact ⟨before, old, calm.2 ⟨response, given⟩⟩
      · cases counted.symm.trans given
      · cases consumed.symm.trans given
    · exact ⟨call, old, response, given⟩
  refine ⟨guarded.uncounted, ?_, ?_, ?_, guarded.once.of_before granted⟩
  · apply AtMostOne.of_place
    · intro place call found holds
      obtain ⟨before, old, ⟨same, _⟩ | ⟨_, rfl⟩⟩ := modified found
      · exact same.symm
      · exact absurd holds (unheld place call old)
  · intro place call row response found writing
    obtain ⟨before, old, ⟨_, rfl⟩ | ⟨_, rfl⟩⟩ := modified found
    · rcases written_cases server.challenge before with calm | ⟨_, counted⟩ | ⟨open', _, consumed⟩
      · exact absurd (holdsRow_iff.mpr ⟨row, _, calm.1 row _ writing⟩) (unheld place before old)
      · cases counted.symm.trans writing
      · cases consumed.symm.trans writing
        exact ⟨open', nofun, guarded.uncounted⟩
    · exact absurd (holdsRow_iff.mpr ⟨row, _, writing⟩) (unheld place call old)
  · intro place call found given
    obtain ⟨before, old, had⟩ := granted place call found given
    exact guarded.spent place before old had

theorem rollsBack_error (error : Exception) : rollsBack (some (statusCode (.error error))) = true := by
  cases error <;> rfl

theorem finished_cases (row : ParentOtpChallengeRecord) (call : VerifyCall) :
    (call.finished row).2 = row ∧ Calm call (call.finished row).1 ∨
      ∃ written response, call.stage = .writing written (.ok response) ∧
        (call.finished row).2 = written ∧ (call.finished row).1.stage = .answered (.ok response) := by
  unfold VerifyCall.finished
  split
  · next written response stage =>
    cases response with
    | ok response => exact .inr ⟨written, response, stage, rfl, rfl⟩
    | error error =>
      refine .inl ⟨?_, calm_of_stage (by simp) (by simp)⟩
      rw [rollsBack_error]
      rfl
  · exact .inl ⟨rfl, calm_of_stage (by simp) (by simp)⟩
  · exact .inl ⟨rfl, calm_refl call⟩

theorem guarded_finish (guarded : Guarded attempts server)
    {call : VerifyCall} (found : server.calls[index]? = some call) :
    Guarded attempts
      ⟨(call.finished server.challenge).2, server.calls.set index (call.finished server.challenge).1⟩ := by
  rcases finished_cases server.challenge call with ⟨same, calm⟩ | ⟨written, response, stage, kept, given⟩
  · refine guarded_calm guarded same ?_
    intro place process present _
    rcases replaced present with ⟨rfl, rfl⟩ | ⟨_, old⟩
    · exact ⟨call, found, calm⟩
    · exact ⟨process, old, calm_refl process⟩
  · obtain ⟨open', closed, uncounted⟩ := guarded.consuming index call written response found stage
    have holds : call.stage.holdsRow = true := holdsRow_iff.mpr ⟨written, _, stage⟩
    have unheld : ∀ (place : Nat) (process : VerifyCall),
        (server.calls.set index (call.finished server.challenge).1)[place]? = some process →
        ¬ process.stage.holdsRow = true := by
      intro place process present held
      rcases replaced present with ⟨_, rfl⟩ | ⟨differs, old⟩
      · rw [given] at held
        cases held
      · exact differs (guarded.alone index place call process found old holds held)
    refine ⟨kept.symm ▸ uncounted, ?_, ?_, ?_, ?_⟩
    · apply @AtMostOne.of_place _ _ _ index
      intro place process present held
      exact absurd held (unheld place process present)
    · intro place process row _ present writing
      exact absurd (holdsRow_iff.mpr ⟨row, _, writing⟩) (unheld place process present)
    · intro place process present _
      exact kept.symm ▸ closed
    · apply @AtMostOne.of_place _ _ _ index
      intro place process present granted
      rcases replaced present with ⟨same, _⟩ | ⟨_, old⟩
      · exact same.symm
      · exact absurd open' (guarded.spent place process old granted)

theorem guarded_step (runtime : OtpRuntime) (guarded : Guarded attempts server)
    (event : OtpEvent) : Guarded attempts (ParentOtp.step runtime server event) := by
  cases event with
  | begin request => exact guarded_begin guarded request
  | compare index => exact guarded_modify guarded (compared_calm runtime server.challenge)
  | close index => exact guarded_modify guarded closed_calm
  | writeRow index =>
    simp only [ParentOtp.step]
    split
    · exact guarded
    · next free => exact guarded_write guarded index free
  | finish index =>
    simp only [ParentOtp.step]
    split
    · exact guarded
    · next call found => exact guarded_finish guarded found

theorem compareCode_error_iff {request : VerifyOtpRequest} {row : ParentOtpChallengeRecord} :
    (∃ error, compareCode runtime request row = .error error) ↔ ¬ MayGuess runtime row.attempts row request := by
  have succeeds : (∃ result, compareCode runtime request row = .ok result) ↔
      MayGuess runtime row.attempts row request := by
    unfold compareCode findChallengeForVerify assertOpen hashOtp MayGuess
    simp only [Outcome.bind_ok, Outcome.failIf_ok, Outcome.pure_ok, not_or, not_not, not_lt, not_le,
      exists_const, ne_eq]
    constructor
    · rintro ⟨_, _, ⟨anonymous, path, rfl⟩, ⟨user, ⟨unused, current⟩, left⟩, _, ⟨pepper, rfl⟩, rfl⟩
      exact ⟨anonymous, path, pepper, user, unused, current, left⟩
    · rintro ⟨anonymous, path, pepper, user, unused, current, left⟩
      exact ⟨_, row, ⟨anonymous, path, rfl⟩, ⟨user, ⟨unused, current⟩, left⟩, _, ⟨pepper, rfl⟩, rfl⟩
  cases outcome : compareCode runtime request row with
  | ok result => exact ⟨by simp, fun refused => absurd (succeeds.mp ⟨result, outcome⟩) refused⟩
  | error error =>
    refine ⟨fun _ may => ?_, fun _ => ⟨error, rfl⟩⟩
    obtain ⟨result, accepted⟩ := succeeds.mpr may
    cases outcome.symm.trans accepted

theorem kept_iff {event : OtpEvent}
    (guarded : Guarded attempts server) :
    Kept runtime server event ↔ WithinFive runtime attempts server event := by
  have once := (guarded_step runtime guarded event).once
  cases event with
  | compare index =>
    simp only [Kept, once, true_and, WithinFive, TurnedAway, compareCode_error_iff, guarded.uncounted]
  | begin _ => simp only [Kept, once, WithinFive, and_true]
  | writeRow _ => simp only [Kept, once, WithinFive, and_true]
  | finish _ => simp only [Kept, once, WithinFive, and_true]
  | close _ => simp only [Kept, once, WithinFive, and_true]

def plainRuntime : OtpRuntime := ⟨id, "pepper"⟩

def openChallenge : ParentOtpChallengeRecord where
  id := "challenge-1"
  tenantId := "lakeside"
  userId := some "parent-1"
  email := some "parent@example.org"
  phoneHash := none
  phoneLast4 := none
  otpHash := "482913:pepper"
  expiresAt := 600000
  consumedAt := none
  attempts := 0

def wrongGuess : VerifyOtpRequest where
  otpCode := "111111"
  userId := "anonymous"
  path := "/auth/parent/otp/verify"
  startedAt := 1000
  now := 1001
  subject _ := none
  issued := .error (.internal "not reached")
  verifiedAt := 1002

def guess (index : Nat) : List OtpEvent := [.begin wrongGuess, .compare index, .writeRow index, .finish index]

end ParentOtpAttempts

/-- In every run of verifications, tokens are given once, and the guesses stop after five wrong codes exactly
when nothing but the callers stops them: no request reads the challenge while it is open to guesses once five
wrong codes have been compared with it. -/
theorem parent_otp_guesses_end_iff_callers_stop (runtime : OtpRuntime) (challenge : ParentOtpChallengeRecord)
    (events : List OtpEvent) :
    Meets (ParentOtp.step runtime) (ParentOtpAttempts.Kept runtime) ⟨challenge, []⟩ events ↔
      Meets (ParentOtp.step runtime) (ParentOtpAttempts.WithinFive runtime challenge.attempts) ⟨challenge, []⟩
        events := by
  apply meets_iff_meets _ _ events (ParentOtpAttempts.guarded_start challenge)
  · intro server event guarded
    exact ParentOtpAttempts.kept_iff guarded
  · intro server event guarded _
    exact ParentOtpAttempts.guarded_step runtime guarded event

open ParentOtpAttempts in
/-- Five wrong codes, one after the other and each answered, leave the challenge open to a sixth. -/
theorem sixth_wrong_code_is_compared :
    ¬ Meets (ParentOtp.step plainRuntime) (Kept plainRuntime) ⟨openChallenge, []⟩
      ((List.range 5).flatMap guess ++ [.begin wrongGuess, .compare 5]) := by
  intro kept
  obtain ⟨_, _, ⟨_, limited⟩, _⟩ := (meets_append _ _ _).mp kept
  obtain ⟨error, refused⟩ := limited ⟨wrongGuess, .started, false⟩ rfl rfl (by decide)
  cases refused

end ShuleHub.Integrations
