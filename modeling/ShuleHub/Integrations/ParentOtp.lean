import ShuleHub.Auth.Sessions
import ShuleHub.Database.RequestTransactions
import ShuleHub.Lib.JsText

/-! Signing in to the parent portal with a one-time password: what a verification request does with its
challenge, statement by statement, beside the other requests for the same challenge. -/

namespace ShuleHub.Integrations

open Auth Database

structure ParentOtpChallengeRecord where
  id : String
  tenantId : String
  userId : Option String
  email : Option String
  phoneHash : Option String
  phoneLast4 : Option String
  otpHash : String
  expiresAt : Int
  consumedAt : Option Int
  attempts : Nat

structure ParentAuthSubject where
  userId : String
  tenantId : String
  roleId : String
  roleCode : String
  email : String
  displayName : String
  phoneNumberHash : Option String
  phoneNumberLast4 : Option String

structure OtpRuntime where
  sha256 : String → String
  piiEncryptionKey : String

/-- A request to verify a code for the challenge, with what it meets on the way: the user and the path of its
session, the start of its transaction and the clock, the parent that the database finds for the challenge, and
the permissions and tokens that the rest of the request gets, or its failure. -/
structure VerifyOtpRequest where
  otpCode : String
  userId : String
  path : String
  startedAt : Int
  now : Int
  subject : ParentOtpChallengeRecord → Option ParentAuthSubject
  issued : Except Exception (List String × IssuedTokenPair)
  verifiedAt : Int

namespace ParentOtp

variable (runtime : OtpRuntime) (request : VerifyOtpRequest) (challenge : ParentOtpChallengeRecord)
  (row : ParentOtpChallengeRecord)

def hashOtp (value : String) : Except Exception String := do
  failIf (runtime.piiEncryptionKey = "") (.badRequest "Parent portal security key is not configured")
  return runtime.sha256 (value ++ ":" ++ runtime.piiEncryptionKey)

def findChallengeForVerify :
    Except Exception ParentOtpChallengeRecord := do
  failIf (request.userId ≠ "anonymous")
    (.database "Parent OTP verification is only available before authentication")
  failIf (request.path ≠ "/auth/parent/otp/verify")
    (.database "Parent OTP verification is only available on parent OTP verify routes")
  return challenge

def assertOpen (now : Int) : Except Exception Unit := do
  failIf (challenge.userId = none) (.unauthorized "Invalid verification code")
  failIf (challenge.consumedAt ≠ none ∨ challenge.expiresAt < now) (.unauthorized "Verification code has expired")
  failIf (5 ≤ challenge.attempts) (.unauthorized "Verification attempts exceeded")

def compareCode :
    Except Exception (ParentOtpChallengeRecord × Bool) := do
  let challenge ← findChallengeForVerify request row
  assertOpen challenge request.now
  let hash ← hashOtp runtime (JsText.trim request.otpCode)
  return (challenge, hash = challenge.otpHash)

def incrementAttempts : ParentOtpChallengeRecord :=
  { challenge with attempts := challenge.attempts + 1 }

def consumeChallenge (startedAt : Int) : Option ParentOtpChallengeRecord :=
  if challenge.consumedAt = none ∧ startedAt < challenge.expiresAt then
    some { challenge with consumedAt := some startedAt }
  else none

def assertSubject :
    Except Exception ParentAuthSubject :=
  match request.subject challenge with
  | some subject =>
    if some subject.userId = challenge.userId ∧ subject.tenantId = challenge.tenantId then return subject
    else fail (.unauthorized "Parent account is no longer active")
  | none => fail (.unauthorized "Parent account is no longer active")

def buildResponse (subject : ParentAuthSubject) :
    Except Exception AuthResponseDto := do
  let (permissions, tokenPair) ← request.issued
  return {
    tokens := tokenPair
    user :=
      { userId := subject.userId
        tenantId := some subject.tenantId
        role := subject.roleCode
        audience := .portal
        email := subject.email
        displayName := subject.displayName
        emailVerified := true
        emailVerifiedAt := some request.verifiedAt
        permissions
        sessionId := tokenPair.sessionId } }

/-- Where a request stands. After the comparison a wrong code goes on to count the attempt and a right one to
consume the challenge; both write the row, and hold it until their transaction ends. -/
inductive VerifyStage where
  | started
  | comparedWrong
  | comparedRight (subject : ParentAuthSubject)
  | writing (row : ParentOtpChallengeRecord) (response : Except Exception AuthResponseDto)
  | failing (error : Exception)
  | answered (response : Except Exception AuthResponseDto)

structure VerifyCall where
  request : VerifyOtpRequest
  stage : VerifyStage
  wrongCode : Bool

variable (call : VerifyCall)

structure OtpServer where
  challenge : ParentOtpChallengeRecord
  calls : List VerifyCall

inductive OtpEvent where
  | begin (request : VerifyOtpRequest)
  | compare (index : Nat)
  | writeRow (index : Nat)
  | finish (index : Nat)
  | close (index : Nat)

@[grind =] def VerifyStage.holdsRow : VerifyStage → Bool
  | .started => false
  | .comparedWrong => false
  | .comparedRight _ => false
  | .writing _ _ => true
  | .failing _ => false
  | .answered _ => false

def VerifyCall.compared : VerifyCall :=
  match call.stage with
  | .started =>
    match compareCode runtime call.request row with
    | .error error => { call with stage := .failing error }
    | .ok (_, false) => { call with stage := .comparedWrong, wrongCode := true }
    | .ok (challenge, true) =>
      match assertSubject call.request challenge with
      | .error error => { call with stage := .failing error }
      | .ok subject => { call with stage := .comparedRight subject }
  | _ => call

def VerifyCall.written : VerifyCall :=
  match call.stage with
  | .comparedWrong =>
    { call with stage := .writing (incrementAttempts row) (.error (.unauthorized "Invalid verification code")) }
  | .comparedRight subject =>
    match consumeChallenge row call.request.startedAt with
    | none => { call with stage := .failing (.unauthorized "Verification code has expired") }
    | some consumed => { call with stage := .writing consumed (buildResponse call.request subject) }
  | _ => call

def statusCode (response : Except Exception AuthResponseDto) : Nat :=
  match response with
  | .ok _ => 201
  | .error error => error.statusCode

/-- The end of a request: the row it wrote is kept if its status is below 400. -/
def VerifyCall.finished :
    VerifyCall × ParentOtpChallengeRecord :=
  match call.stage with
  | .writing written response =>
    ({ call with stage := .answered response }, if rollsBack (some (statusCode response)) then row else written)
  | .failing error => ({ call with stage := .answered (.error error) }, row)
  | _ => (call, row)

def VerifyCall.closed (call : VerifyCall) : VerifyCall :=
  match call.stage with
  | .answered _ => call
  | _ => { call with stage := .answered (.error (.internal "closed")) }

@[grind =] def step (server : OtpServer) : OtpEvent → OtpServer
  | .begin request => { server with calls := server.calls ++ [⟨request, .started, false⟩] }
  | .compare index => { server with calls := server.calls.modify index (·.compared runtime server.challenge) }
  | .writeRow index =>
    -- A write of the row waits for the transaction that holds it.
    if server.calls.any (·.stage.holdsRow) then server
    else { server with calls := server.calls.modify index (·.written server.challenge) }
  | .finish index =>
    match server.calls[index]? with
    | none => server
    | some call =>
      { challenge := (call.finished server.challenge).2
        calls := server.calls.set index (call.finished server.challenge).1 }
  | .close index => { server with calls := server.calls.modify index VerifyCall.closed }

end ParentOtp

end ShuleHub.Integrations
