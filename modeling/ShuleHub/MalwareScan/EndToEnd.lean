import ShuleHub.MalwareScan.Client

/-! What an accepted scan says about both programs: the scanner had the bytes of the file, and the engine found nothing
in them. -/

namespace ShuleHub.MalwareScan

open JsText Effect

open Uploads (Bytes)

def UploadScanConfig.isComplete (config : UploadScanConfig) : Prop :=
  (readConfig config.provider).isSome ∧ (readConfig config.apiUrl).isSome ∧ (readConfig config.apiToken).isSome
deriving Decidable

structure ScannedClean (before after : ScannerHost) (buffer : Bytes) : Prop where
  received : after.received = before.received ++ [buffer]
  engine : ∃ run, after.engineRuns = before.engineRuns ++ [run] ∧ run.content = some buffer ∧ run.exitCode = some 0

section Server

variable {sha256 : Bytes → String} {env : ScannerEnvironment} {conditions : ScanConditions} {host : ScannerHost}
  {result : ClamScanResult} {filePath : String} {after : ScannerHost} {buffer : Bytes}
  {request : ScannerRequest} {response : ScanHttpResponse} {file : ProviderMalwareScanUploadFile}
  {status : ScannerVerdict}

theorem verdict_clean (clean : (verdict result).status = .clean) : result.exitCode = some 0 := by
  unfold verdict at clean
  split at clean
  · next ended => exact ended
  · split at clean <;> cases clean

theorem runClamScan_zero {databasePath : String} {useDaemon : Bool} {engine : EngineOutcome}
    (ran : (runClamScan filePath databasePath useDaemon engine).run host = (after, .ok result))
    (zero : result.exitCode = some 0) : after.received = host.received ∧ ∃ run,
      after.engineRuns = host.engineRuns ++ [run] ∧ run.content = host.files filePath ∧ run.exitCode = some 0 := by
  cases engine with
  | unavailable =>
    cases ran
    cases zero
  | closed exitCode output =>
    cases ran
    exact ⟨rfl, _, rfl, rfl, zero⟩

theorem scanFile_clean {filename : String} {result : ScannerResult}
    (ran : (scanFile env conditions filePath filename buffer).run host = (after, .ok result))
    (clean : result.status = .clean) : after.received = host.received ∧ ∃ run,
      after.engineRuns = host.engineRuns ++ [run] ∧ run.content = some buffer ∧ run.exitCode = some 0 := by
  simp only [scanFile, writeFile, run_bind_ok, run_failIf_ok, run_write_ok, run_pure_ok] at ran
  obtain ⟨_, _, ⟨-, rfl⟩, _, _, rfl, scanned, middle, scan, rfl, rfl⟩ := ran
  obtain ⟨received, run, logged, content, zero⟩ := runClamScan_zero scan (verdict_clean clean)
  refine ⟨received, run, logged, ?_, zero⟩
  rw [content]
  exact Function.update_self ..

theorem scanWithClamAv_clean {result : ScannerResult}
    (ran : (scanWithClamAv env conditions buffer request).run host = (after, .ok result))
    (clean : result.status = .clean) : after.received = host.received ∧ ∃ run,
      after.engineRuns = host.engineRuns ++ [run] ∧ run.content = some buffer ∧ run.exitCode = some 0 := by
  unfold scanWithClamAv at ran
  split at ran
  · cases ran
  · next directory _ =>
    simp only [run_bind_ok, run_attempt, run_write_ok, run_failIf_ok, Prod.mk.injEq,
      Except.ok.injEq] at ran
    obtain ⟨outcome, middle, ⟨rfl, same⟩, _, _, rfl, _, _, ⟨-, rfl⟩, last⟩ := ran
    cases outcome with
    | error error => cases last
    | ok scanned =>
      cases last
      obtain ⟨received, engine⟩ := scanFile_clean (Prod.ext rfl same) clean
      exact ⟨received, engine⟩

theorem scanReceived_clean (ran : (scanReceived env conditions request buffer).run host = (after, .ok response)) :
    (∃ status signature, response.body = scanBody conditions status signature ∧
      (status = .clean → ScannedClean host after buffer)) := by
  unfold scanReceived at ran
  simp only [run_bind_ok, run_write_ok] at ran
  obtain ⟨_, _, rfl, ran⟩ := ran
  split at ran
  · cases ran
    exact ⟨.infected, _, rfl, nofun⟩
  · simp only [run_bind_ok, run_attempt, Prod.mk.injEq, Except.ok.injEq] at ran
    obtain ⟨outcome, middle, ⟨rfl, same⟩, ran⟩ := ran
    cases outcome with
    | error error =>
      cases ran
      exact ⟨.error, _, rfl, nofun⟩
    | ok result =>
      cases ran
      refine ⟨result.status, _, rfl, fun clean => ?_⟩
      obtain ⟨received, engine⟩ := scanWithClamAv_clean (Prod.ext rfl same) clean
      exact ⟨received, engine⟩

theorem value_of_isSpace (c : Char) (space : isSpace c = true) : Base64.value c = none := by
  have apart (other : Char) (visible : isSpace other = false) : c ≠ other := by
    intro same
    rw [same, visible] at space
    cases space
  have codes := space
  simp only [isSpace, List.mem_cons, List.not_mem_nil, or_false, Bool.or_eq_true, Bool.and_eq_true,
    decide_eq_true_eq] at codes
  unfold Base64.value
  rw [if_neg (by omega), if_neg (by omega), if_neg (by omega),
    if_neg (not_or_intro (apart '+' (by decide)) (apart '-' (by decide))),
    if_neg (not_or_intro (apart '/' (by decide)) (apart '_' (by decide)))]

theorem decodedContent_read {record : List (String × Json)}
    {text : String} (listed : record.lookup "content_base64" = some (.str (String.ofList (Base64.encode file.buffer))))
    (read : readRequiredString record "content_base64" = .ok text) : Base64.decode text.toList = file.buffer := by
  unfold readRequiredString at read
  rw [listed] at read
  dsimp only at read
  split at read
  · cases read
  · cases read
    calc
      Base64.decode (trim (String.ofList (Base64.encode file.buffer))).toList =
          Base64.decode ((((Base64.encode file.buffer).dropWhile isSpace).reverse.dropWhile
            isSpace).reverse) := by
        simp only [trim, String.toList_ofList]
      _ = Base64.decode (Base64.encode file.buffer) := Base64.decode_strip value_of_isSpace
      _ = file.buffer := Base64.decode_encode file.buffer

theorem readScanRequest_ok
    (read : readScanRequest sha256 env (some (scanRequestBody sha256 file)) = .ok (request, buffer)) :
    buffer = file.buffer := by
  simp only [readScanRequest, scanRequestBody, validatePayload, Outcome.bind_ok, Outcome.pure_ok, Prod.mk.injEq] at read
  obtain ⟨found, ⟨contentBase64, content, _, _, _, _, _, _, _, _, _, _, _, _, rfl⟩, _, _, rfl, rfl⟩ := read
  exact decodedContent_read rfl content

theorem readStringField_scanBody {signature : Option String} :
    readStringField (some (scanBody conditions status signature)) ["status", "verdict"] = some status.text := by
  have trimmed : trim status.text = status.text := by cases status <;> decide
  have present : status.text ≠ "" := by cases status <;> decide
  simp only [readStringField, scanBody, List.cons_append, List.findSome?_cons, List.lookup_cons_self, trimmed,
    if_neg present]

theorem clean_of_normalized
    (clean : normalizeProviderScanStatus (some status.text) = .clean) : status = .clean := by
  cases status with
  | clean => rfl
  | infected => exact absurd clean (by decide)
  | error => exact absurd clean (by decide)

theorem handleRequest_clean {request : ScanHttpRequest} (method : request.method = "POST")
    (body : request.body = some (scanRequestBody sha256 file))
    (ran : (handleRequest sha256 env conditions request).run host = (after, .ok response))
    (succeeded : response.statusCode ≤ 299)
    (clean : normalizeProviderScanStatus (readStringField (some response.body) ["status", "verdict"]) = .clean) :
    ScannedClean host after file.buffer := by
  unfold handleRequest at ran
  rw [method, body, if_neg (fun get => absurd get.1 (by decide))] at ran
  split at ran
  · cases ran
    exact absurd succeeded (by decide)
  · split at ran
    · cases ran
      exact absurd succeeded (by decide)
    · split at ran
      · cases ran
        have late : 400 ≤ 299 := succeeded
        omega
      · next scanRequest buffer read =>
        obtain ⟨status, signature, shown, scanned⟩ := scanReceived_clean ran
        rw [shown, readStringField_scanBody] at clean
        rw [← readScanRequest_ok read]
        exact scanned (clean_of_normalized clean)

end Server

section Client

variable {sha256 : Bytes → String} {parseUrl : String → Option Url} {parsesDate : String → Bool}
  {env : ScannerEnvironment} {conditions : ScanConditions} {channel : Channel} {host after : ScannerHost}
  {file : ProviderMalwareScanUploadFile}

theorem not_clean_without_json :
    normalizeProviderScanStatus (readStringField none ["status", "verdict"]) ≠ .clean := by
  decide

theorem exchange_clean {request : ScanHttpRequest} {response : FetchResponse} (method : request.method = "POST")
    (body : request.body = some (scanRequestBody sha256 file))
    (ran : (exchange sha256 env conditions channel request).run host = (after, .ok response)) (succeeded : response.ok)
    (clean : normalizeProviderScanStatus (readStringField response.json ["status", "verdict"]) = .clean) :
    ScannedClean host after file.buffer := by
  unfold exchange at ran
  cases channel with
  | losesRequest => cases ran
  | losesResponse =>
    obtain ⟨_, _, -, failed⟩ := run_bind_ok.mp ran
    cases failed
  | delivers =>
    obtain ⟨answer, middle, handled, returned⟩ := run_bind_ok.mp ran
    cases returned
    exact handleRequest_clean method body handled succeeded.2 clean
  | truncates =>
    obtain ⟨answer, middle, -, returned⟩ := run_bind_ok.mp ran
    cases returned
    exact absurd clean not_clean_without_json
  | answersOtherwise arrives other useless =>
    have same : response = other := by
      cases arrives with
      | false =>
        cases ran
        rfl
      | true =>
        obtain ⟨_, _, -, returned⟩ := run_bind_ok.mp ran
        cases returned
        rfl
    subst same
    rcases useless with unreadable | failed
    · rw [unreadable] at clean
      exact absurd clean not_clean_without_json
    · exact absurd succeeded failed

theorem runProviderMalwareScan_clean {provider apiUrl apiToken scannedAt : String} {result : ProviderMalwareScanResult}
    (ran : (runProviderMalwareScan sha256 parseUrl parsesDate env conditions channel provider apiUrl apiToken scannedAt
      file).run host = (after, .ok result)) (clean : result.status = .clean) : ScannedClean host after file.buffer := by
  unfold runProviderMalwareScan at ran
  simp only [run_bind_ok, run_lift_ok, run_failIf_ok, run_attempt, Prod.mk.injEq,
    Except.ok.injEq] at ran
  obtain ⟨name, _, ⟨-, rfl⟩, url, _, ⟨-, rfl⟩, _, _, ⟨-, rfl⟩, _, _, ⟨-, rfl⟩, outcome, middle, ⟨rfl, same⟩, last⟩ := ran
  cases outcome with
  | error error =>
    cases last
    cases clean
  | ok response =>
    cases last
    unfold responseResult at clean
    split at clean
    · next failed =>
      have cause : (if response.status = 408 ∨ response.status = 504 then ProviderMalwareScanStatus.timeout else .error) =
          .clean := clean
      split at cause <;> cases cause
    · next succeeded => exact exchange_clean rfl rfl (Prod.ext rfl same) (not_not.mp succeeded) clean

end Client

/-- With a complete configuration a scan returns only if the scanner has received exactly the bytes of the file, and has
run the engine on exactly these, which ended with 0; whatever else the channel, the scanner or the engine does, it
throws. -/
theorem returns_only_scanned_clean (sha256 : Bytes → String) (parseUrl : String → Option Url)
    (parsesDate : String → Bool) (env : ScannerEnvironment) (conditions : ScanConditions) (channel : Channel)
    (config : UploadScanConfig) (scannedAt : String) (file : ProviderMalwareScanUploadFile) (host after : ScannerHost)
    (result : Option ProviderMalwareScanResult) (complete : config.isComplete)
    (returned : (scanIfConfigured sha256 parseUrl parsesDate env conditions channel config scannedAt file).run host =
      (after, .ok result)) : ScannedClean host after file.buffer := by
  obtain ⟨provider, apiUrl, apiToken⟩ := complete
  obtain ⟨provider, found⟩ := Option.isSome_iff_exists.mp provider
  obtain ⟨apiUrl, foundUrl⟩ := Option.isSome_iff_exists.mp apiUrl
  obtain ⟨apiToken, foundToken⟩ := Option.isSome_iff_exists.mp apiToken
  unfold scanIfConfigured at returned
  simp only [found, foundUrl, foundToken, Effect.run_bind_ok, Effect.run_lift_ok] at returned
  obtain ⟨scan, middle, ran, _, _, ⟨passed, rfl⟩, last⟩ := returned
  cases last
  simp only [assertProviderMalwareScanPassed, Outcome.bind_ok, Outcome.failIf_ok, not_not] at passed
  obtain ⟨_, -, _, -, clean⟩ := passed
  exact runProviderMalwareScan_clean ran clean

def letter : ProviderMalwareScanUploadFile where
  originalname := "letter.txt"
  mimetype := "text/plain"
  size := JsNumber.ofNat 1
  buffer := [0x41]

def scanner : ScannerEnvironment where
  authToken := "secret"
  maxBytes := none
  eicarTestEnabled := ""
  healthScanEnabled := ""
  useDaemon := ""
  databasePath := ""

def quiet : ScanConditions where
  now := 1778745600000
  scanId := "scan-1"
  directory := some "/tmp/shulehub-scan-1"
  writesFile := true
  engine := .closed (some 0) ""
  removesDirectory := true

def newHost : ScannerHost where
  files := fun _ => none
  received := []
  engineRuns := []

def uploadScan : UploadScanConfig where
  provider := some "clamav"
  apiUrl := some "https://scanner.local/scan"
  apiToken := some "secret"
  required := none
  allowUnscanned := none
  nodeEnv := none
  appNodeEnv := none

def scanLetter : ScannerHost × Except Exception (Option ProviderMalwareScanResult) :=
  (scanIfConfigured
    (fun bytes => if bytes = [0x41] then "559aead08264d5795d3909718cdd05abd49572e84fe55590eef31a88a08fdffd" else "")
    (fun text => if text = "https://scanner.local/scan" then some ⟨"https:", "/scan"⟩ else none)
    (· = "2026-05-14T08:00:00.000Z") scanner quiet .delivers uploadScan "2026-05-14T08:00:00.000Z" letter).run newHost

theorem letter_scanned_clean : ScannedClean newHost scanLetter.1 letter.buffer := by
  have accepted : scanLetter.2.isOk = true := by decide +kernel
  cases ran : scanLetter with
  | mk after outcome =>
    rw [ran] at accepted
    cases outcome with
    | error error => cases accepted
    | ok result => exact returns_only_scanned_clean _ _ _ _ _ _ _ _ _ _ _ _ (by decide +kernel) ran

end ShuleHub.MalwareScan
