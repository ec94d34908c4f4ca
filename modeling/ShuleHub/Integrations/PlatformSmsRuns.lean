import ShuleHub.Integrations.PlatformSms

/-! The secrets of the SMS providers over runs: what was given last, and what a dispatch reads. -/

namespace ShuleHub.Integrations

open Transaction Security Runs JsText KeyedTable

variable (runtime : PlatformSmsRuntime)

inductive PlatformSmsCall where
  | create (newId : String) (draws : SecretDraws) (dto : CreatePlatformSmsProviderDto)
  | update (draws : SecretDraws) (providerId : String) (dto : UpdatePlatformSmsProviderDto)
  | setDefault (providerId : String)
  | test (providerId : String)

def PlatformSmsCall.execute : PlatformSmsCall → PlatformSmsTransaction PlatformSmsProvider
  | .create newId draws dto => createProvider runtime newId draws dto
  | .update draws providerId dto => updateProvider runtime draws providerId dto
  | .setDefault providerId => setDefaultProvider runtime providerId
  | .test providerId => testProvider runtime providerId

structure GivenSecrets where
  apiKey : String
  username : Option String

/-- The secrets of a provider once a call has named them, whatever is stored. -/
@[grind =] def PlatformSmsCall.given (before : Option GivenSecrets) : PlatformSmsCall → Option GivenSecrets
  | .create _ _ dto => some ⟨JsText.trim dto.apiKey, trimmed dto.username⟩
  | .update _ _ dto => before.map fun secrets =>
    { apiKey := (trimmed dto.apiKey).getD secrets.apiKey
      username := match dto.username with
        | none => secrets.username
        | some username => trimmed (some username) }
  | .setDefault _ | .test _ => before

structure PlatformSmsBooks where
  db : PlatformSmsDb
  given : String → Option GivenSecrets

variable (books : PlatformSmsBooks)

def PlatformSmsBooks.empty : PlatformSmsBooks := ⟨⟨KeyedTable.empty⟩, fun _ => none⟩

def serve (call : PlatformSmsCall) : PlatformSmsBooks :=
  match (call.execute runtime).run books.db with
  | .ok (provider, db) => ⟨db, Function.update books.given provider.id (call.given (books.given provider.id))⟩
  | .error _ => books

/-- A dispatch reads what was given last, wherever there is a provider to send through. -/
def DispatchesGiven : Prop :=
  ∀ provider, findDefaultProvider books.db = some provider →
    ∃ secrets, books.given provider.id = some secrets ∧
      getDefaultProviderForDispatch runtime books.db = .ok (some ⟨provider, secrets.apiKey, secrets.username⟩)

def IsPlainSecret (secret : String) : Prop := secret ≠ "" ∧ isEncrypted secret = false

/-- A creation gives plain secrets, and an update of a provider that exists gives none. -/
def GivesReadableSecrets : PlatformSmsCall → Prop
  | .create _ _ dto =>
    IsPlainSecret (JsText.trim dto.apiKey) ∧ ∀ username, trimmed dto.username = some username → IsPlainSecret username
  | .update _ providerId dto =>
    (∃ id provider, runtime.castUuid providerId = some id ∧ books.db.providers.find id = some provider) →
      trimmed dto.apiKey = none ∧ trimmed dto.username = none
  | .setDefault _ | .test _ => True

section Steps

variable {runtime : PlatformSmsRuntime} {db after : PlatformSmsDb} {provider : PlatformSmsProvider}
  {row : PlatformSmsProvider} {middle : PlatformSmsDb} {providerId : String} {draws : SecretDraws}

structure SameSecrets (row old : PlatformSmsProvider) : Prop where
  id : row.id = old.id
  providerCode : row.providerCode = old.providerCode
  apiKeyCiphertext : row.apiKeyCiphertext = old.apiKeyCiphertext
  usernameCiphertext : row.usernameCiphertext = old.usernameCiphertext

def WritesOnly (db : PlatformSmsDb) (provider : PlatformSmsProvider) (after : PlatformSmsDb) : Prop :=
  ∀ row ∈ after.providers.rows,
    row = provider ∨ row.id ≠ provider.id ∧ ∃ old ∈ db.providers.rows, SameSecrets row old

theorem storeProvider_ok (stores : (storeProvider row).run db = .ok (provider, after)) :
    provider = row ∧ after.providers = db.providers.put row := by
  simp only [storeProvider, run_bind_ok, run_current_ok, run_lift_ok, run_write_ok, run_pure_ok] at stores
  obtain ⟨_, _, ⟨rfl, rfl⟩, _, _, ⟨-, rfl⟩, _, _, written, rfl, rfl⟩ := stores
  exact ⟨rfl, by rw [← written]⟩

theorem storeProvider_writesOnly
    (stores : (storeProvider row).run db = .ok (provider, after)) : WritesOnly db provider after := by
  have ⟨same, stored⟩ := storeProvider_ok stores
  intro other member
  rw [stored] at member
  rcases mem_put.mp member with rfl | ⟨old, differs⟩
  · exact .inl same.symm
  · rw [same]
    exact .inr ⟨differs, other, old, ⟨rfl, rfl, rfl, rfl⟩⟩

theorem clearDefaultProvider_ok {result : Unit}
    (clears : clearDefaultProvider.run db = .ok (result, middle)) :
    ∀ row ∈ middle.providers.rows, ∃ old ∈ db.providers.rows, SameSecrets row old := by
  intro row member
  rw [clearDefaultProvider, run_write_ok] at clears
  rw [← clears] at member
  have ⟨old, present, same⟩ := List.mem_map.mp member
  refine ⟨old, present, ?_⟩
  rw [← same]
  exact ⟨rfl, rfl, rfl, rfl⟩

theorem WritesOnly.of_cleared
    (cleared : ∀ row ∈ middle.providers.rows, ∃ old ∈ db.providers.rows, SameSecrets row old)
    (writes : WritesOnly middle provider after) : WritesOnly db provider after := by
  intro row member
  rcases writes row member with same | ⟨differs, old, present, kept⟩
  · exact .inl same
  · have ⟨first, listed, before⟩ := cleared old present
    refine .inr ⟨differs, first, listed, ?_⟩
    exact ⟨kept.id.trans before.id, kept.providerCode.trans before.providerCode,
      kept.apiKeyCiphertext.trans before.apiKeyCiphertext, kept.usernameCiphertext.trans before.usernameCiphertext⟩

theorem findProvider_ok
    (finds : (findProvider runtime providerId).run db = .ok (provider, middle)) :
    middle = db ∧ ∃ id, runtime.castUuid providerId = some id ∧ db.providers.find id = some provider := by
  simp only [findProvider, run_bind_ok, run_required_ok, run_current_ok] at finds
  obtain ⟨id, _, ⟨cast, rfl⟩, _, _, ⟨rfl, rfl⟩, found, rfl⟩ := finds
  exact ⟨rfl, id, cast, found⟩

theorem createProvider_ok {newId : String} {dto : CreatePlatformSmsProviderDto}
    (creates : (createProvider runtime newId draws dto).run db = .ok (provider, after)) :
    WritesOnly db provider after ∧ provider.providerCode = dto.providerCode ∧
      provider.apiKeyCiphertext = runtime.encryption.encrypt (trim dto.apiKey)
        (some (apiKeyAad dto.providerCode.text)) draws.apiKeyIv ∧
      provider.usernameCiphertext = runtime.encryption.encryptNullable (trimmed dto.username)
        (some (usernameAad dto.providerCode.text)) draws.usernameIv := by
  simp only [createProvider, run_bind_ok, run_current_ok] at creates
  obtain ⟨_, middle, cleared, _, _, ⟨rfl, rfl⟩, stores⟩ := creates
  have kept : ∀ row ∈ middle.providers.rows, ∃ old ∈ db.providers.rows, SameSecrets row old := by
    split at cleared
    · exact clearDefaultProvider_ok cleared
    · rw [run_pure_ok] at cleared
      intro row member
      rw [← cleared.2] at member
      exact ⟨row, member, rfl, rfl, rfl, rfl⟩
  obtain ⟨same, _⟩ := storeProvider_ok stores
  have writes := (storeProvider_writesOnly stores).of_cleared kept
  refine ⟨writes, ?_, ?_, ?_⟩
  · rw [same]
  · rw [same]
  · rw [same]

theorem updateProvider_ok {dto : UpdatePlatformSmsProviderDto}
    (updates : (updateProvider runtime draws providerId dto).run db = .ok (provider, after)) :
    WritesOnly db provider after ∧
      ∃ id old, runtime.castUuid providerId = some id ∧ db.providers.find id = some old ∧
        (trimmed dto.apiKey = none → trimmed dto.username = none →
          provider.id = old.id ∧ provider.providerCode = old.providerCode ∧
            provider.apiKeyCiphertext = old.apiKeyCiphertext ∧
            provider.usernameCiphertext = if dto.username = none then old.usernameCiphertext else none) := by
  simp only [updateProvider, run_bind_ok] at updates
  obtain ⟨old, _, finds, stores⟩ := updates
  obtain ⟨rfl, id, cast, found⟩ := findProvider_ok finds
  obtain ⟨same, _⟩ := storeProvider_ok stores
  refine ⟨storeProvider_writesOnly stores, id, old, cast, found, ?_⟩
  intro noKey noUsername
  rw [same]
  refine ⟨rfl, rfl, ?_, ?_⟩
  · rw [noKey]
    rfl
  · cases named : dto.username with
    | none => rfl
    | some username =>
      rw [named] at noUsername
      simp only [noUsername]
      rfl

theorem setDefaultProvider_ok
    (sets : (setDefaultProvider runtime providerId).run db = .ok (provider, after)) :
    WritesOnly db provider after ∧ ∃ old ∈ db.providers.rows, SameSecrets provider old := by
  simp only [setDefaultProvider, run_bind_ok] at sets
  obtain ⟨_, middle, clears, found, _, finds, stores⟩ := sets
  obtain ⟨rfl, id, -, member⟩ := findProvider_ok finds
  have cleared := clearDefaultProvider_ok clears
  obtain ⟨same, _⟩ := storeProvider_ok stores
  obtain ⟨old, present, kept⟩ := cleared found ((find_eq_some _).mp member).1
  refine ⟨(storeProvider_writesOnly stores).of_cleared cleared, old, present, ?_⟩
  rw [same]
  exact ⟨kept.id, kept.providerCode, kept.apiKeyCiphertext, kept.usernameCiphertext⟩

theorem testProvider_ok
    (tests : (testProvider runtime providerId).run db = .ok (provider, after)) :
    WritesOnly db provider after ∧ ∃ old ∈ db.providers.rows, SameSecrets provider old := by
  simp only [testProvider, run_bind_ok, run_current_ok, run_required_ok, run_lift_ok, run_failIf_ok] at tests
  obtain ⟨_, _, ⟨rfl, rfl⟩, old, _, ⟨found, rfl⟩, _, _, ⟨-, rfl⟩, _, _, ⟨-, rfl⟩, stores⟩ := tests
  obtain ⟨same, _⟩ := storeProvider_ok stores
  refine ⟨storeProvider_writesOnly stores, old, ((find_eq_some _).mp found).1, ?_⟩
  rw [same]
  exact ⟨rfl, rfl, rfl, rfl⟩

end Steps

section Reading

variable {runtime : PlatformSmsRuntime}
  {old provider : PlatformSmsProvider} {secrets : GivenSecrets} {secret : String} {books : PlatformSmsBooks}
  {call : PlatformSmsCall} {after : PlatformSmsDb}

structure Reads (runtime : PlatformSmsRuntime) (row : PlatformSmsProvider) (secrets : GivenSecrets) : Prop where
  apiKey : decryptApiKey runtime row = .ok secrets.apiKey
  username : decryptUsername runtime row = .ok secrets.username

def AllReadable (runtime : PlatformSmsRuntime) (books : PlatformSmsBooks) : Prop :=
  ∀ row ∈ books.db.providers.rows, ∃ secrets, books.given row.id = some secrets ∧ Reads runtime row secrets

theorem SameSecrets.reads {row : PlatformSmsProvider} (same : SameSecrets row old)
    (reads : Reads runtime old secrets) : Reads runtime row secrets := by
  constructor
  · rw [decryptApiKey, same.apiKeyCiphertext, same.providerCode]
    exact reads.apiKey
  · rw [decryptUsername, same.usernameCiphertext, same.providerCode]
    exact reads.username

theorem decrypt_encrypt_of_plain (plain : IsPlainSecret secret) (aad : Option String) (iv : Iv) :
    runtime.encryption.decrypt (runtime.encryption.encrypt secret aad iv) aad = .ok secret := by
  rw [runtime.encryption.encrypt_of_plain plain.2]
  exact runtime.encryption.decrypt_sealText_same plain.1 aad iv

theorem encrypt_ne_empty (plain : IsPlainSecret secret) (aad : Option String) (iv : Iv) :
    runtime.encryption.encrypt secret aad iv ≠ "" := by
  intro empty
  have marked := runtime.encryption.isEncrypted_sealText secret aad iv
  rw [← runtime.encryption.encrypt_of_plain plain.2, empty] at marked
  exact absurd marked (by decide)

theorem reads_of_create {draws : SecretDraws} {dto : CreatePlatformSmsProviderDto}
    (plainKey : IsPlainSecret (trim dto.apiKey))
    (plainUsername : ∀ username, trimmed dto.username = some username → IsPlainSecret username)
    (code : provider.providerCode = dto.providerCode)
    (key : provider.apiKeyCiphertext = runtime.encryption.encrypt (trim dto.apiKey)
      (some (apiKeyAad dto.providerCode.text)) draws.apiKeyIv)
    (username : provider.usernameCiphertext = runtime.encryption.encryptNullable (trimmed dto.username)
      (some (usernameAad dto.providerCode.text)) draws.usernameIv) :
    Reads runtime provider ⟨trim dto.apiKey, trimmed dto.username⟩ := by
  constructor
  · rw [decryptApiKey, key, code]
    exact decrypt_encrypt_of_plain plainKey _ _
  · rw [decryptUsername, username, code]
    cases named : trimmed dto.username with
    | none => rfl
    | some text =>
      have plain := plainUsername text named
      have present := @encrypt_ne_empty runtime text plain (some (usernameAad dto.providerCode.text)) draws.usernameIv
      have restored := @decrypt_encrypt_of_plain runtime text plain (some (usernameAad dto.providerCode.text))
        draws.usernameIv
      simp only [PiiEncryptionService.encryptNullable, PiiEncryptionService.decryptNullable, Option.map_some,
        Option.filter_some, present, ne_eq, not_false_eq_true, decide_true, if_true, Option.mapM_some, restored]
      rfl

theorem serve_of_error {error : Exception}
    (fails : (call.execute runtime).run books.db = .error error) : serve runtime books call = books := by
  rw [serve, fails]

theorem serve_of_ok (succeeds : (call.execute runtime).run books.db = .ok (provider, after)) :
    serve runtime books call =
      ⟨after, Function.update books.given provider.id (call.given (books.given provider.id))⟩ := by
  rw [serve, succeeds]

theorem allReadable_of_writesOnly (readable : AllReadable runtime books) (writes : WritesOnly books.db provider after)
    (reads : Reads runtime provider secrets) :
    AllReadable runtime ⟨after, Function.update books.given provider.id (some secrets)⟩ := by
  intro row member
  rcases writes row member with same | ⟨differs, old, present, kept⟩
  · refine ⟨secrets, ?_, ?_⟩
    · rw [same]
      exact Function.update_self _ _ _
    · rw [same]
      exact reads
  · have ⟨before, listed, readsOld⟩ := readable old present
    refine ⟨before, ?_, kept.reads readsOld⟩
    rw [← listed, ← kept.id]
    exact Function.update_of_ne differs _ _

theorem allReadable_of_same
    (readable : AllReadable runtime books) (writes : WritesOnly books.db provider after)
    (present : old ∈ books.db.providers.rows) (same : SameSecrets provider old) :
    AllReadable runtime ⟨after, Function.update books.given provider.id (books.given provider.id)⟩ := by
  have ⟨secrets, listed, reads⟩ := readable old present
  rw [same.id, listed, ← same.id]
  exact allReadable_of_writesOnly readable writes (same.reads reads)

theorem serve_allReadable (books : PlatformSmsBooks) (call : PlatformSmsCall) (readable : AllReadable runtime books)
    (plain : GivesReadableSecrets runtime books call) : AllReadable runtime (serve runtime books call) := by
  cases ran : (call.execute runtime).run books.db with
  | error error =>
    rw [serve_of_error ran]
    exact readable
  | ok outcome =>
    have ⟨provider, after⟩ := outcome
    rw [serve_of_ok ran]
    cases call with
    | create newId draws dto =>
      have ⟨writes, code, key, username⟩ := createProvider_ok ran
      exact allReadable_of_writesOnly readable writes (reads_of_create plain.1 plain.2 code key username)
    | update draws providerId dto =>
      have ⟨writes, id, old, cast, found, kept⟩ := updateProvider_ok ran
      have ⟨noKey, noUsername⟩ := plain ⟨id, old, cast, found⟩
      have ⟨sameId, sameCode, sameKey, username⟩ := kept noKey noUsername
      have ⟨secrets, listed, reads⟩ := readable old ((find_eq_some _).mp found).1
      have stays : Reads runtime provider ⟨secrets.apiKey, if dto.username = none then secrets.username else none⟩ := by
        constructor
        · rw [decryptApiKey, sameKey, sameCode]
          exact reads.apiKey
        · rw [decryptUsername, username, sameCode]
          split
          · exact reads.username
          · rfl
      have next := allReadable_of_writesOnly readable writes stays
      have given : (PlatformSmsCall.update draws providerId dto).given (books.given provider.id) =
          some ⟨secrets.apiKey, if dto.username = none then secrets.username else none⟩ := by
        rw [sameId, listed]
        cases named : dto.username with
        | none => simp [PlatformSmsCall.given, noKey, named]
        | some text =>
          rw [named] at noUsername
          simp [PlatformSmsCall.given, noKey, named, noUsername]
      rw [given]
      exact next
    | setDefault providerId =>
      have ⟨writes, old, present, same⟩ := setDefaultProvider_ok ran
      exact allReadable_of_same readable writes present same
    | test providerId =>
      have ⟨writes, old, present, same⟩ := testProvider_ok ran
      exact allReadable_of_same readable writes present same

theorem dispatchesGiven_of_allReadable (readable : AllReadable runtime books) :
    DispatchesGiven runtime books := by
  intro provider found
  have ⟨secrets, listed, reads⟩ := readable provider (List.mem_of_find?_eq_some found)
  refine ⟨secrets, listed, ?_⟩
  simp only [getDefaultProviderForDispatch, found, reads.apiKey, reads.username]
  rfl

end Reading

/-- While creations give plain secrets and updates of providers give none, every dispatch reads what was given last. -/
theorem dispatch_reads_given (runtime : PlatformSmsRuntime) (calls : List PlatformSmsCall)
    (each : Meets (serve runtime) (GivesReadableSecrets runtime) PlatformSmsBooks.empty calls) :
    Along (serve runtime) (DispatchesGiven runtime) PlatformSmsBooks.empty calls := by
  apply along_of_meets (@serve_allReadable runtime) _ _ each
  · intro books readable
    exact dispatchesGiven_of_allReadable readable
  · intro row member
    exact absurd member List.not_mem_nil

def samplePlatformRuntime : PlatformSmsRuntime where
  encryption := sampleService
  castUuid := some

def sampleDraws : SecretDraws := ⟨sampleIv, sampleIv⟩

def sampleCreation : PlatformSmsCall :=
  .create "provider-1" sampleDraws {
    providerName := "Africa's Talking"
    providerCode := .africasTalking
    apiKey := "live-api-key-secret"
    username := some "shulehub"
    senderId := "SHULEHUB"
    baseUrl := none
    isActive := some true
    isDefault := some true }

def sampleUpdate (apiKey : Option String) : PlatformSmsCall :=
  .update sampleDraws "provider-1" {
    providerName := some "Africa's Talking"
    apiKey
    username := none
    senderId := some "SHULE"
    baseUrl := none
    isActive := none }

theorem dispatch_reads_sample :
    Along (serve samplePlatformRuntime) (DispatchesGiven samplePlatformRuntime) PlatformSmsBooks.empty
      [sampleCreation, sampleUpdate none] := by
  apply dispatch_reads_given
  refine ⟨⟨⟨by decide +kernel, by decide +kernel⟩, ?_⟩, fun _ => ⟨rfl, rfl⟩, trivial⟩
  intro username named
  have trimmedName : trimmed (some "shulehub") = some "shulehub" := by decide +kernel
  rw [← Option.some.inj (trimmedName.symm.trans named)]
  exact ⟨by decide +kernel, by decide +kernel⟩

/-- A new key for the default provider leaves it in place, and no message can be sent. -/
theorem updated_key_stops_dispatch :
    let books := run (serve samplePlatformRuntime) PlatformSmsBooks.empty
      [sampleCreation, sampleUpdate (some "rotated-api-key")]
    ((findDefaultProvider books.db).map (·.id) = some "provider-1" ∧
        getDefaultProviderForDispatch samplePlatformRuntime books.db =
          .error (.internal "Unsupported state or unable to authenticate data")) ∧
      ¬ DispatchesGiven samplePlatformRuntime books := by
  intro books
  have stops : (findDefaultProvider books.db).map (·.id) = some "provider-1" ∧
      getDefaultProviderForDispatch samplePlatformRuntime books.db =
        .error (.internal "Unsupported state or unable to authenticate data") := by
    decide +kernel
  refine ⟨stops, ?_⟩
  intro dispatches
  have ⟨provider, found, _⟩ := Option.map_eq_some_iff.mp stops.1
  have ⟨_, _, sends⟩ := dispatches provider found
  rw [stops.2] at sends
  cases sends

end ShuleHub.Integrations
