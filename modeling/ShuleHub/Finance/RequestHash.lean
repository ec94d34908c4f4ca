import ShuleHub.Finance.Ledger

/-! When two requests have the same idempotency hash. -/

namespace ShuleHub.Finance

open Outcome

variable {runtime : Runtime} {hash : String} {input : PostFinancialTransactionInput}

@[ext]
structure NormalizedEntry where
  accountId : String
  direction : EntryDirection
  amountMinor : Nat
  currencyCode : Option String
  description : Option String
  metadata : Json

/-- A request without its key, with amounts trimmed, currencies in upper case and the keys of its
metadata sorted. -/
@[ext]
structure NormalizedPayload where
  reference : String
  description : String
  effectiveAt : Option String
  postedAt : Option String
  metadata : Json
  entries : List NormalizedEntry

def normalizedEntry (entry : LedgerPostingEntryInput) : Except Exception NormalizedEntry := do
  let amountMinor ← normalizeLedgerAmount entry.amountMinor
  return {
    accountId := entry.accountId
    direction := entry.direction
    amountMinor
    currencyCode := entry.currencyCode.map normalizeCurrency
    description := entry.description
    metadata := Json.canonical (entry.metadata.getD (.obj [])) }

def normalizedPayload (input : PostFinancialTransactionInput) : Except Exception NormalizedPayload := do
  let entries ← input.entries.mapM normalizedEntry
  return {
    reference := input.reference
    description := input.description
    effectiveAt := input.effectiveAt
    postedAt := input.postedAt
    metadata := Json.canonical (input.metadata.getD (.obj []))
    entries }

theorem jsonText_canonical (text : Option String) : Json.canonical (jsonText text) = jsonText text := by
  cases text <;> rfl

theorem jsonText_injective {left right : Option String} (same : jsonText left = jsonText right) : left = right := by
  cases left <;> cases right <;> simp_all [jsonText]

theorem jsonNat_injective {m n : Nat} (same : jsonNat m = jsonNat n) : m = n := by
  have texts : m.repr = n.repr := Json.str.inj same
  rw [Nat.repr_eq_ofList_toDigits, Nat.repr_eq_ofList_toDigits] at texts
  have digits := String.ofList_injective texts
  have values := congrArg (Nat.ofDigitChars 10 · 0) digits
  simpa using values

theorem EntryDirection.text_injective {left right : EntryDirection} (same : left.text = right.text) :
    left = right := by
  cases left <;> cases right <;> simp_all [EntryDirection.text]

def NormalizedEntry.fields (entry : NormalizedEntry) : List (String × Json) := [
  ("account_id", .str entry.accountId),
  ("direction", .str entry.direction.text),
  ("amount_minor", jsonNat entry.amountMinor),
  ("currency_code", jsonText entry.currencyCode),
  ("description", jsonText entry.description),
  ("metadata", entry.metadata)]

def NormalizedEntry.json (entry : NormalizedEntry) : Json := .obj (Json.sortFields entry.fields)

def NormalizedPayload.fields (idempotencyKey : String) (payload : NormalizedPayload) : List (String × Json) := [
  ("idempotency_key", .str idempotencyKey),
  ("reference", .str payload.reference),
  ("description", .str payload.description),
  ("effective_at", jsonText payload.effectiveAt),
  ("posted_at", jsonText payload.postedAt),
  ("metadata", payload.metadata),
  ("entries", .arr (payload.entries.map NormalizedEntry.json))]

def NormalizedPayload.json (idempotencyKey : String) (payload : NormalizedPayload) : Json :=
  .obj (Json.sortFields (payload.fields idempotencyKey))

theorem NormalizedEntry.json_injective {left right : NormalizedEntry} (same : left.json = right.json) :
    left = right := by
  have keys : left.fields.map Prod.fst = right.fields.map Prod.fst := rfl
  have distinct : (left.fields.map Prod.fst).Nodup := by simp [NormalizedEntry.fields]
  have fields := (Json.sortFields_inj keys distinct).mp (Json.obj.inj same)
  simp only [NormalizedEntry.fields, List.cons.injEq, Prod.mk.injEq, Json.str.injEq, true_and, and_true] at fields
  obtain ⟨account, direction, amount, currency, description, metadata⟩ := fields
  exact NormalizedEntry.ext account (EntryDirection.text_injective direction) (jsonNat_injective amount)
    (jsonText_injective currency) (jsonText_injective description) metadata

theorem NormalizedPayload.json_injective {leftKey rightKey : String} {left right : NormalizedPayload}
    (same : left.json leftKey = right.json rightKey) : leftKey = rightKey ∧ left = right := by
  have keys : (left.fields leftKey).map Prod.fst = (right.fields rightKey).map Prod.fst := rfl
  have distinct : ((left.fields leftKey).map Prod.fst).Nodup := by simp [NormalizedPayload.fields]
  have fields := (Json.sortFields_inj keys distinct).mp (Json.obj.inj same)
  simp only [NormalizedPayload.fields, List.cons.injEq, Prod.mk.injEq, Json.str.injEq, Json.arr.injEq, true_and, and_true] at fields
  obtain ⟨key, reference, description, effectiveAt, postedAt, metadata, entries⟩ := fields
  have entries := List.map_injective_iff.mpr (fun _ _ => NormalizedEntry.json_injective) entries
  exact ⟨key, NormalizedPayload.ext reference description (jsonText_injective effectiveAt)
    (jsonText_injective postedAt) metadata entries⟩

theorem hashedEntry_json (entry : LedgerPostingEntryInput) :
    (hashedEntry entry).map Json.canonical = (normalizedEntry entry).map NormalizedEntry.json := by
  unfold hashedEntry normalizedEntry
  cases normalizeLedgerAmount entry.amountMinor with
  | error error => rfl
  | ok amount =>
    change Except.ok (Json.canonical (.obj _)) = Except.ok _
    simp only [Json.canonical, Json.canonicalFields, jsonText_canonical]
    rfl

theorem mapM_map {Error A B C : Type} {first : A → Except Error B} {second : A → Except Error C}
    {left : B → Json} {right : C → Json} (same : ∀ item, (first item).map left = (second item).map right)
    (items : List A) :
    (items.mapM first).map (List.map left) = (items.mapM second).map (List.map right) := by
  induction items with
  | nil => rfl
  | cons item items ih =>
    have head := same item
    rw [List.mapM_cons, List.mapM_cons]
    cases firstItem : first item <;> cases secondItem : second item <;>
      simp only [firstItem, secondItem, Except.map, reduceCtorEq, Except.ok.injEq, Except.error.injEq] at head
    · rw [head]
      rfl
    · cases firstRest : items.mapM first <;> cases secondRest : items.mapM second <;>
        simp only [firstRest, secondRest, Except.map, reduceCtorEq, Except.ok.injEq, Except.error.injEq] at ih
      · rw [ih]
        rfl
      · change Except.ok (left _ :: List.map left _) = Except.ok (right _ :: List.map right _)
        rw [head, ih]

theorem hashedPayload_json (input : PostFinancialTransactionInput) :
    (hashedPayload input).map Json.canonical =
      (normalizedPayload input).map (NormalizedPayload.json input.idempotencyKey) := by
  have entries := mapM_map hashedEntry_json input.entries
  unfold hashedPayload normalizedPayload
  cases hashed : input.entries.mapM hashedEntry <;> cases normalized : input.entries.mapM normalizedEntry <;>
    simp only [hashed, normalized, Except.map, reduceCtorEq, Except.ok.injEq, Except.error.injEq] at entries
  · rw [entries]
    rfl
  · change Except.ok (Json.canonical (.obj _)) = Except.ok _
    simp only [Json.canonical, Json.canonicalFields, jsonText_canonical, Json.canonicalItems_eq_map, entries]
    rfl

theorem buildIdempotencyHash_ok (injective : Function.Injective runtime.sha256)
    {left right : PostFinancialTransactionInput}
    (leftHash : buildIdempotencyHash runtime left = .ok hash)
    (rightHash : buildIdempotencyHash runtime right = .ok hash) :
    left.idempotencyKey = right.idempotencyKey ∧
      ∃ payload, normalizedPayload left = .ok payload ∧ normalizedPayload right = .ok payload := by
  simp only [buildIdempotencyHash, bind_ok, pure_ok] at leftHash rightHash
  obtain ⟨leftJson, leftHashed, rfl⟩ := leftHash
  obtain ⟨rightJson, rightHashed, sameHash⟩ := rightHash
  have texts := String.ofList_injective (injective sameHash)
  have canonicals := (Json.serialize_eq_iff _ _).mp texts
  have leftForm := hashedPayload_json left
  have rightForm := hashedPayload_json right
  rw [leftHashed] at leftForm
  rw [rightHashed] at rightForm
  cases leftPayload : normalizedPayload left with
  | error error => simp [leftPayload, Except.map] at leftForm
  | ok leftNormal =>
    cases rightPayload : normalizedPayload right with
    | error error => simp [rightPayload, Except.map] at rightForm
    | ok rightNormal =>
      simp only [leftPayload, rightPayload, Except.map, Except.ok.injEq] at leftForm rightForm
      obtain ⟨key, same⟩ := NormalizedPayload.json_injective (leftForm.symm.trans (canonicals.symm.trans rightForm))
      exact ⟨key, leftNormal, rfl, by rw [same]⟩

theorem buildIdempotencyHash_total (runtime : Runtime)
    {payload : NormalizedPayload} (normalized : normalizedPayload input = .ok payload) :
    ∃ hash, buildIdempotencyHash runtime input = .ok hash := by
  have form := hashedPayload_json input
  rw [normalized] at form
  cases hashed : hashedPayload input with
  | error error => simp [hashed, Except.map] at form
  | ok value => exact ⟨_, by rw [buildIdempotencyHash, hashed]; rfl⟩

theorem normalizedPayload_total
    (hashed : buildIdempotencyHash runtime input = .ok hash) : ∃ payload, normalizedPayload input = .ok payload := by
  simp only [buildIdempotencyHash, bind_ok, pure_ok] at hashed
  obtain ⟨value, payload, -⟩ := hashed
  have form := hashedPayload_json input
  rw [payload] at form
  cases normal : normalizedPayload input with
  | error error => simp [normal, Except.map] at form
  | ok found => exact ⟨found, rfl⟩

theorem hash_of_normalizedPayload {runtime : Runtime} {input : PostFinancialTransactionInput} {hash : String}
    {payload : NormalizedPayload} (hashed : buildIdempotencyHash runtime input = .ok hash)
    (normal : normalizedPayload input = .ok payload) :
    hash = runtime.sha256 (String.ofList (Json.render (payload.json input.idempotencyKey))) := by
  simp only [buildIdempotencyHash, bind_ok, pure_ok] at hashed
  obtain ⟨value, hashed, rfl⟩ := hashed
  have form := hashedPayload_json input
  rw [hashed, normal] at form
  rw [stableSerialize, Json.serialize_eq_render, Except.ok.inj form]

/-- Two values have one stable text exactly if they are equal up to the order of their keys, and two postings one hash
exactly if they have one key and agree in their normal form. -/
theorem stable_texts_identify_postings (runtime : Runtime) (injective : Function.Injective runtime.sha256) :
    (∀ first second : Json, first.DistinctKeys → second.DistinctKeys →
      (stableSerialize first = stableSerialize second ↔ Json.Reordered first second)) ∧
    ∀ (left right : PostFinancialTransactionInput) (leftHash rightHash : String),
      buildIdempotencyHash runtime left = .ok leftHash → buildIdempotencyHash runtime right = .ok rightHash →
        (leftHash = rightHash ↔
          left.idempotencyKey = right.idempotencyKey ∧ normalizedPayload left = normalizedPayload right) := by
  constructor
  · intro first second distinct other
    rw [stableSerialize, stableSerialize, String.ofList_inj, Json.serialize_eq_iff]
    exact Json.canonical_eq_iff distinct other
  · intro left right leftHash rightHash hashed otherHashed
    constructor
    · rintro rfl
      obtain ⟨key, payload, normal, otherNormal⟩ := buildIdempotencyHash_ok injective hashed otherHashed
      exact ⟨key, normal.trans otherNormal.symm⟩
    · rintro ⟨key, same⟩
      obtain ⟨payload, normal⟩ := normalizedPayload_total hashed
      rw [hash_of_normalizedPayload hashed normal, hash_of_normalizedPayload otherHashed (same.symm.trans normal), key]

theorem key_order_is_ignored :
    stableSerialize (.obj [("amount", .null), ("currency", .str "KES")]) =
      stableSerialize (.obj [("currency", .str "KES"), ("amount", .null)]) := by
  have texts := (stable_texts_identify_postings ⟨"", id, fun _ => none, fun _ _ => true, 0⟩ Function.injective_id).1
  refine (texts _ _ ?_ ?_).mpr (.perm (by decide) (List.Perm.swap _ _ _))
  · exact ⟨by decide, trivial, trivial, trivial⟩
  · exact ⟨by decide, trivial, trivial, trivial⟩

end ShuleHub.Finance
