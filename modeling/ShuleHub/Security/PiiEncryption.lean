import ShuleHub.Exceptions
import ShuleHub.Lib.Aead
import ShuleHub.Lib.JsSplit

/-! `PiiEncryptionService`: texts encrypted field by field, each in an envelope of its own. -/

namespace ShuleHub.Security

open JsText

abbrev Bytes := List UInt8

def encryptionPrefix : String := "enc:v1"

def ivLengthBytes : Nat := 12

abbrev Iv := {bytes : Bytes // bytes.length = ivLengthBytes}

def isHexKeyDigit (c : Char) : Bool :=
  ('0' ≤ c && c ≤ '9') || ('a' ≤ c && c ≤ 'f') || ('A' ≤ c && c ≤ 'F')

def hexValue (c : Char) : Nat :=
  if c ≤ '9' then c.toNat - '0'.toNat
  else if c ≤ 'F' then c.toNat - 'A'.toNat + 10
  else c.toNat - 'a'.toNat + 10

def fromHex : List Char → Bytes
  | high :: low :: rest => UInt8.ofNat (16 * hexValue high + hexValue low) :: fromHex rest
  | _ => []

def resolveEncryptionKey (value : String) : Except Exception Bytes :=
  let normalizedValue := JsText.trim value
  let base64Key := Base64.decode normalizedValue.toList
  let utf8Key := JsText.utf8 normalizedValue.toList
  if normalizedValue = "" then .error (.internal "PII encryption key is not configured")
  else if normalizedValue.toList.length = 64 ∧ normalizedValue.toList.all isHexKeyDigit then
    .ok (fromHex normalizedValue.toList)
  else if base64Key.length = 32 then .ok base64Key
  else if utf8Key.length = 32 then .ok utf8Key
  else .error (.internal "PII encryption key must be a 32-byte value encoded as base64, hex, or UTF-8 text")

theorem length_fromHex (digits : List Char) : (fromHex digits).length = digits.length / 2 := by
  fun_induction fromHex digits with
  | case1 high low rest ih =>
    simp only [List.length_cons, ih]
    omega
  | case2 digits short =>
    cases digits with
    | nil => rfl
    | cons high rest =>
      cases rest with
      | nil => simp
      | cons low rest => exact absurd rfl (short high low rest)

theorem length_of_resolved {value : String} {key : Bytes} (resolves : resolveEncryptionKey value = .ok key) :
    key.length = 32 := by
  rw [resolveEncryptionKey] at resolves
  split_ifs at resolves with empty hexadecimal long short
  · rw [← Except.ok.inj resolves, length_fromHex, hexadecimal.1]
  · rw [← Except.ok.inj resolves, long]
  · rw [← Except.ok.inj resolves, short]

/-- `malformedText` is what the runtime makes of bytes that are no UTF-8. -/
structure PiiEncryptionService where
  cipher : Aead
  encryptionKey : Bytes
  length_key : encryptionKey.length = 32
  malformedText : Bytes → String

def PiiEncryptionService.create (cipher : Aead) (malformedText : Bytes → String) (piiEncryptionKey : String) :
    Except Exception PiiEncryptionService :=
  match resolves : resolveEncryptionKey piiEncryptionKey with
  | .ok encryptionKey => .ok ⟨cipher, encryptionKey, length_of_resolved resolves, malformedText⟩
  | .error error => .error error

def associatedData (aad : Option String) : Bytes := JsText.utf8 (aad.getD "").toList

def isEncrypted (value : String) : Bool := (encryptionPrefix.toList ++ [':']).isPrefixOf value.toList

def base64 (bytes : Bytes) : String := String.ofList (Base64.encode bytes)

def fromBase64 (text : String) : Bytes := Base64.decode text.toList

namespace PiiEncryptionService

variable (service : PiiEncryptionService) (value : String) (aad : Option String)

def toText (bytes : Bytes) : String :=
  match JsText.ofUtf8 bytes with
  | some text => String.ofList text
  | none => service.malformedText bytes

/-- The envelope of a text; `iv` is what `randomBytes` draws. -/
def sealText (iv : Iv) : String :=
  let encrypted :=
    service.cipher.encipher service.encryptionKey iv.val (associatedData aad) (JsText.utf8 value.toList)
  JsText.join ':' [encryptionPrefix, base64 iv.val, base64 encrypted.2, base64 encrypted.1]

def encrypt (iv : Iv) : String :=
  if isEncrypted value then value else service.sealText value aad iv

/-- A part that the split does not reach reads as one that is empty. -/
def decrypt : Except Exception String :=
  if isEncrypted value then
    let parts := JsText.split ':' value
    let version := parts.getD 1 ""
    let ivBase64 := parts.getD 2 ""
    let authTagBase64 := parts.getD 3 ""
    let ciphertextBase64 := parts.getD 4 ""
    if version ≠ "v1" ∨ ivBase64 = "" ∨ authTagBase64 = "" ∨ ciphertextBase64 = "" then
      .error (.internal "Encrypted PII payload is malformed")
    else
      match service.cipher.decipher service.encryptionKey (fromBase64 ivBase64) (associatedData aad)
          (fromBase64 ciphertextBase64, fromBase64 authTagBase64) with
      | .ok plaintext => .ok (service.toText plaintext)
      | .error message => .error (.internal message)
  else .ok value

def encryptNullable (value : Option String) (aad : Option String) (iv : Iv) : Option String :=
  value.map fun value => service.encrypt value aad iv

def decryptNullable (value : Option String) (aad : Option String) : Except Exception (Option String) :=
  value.mapM fun value => service.decrypt value aad

end PiiEncryptionService

@[simp] theorem toList_base64 (bytes : Bytes) : (base64 bytes).toList = Base64.encode bytes := String.toList_ofList

@[simp] theorem fromBase64_base64 (bytes : Bytes) : fromBase64 (base64 bytes) = bytes := by
  rw [fromBase64, toList_base64, Base64.decode_encode]

theorem base64_eq_empty_iff {bytes : Bytes} : base64 bytes = "" ↔ bytes = [] := by
  rw [← String.toList_eq_nil_iff, toList_base64, Base64.encode_eq_nil_iff]

theorem colon_not_mem_base64 (bytes : Bytes) : ':' ∉ (base64 bytes).toList := by
  rw [toList_base64]
  exact Base64.not_mem_encode (by decide) (by decide) bytes

namespace PiiEncryptionService

variable (service : PiiEncryptionService) {value : String}

theorem toText_utf8 (value : String) : service.toText (utf8 value.toList) = value := by
  rw [toText, ofUtf8_utf8]
  exact String.ofList_toList

theorem encrypt_of_plain (plain : isEncrypted value = false) (aad : Option String) (iv : Iv) :
    service.encrypt value aad iv = service.sealText value aad iv := by
  rw [encrypt, plain]
  rfl

theorem encrypt_of_encrypted (encrypted : isEncrypted value = true) (aad : Option String) (iv : Iv) :
    service.encrypt value aad iv = value := by
  rw [encrypt, encrypted]
  rfl

theorem split_sealText (value : String) (aad : Option String) (iv : Iv) :
    split ':' (service.sealText value aad iv) =
      ["enc", "v1", base64 iv.val,
        base64 (service.cipher.encipher service.encryptionKey iv.val (associatedData aad)
          (utf8 value.toList)).2,
        base64 (service.cipher.encipher service.encryptionKey iv.val (associatedData aad)
          (utf8 value.toList)).1] := by
  have regrouped (first second third : String) :
      join ':' [encryptionPrefix, first, second, third] =
        join ':' ["enc", "v1", first, second, third] := by
    simp [join, encryptionPrefix]
  rw [sealText, regrouped]
  apply split_join
  · exact List.cons_ne_nil _ _
  · intro part listed
    simp only [List.mem_cons, List.not_mem_nil, or_false] at listed
    rcases listed with rfl | rfl | rfl | rfl | rfl
    · decide
    · decide
    · exact colon_not_mem_base64 _
    · exact colon_not_mem_base64 _
    · exact colon_not_mem_base64 _

theorem isEncrypted_sealText (value : String) (aad : Option String) (iv : Iv) :
    isEncrypted (service.sealText value aad iv) = true := by
  rw [isEncrypted, List.isPrefixOf_iff_prefix, sealText, join, String.toList_ofList]
  simp [encryptionPrefix]

theorem decrypt_sealText (value : String) (aad reading : Option String) (iv : Iv) :
    service.decrypt (service.sealText value aad iv) reading =
      if value = "" then .error (.internal "Encrypted PII payload is malformed")
      else
        match service.cipher.decipher service.encryptionKey iv.val (associatedData reading)
            (service.cipher.encipher service.encryptionKey iv.val (associatedData aad) (utf8 value.toList)) with
        | .ok plaintext => .ok (service.toText plaintext)
        | .error message => .error (.internal message) := by
  have drawn : base64 iv.val ≠ "" := by
    intro empty
    have short := iv.property
    rw [base64_eq_empty_iff.mp empty] at short
    cases short
  have tagged := base64_eq_empty_iff.not.mpr (service.cipher.tag_ne_nil service.encryptionKey iv.val
    (associatedData aad) (utf8 value.toList))
  have ciphertext : base64 (service.cipher.encipher service.encryptionKey iv.val (associatedData aad)
      (utf8 value.toList)).1 = "" ↔ value = "" := by
    rw [base64_eq_empty_iff, Aead.ciphertext_eq_nil_iff, utf8_eq_nil_iff, String.toList_eq_nil_iff]
  simp only [decrypt, isEncrypted_sealText, if_true, split_sealText, List.getD_cons_succ, List.getD_cons_zero,
    ne_eq, not_true_eq_false, drawn, tagged, ciphertext, false_or, fromBase64_base64]

theorem decrypt_sealText_same (present : value ≠ "") (aad : Option String) (iv : Iv) :
    service.decrypt (service.sealText value aad iv) aad = .ok value := by
  rw [decrypt_sealText, if_neg present, service.cipher.decipher_encipher]
  exact congrArg Except.ok (service.toText_utf8 value)

/-- What encrypting and decrypting one text is to give: the text back, nothing stored in the clear, and no second
layer over an envelope. -/
structure RoundTrips (value : String) (aad : Option String) (iv : Iv) : Prop where
  restores : service.decrypt (service.encrypt value aad iv) aad = .ok value
  conceals : service.encrypt value aad iv ≠ value
  idempotent (again : Option String) (drawn : Iv) :
    service.decrypt (service.encrypt (service.encrypt value aad iv) again drawn) aad =
      service.decrypt (service.encrypt value aad iv) aad

end PiiEncryptionService

theorem PiiEncryptionService.roundTrips_iff (service : PiiEncryptionService) (value : String) (aad : Option String)
    (iv : Iv) : service.RoundTrips value aad iv ↔ value ≠ "" ∧ isEncrypted value = false := by
  constructor
  · intro ⟨restores, conceals, _⟩
    have plain : isEncrypted value = false := by
      by_contra encrypted
      exact conceals (service.encrypt_of_encrypted (by simpa using encrypted) aad iv)
    refine ⟨?_, plain⟩
    intro empty
    rw [encrypt_of_plain service plain, decrypt_sealText, if_pos empty] at restores
    cases restores
  · intro ⟨present, plain⟩
    have envelope := service.encrypt_of_plain plain aad iv
    have marked := service.isEncrypted_sealText value aad iv
    constructor
    · rw [envelope, decrypt_sealText_same service present]
    · intro same
      rw [envelope] at same
      rw [same, plain] at marked
      cases marked
    · intro again drawn
      rw [envelope, encrypt_of_encrypted service marked]

def sampleService : PiiEncryptionService where
  cipher := Aead.transparent
  encryptionKey := List.replicate 32 7
  length_key := rfl
  malformedText _ := "\uFFFD"

def sampleIv : Iv := ⟨List.replicate 12 1, rfl⟩

/-- The empty text is encrypted to an envelope that is refused, and a text with the prefix is stored as it is. -/
theorem empty_and_prefixed_do_not_round_trip :
    sampleService.decrypt (sampleService.encrypt "" (some "students:name") sampleIv) (some "students:name") =
        .error (.internal "Encrypted PII payload is malformed") ∧
      ¬ sampleService.RoundTrips "" (some "students:name") sampleIv ∧
      sampleService.encrypt "enc:v1:note" (some "students:name") sampleIv = "enc:v1:note" ∧
      sampleService.decrypt "enc:v1:note" (some "students:name") =
        .error (.internal "Encrypted PII payload is malformed") ∧
      ¬ sampleService.RoundTrips "enc:v1:note" (some "students:name") sampleIv := by
  have refused : sampleService.decrypt (sampleService.encrypt "" (some "students:name") sampleIv)
      (some "students:name") = .error (.internal "Encrypted PII payload is malformed") := by decide +kernel
  have stored : sampleService.encrypt "enc:v1:note" (some "students:name") sampleIv = "enc:v1:note" := by
    decide +kernel
  refine ⟨refused, ?_, stored, by decide +kernel, ?_⟩
  · intro trips
    have restored := trips.restores
    rw [refused] at restored
    cases restored
  · intro trips
    exact trips.conceals stored

end ShuleHub.Security
