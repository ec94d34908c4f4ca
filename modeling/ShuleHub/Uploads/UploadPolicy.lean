import ShuleHub.MalwareScan.Client

/-! Which uploads are accepted, and whether their bytes are what the file name and the MIME type declare. -/

namespace ShuleHub.Uploads

open MalwareScan Outcome

variable (buffer : Bytes)

structure UploadFileMetadata where
  originalname : String
  mimetype : String
  size : Int
  buffer : Option Bytes
  providerMalwareScan : Option ProviderMalwareScanResult

def maxUploadFileBytes : Int := 10 * 1024 * 1024

def maxUploadFilenameLength : Nat := 180

def allowedMimeTypes : List String :=
  ["application/json", "application/msword", "application/pdf", "application/vnd.ms-excel",
    "application/vnd.openxmlformats-officedocument.spreadsheetml.sheet",
    "application/vnd.openxmlformats-officedocument.wordprocessingml.document", "image/jpeg", "image/png", "image/webp",
    "text/csv", "text/plain"]

def allowedExtensions : List String :=
  [".csv", ".doc", ".docx", ".jpeg", ".jpg", ".json", ".log", ".pdf", ".png", ".txt", ".webp", ".xls", ".xlsx"]

def isUnsafeFilenameCharacter (c : Char) : Bool :=
  c.toNat ≤ 0x1f || c.toNat = 0x7f || c ∈ ['<', '>', ':', Char.ofNat 0x22, '/', '\\', '|', '?', '*']

/-- The names that begin with a drive letter are among those with a colon. -/
def assertSafeOriginalName (originalname : String) : Except Exception Unit := do
  let filename := JsText.trim originalname
  failIf (filename = "") (.badRequest "Uploaded file must have a filename")
  failIf (maxUploadFilenameLength < (Json.utf16Units filename).length ∨ filename = "." ∨ filename = ".." ∨
      ['.', '.'].isPrefixOf filename.toList = true ∨
      filename.toList.head?.any Char.isAlpha = true ∧ filename.toList.tail.head? = some ':' ∨
      filename.toList.any isUnsafeFilenameCharacter = true)
    (.badRequest "Uploaded filename is not safe")

def getLowerExtension (filename : String) : String :=
  if '.' ∈ filename.toList then
    JsText.toLowerCase (String.ofList ('.' :: (filename.toList.splitOn '.').getLast?.getD []))
  else ""

/-- `buffer.toString('ascii')`, which drops the highest bit of every byte. -/
def asciiText (bytes : Bytes) : String := String.ofList (bytes.map fun byte => Char.ofNat (byte.toNat % 128))

def isPdf : Bool := asciiText (buffer.take 5) = "%PDF-"

def isPng : Bool := buffer.take 8 = [0x89, 0x50, 0x4e, 0x47, 0x0d, 0x0a, 0x1a, 0x0a]

def isJpeg : Bool := [0xff, 0xd8, 0xff].isPrefixOf buffer

def isWebp : Bool :=
  12 ≤ buffer.length && asciiText (buffer.take 4) = "RIFF" && asciiText ((buffer.take 12).drop 8) = "WEBP"

def isZip : Bool := 4 ≤ buffer.length && [0x50, 0x4b].isPrefixOf buffer

def isOle : Bool := [0xd0, 0xcf, 0x11, 0xe0].isPrefixOf buffer

def isText : Bool := 0x00 ∉ buffer

def isZipBackedDocument (extension mimeType : String) : Prop :=
  extension = ".docx" ∨ extension = ".xlsx" ∨
    mimeType = "application/vnd.openxmlformats-officedocument.wordprocessingml.document" ∨
    mimeType = "application/vnd.openxmlformats-officedocument.spreadsheetml.sheet"
deriving Decidable

def isTextBackedDocument (extension mimeType : String) : Prop :=
  extension = ".csv" ∨ extension = ".json" ∨ extension = ".log" ∨ extension = ".txt" ∨
    mimeType = "application/json" ∨ mimeType = "text/csv" ∨ mimeType = "text/plain"
deriving Decidable

def matchesDeclaredContent (extension mimeType : String) (buffer : Bytes) : Bool :=
  if buffer = [] then false
  else if mimeType = "application/pdf" ∨ extension = ".pdf" then isPdf buffer
  else if mimeType = "image/png" ∨ extension = ".png" then isPng buffer
  else if mimeType = "image/jpeg" ∨ extension = ".jpg" ∨ extension = ".jpeg" then isJpeg buffer
  else if mimeType = "image/webp" ∨ extension = ".webp" then isWebp buffer
  else if isZipBackedDocument extension mimeType then isZip buffer
  else if extension = ".doc" ∨ mimeType = "application/msword" then isOle buffer
  else if isTextBackedDocument extension mimeType then isText buffer
  else true

def UploadFileMetadata.extension (file : UploadFileMetadata) : String := getLowerExtension file.originalname

def UploadFileMetadata.mimeType (file : UploadFileMetadata) : String := JsText.toLowerCase (JsText.trim file.mimetype)

section Service

variable (parsesDate : String → Bool)

def assertUploadedFileIsMalwareFree (file : UploadFileMetadata) : Except Exception Unit :=
  match file.buffer with
  | none => .ok ()
  | some [] => .ok ()
  | some buffer => do
    failIf (includesBytes buffer eicarTestSignature = true) (.badRequest "Uploaded file failed malware screening")
    match file.providerMalwareScan with
    | none => return ()
    | some scan => assertProviderMalwareScanPassed parsesDate scan

def validateUploadedFile (file : UploadFileMetadata) : Except Exception Unit := do
  assertSafeOriginalName file.originalname
  failIf (maxUploadFileBytes < file.size) (.badRequest "File exceeds the 10 MB upload limit")
  failIf (file.mimeType ∉ allowedMimeTypes ∨ file.extension ∉ allowedExtensions) (.badRequest "Unsupported file type")
  failIf (∃ buffer ∈ file.buffer, matchesDeclaredContent file.extension file.mimeType buffer = false)
    (.badRequest "File content does not match declared type")
  assertUploadedFileIsMalwareFree parsesDate file

end Service

inductive ContentRule where
  | pdf
  | png
  | jpeg
  | webp
  | zip
  | ole
  | text
deriving DecidableEq

namespace ContentRule

def admits : ContentRule → Bytes → Bool
  | .pdf => isPdf
  | .png => isPng
  | .jpeg => isJpeg
  | .webp => isWebp
  | .zip => isZip
  | .ole => isOle
  | .text => isText

def ofMimeType (mimeType : String) : Option ContentRule :=
  if mimeType = "application/pdf" then some .pdf
  else if mimeType = "image/png" then some .png
  else if mimeType = "image/jpeg" then some .jpeg
  else if mimeType = "image/webp" then some .webp
  else if mimeType ∈ ["application/vnd.openxmlformats-officedocument.spreadsheetml.sheet",
    "application/vnd.openxmlformats-officedocument.wordprocessingml.document"] then some .zip
  else if mimeType ∈ ["application/msword", "application/vnd.ms-excel"] then some .ole
  else if mimeType ∈ ["application/json", "text/csv", "text/plain"] then some .text
  else none

def ofExtension (extension : String) : Option ContentRule :=
  if extension = ".pdf" then some .pdf
  else if extension = ".png" then some .png
  else if extension ∈ [".jpg", ".jpeg"] then some .jpeg
  else if extension = ".webp" then some .webp
  else if extension ∈ [".docx", ".xlsx"] then some .zip
  else if extension ∈ [".doc", ".xls"] then some .ole
  else if extension ∈ [".csv", ".json", ".log", ".txt"] then some .text
  else none

def deciding (extension mimeType : String) : Option ContentRule :=
  if mimeType = "application/pdf" ∨ extension = ".pdf" then some .pdf
  else if mimeType = "image/png" ∨ extension = ".png" then some .png
  else if mimeType = "image/jpeg" ∨ extension = ".jpg" ∨ extension = ".jpeg" then some .jpeg
  else if mimeType = "image/webp" ∨ extension = ".webp" then some .webp
  else if isZipBackedDocument extension mimeType then some .zip
  else if extension = ".doc" ∨ mimeType = "application/msword" then some .ole
  else if isTextBackedDocument extension mimeType then some .text
  else none

def sample : ContentRule → Bytes
  | .pdf => [0x25, 0x50, 0x44, 0x46, 0x2d, 0x00]
  | .png => [0x89, 0x50, 0x4e, 0x47, 0x0d, 0x0a, 0x1a, 0x0a, 0x00]
  | .jpeg => [0xff, 0xd8, 0xff, 0x00]
  | .webp => [0x52, 0x49, 0x46, 0x46, 0x00, 0x00, 0x00, 0x00, 0x57, 0x45, 0x42, 0x50]
  | .zip => [0x50, 0x4b, 0x03, 0x04, 0x00]
  | .ole => [0xd0, 0xcf, 0x11, 0xe0, 0x00]
  | .text => [0x61]

end ContentRule

def MatchesBoth (extension mimeType : String) (buffer : Bytes) : Prop :=
  (∀ rule ∈ ContentRule.ofMimeType mimeType, rule.admits buffer = true) ∧
    ∀ rule ∈ ContentRule.ofExtension extension, rule.admits buffer = true

/-- The demands are the same, and the two are not the pair for which no branch is there. -/
def DemandsOne (extension mimeType : String) : Prop :=
  ContentRule.ofMimeType mimeType = ContentRule.ofExtension extension ∧
    ¬ (extension = ".xls" ∧ mimeType = "application/vnd.ms-excel")
deriving Decidable

def IsAllowed (originalname mimetype : String) : Prop :=
  assertSafeOriginalName originalname = .ok () ∧
    JsText.toLowerCase (JsText.trim mimetype) ∈ allowedMimeTypes ∧ getLowerExtension originalname ∈ allowedExtensions

section Content

variable {extension mimeType : String} {buffer : Bytes}

theorem admits_sample (rule other : ContentRule) : rule.admits other.sample = true ↔ rule = other := by
  cases rule <;> cases other <;> decide +kernel

theorem sample_present (rule : ContentRule) : rule.sample ≠ [] := by
  cases rule <;> exact List.cons_ne_nil _ _

theorem sample_screened (rule : ContentRule) : includesBytes rule.sample eicarTestSignature = false := by
  cases rule <;> decide +kernel

theorem matchesDeclaredContent_eq (present : buffer ≠ []) :
    matchesDeclaredContent extension mimeType buffer =
      (ContentRule.deciding extension mimeType).all fun rule => rule.admits buffer := by
  rw [matchesDeclaredContent, if_neg present, ContentRule.deciding]
  split_ifs <;> rfl

theorem rules_of_allowed : ∀ extension ∈ allowedExtensions, ∀ mimeType ∈ allowedMimeTypes,
    ∃ byType byExtension, ContentRule.ofMimeType mimeType = some byType ∧
      ContentRule.ofExtension extension = some byExtension := by
  have types : ∀ mimeType ∈ allowedMimeTypes, (ContentRule.ofMimeType mimeType).isSome = true := by decide +kernel
  have extensions : ∀ extension ∈ allowedExtensions, (ContentRule.ofExtension extension).isSome = true := by
    decide +kernel
  intro extension ending mimeType typed
  obtain ⟨byType, ruled⟩ := Option.isSome_iff_exists.mp (types mimeType typed)
  obtain ⟨byExtension, ruledToo⟩ := Option.isSome_iff_exists.mp (extensions extension ending)
  exact ⟨byType, byExtension, ruled, ruledToo⟩

theorem deciding_of_allowed : ∀ extension ∈ allowedExtensions, ∀ mimeType ∈ allowedMimeTypes,
    if extension = ".xls" ∧ mimeType = "application/vnd.ms-excel" then
      ContentRule.deciding extension mimeType = none
    else
      ContentRule.deciding extension mimeType ≠ none ∧
        (ContentRule.deciding extension mimeType = ContentRule.ofMimeType mimeType ∨
          ContentRule.deciding extension mimeType = ContentRule.ofExtension extension) := by
  decide +kernel

theorem demandsOne_iff (ending : extension ∈ allowedExtensions) (typed : mimeType ∈ allowedMimeTypes) :
    DemandsOne extension mimeType ↔
      ∀ buffer, buffer ≠ [] → includesBytes buffer eicarTestSignature = false →
        matchesDeclaredContent extension mimeType buffer = true → MatchesBoth extension mimeType buffer := by
  obtain ⟨byType, byExtension, ruled, ruledToo⟩ := rules_of_allowed extension ending mimeType typed
  have decided := deciding_of_allowed extension ending mimeType typed
  unfold DemandsOne MatchesBoth
  rw [ruled, ruledToo, Option.some.injEq]
  simp only [Option.mem_some_iff, forall_eq']
  constructor
  · rintro ⟨rfl, ruledOut⟩ buffer present - matched
    rw [if_neg ruledOut, ruled, ruledToo, or_self] at decided
    rw [matchesDeclaredContent_eq present, decided.2] at matched
    exact ⟨matched, matched⟩
  · intro agrees
    have passes (rule : ContentRule) (lets : (ContentRule.deciding extension mimeType).all
        (fun deciding => deciding.admits rule.sample) = true) : byType = rule ∧ byExtension = rule := by
      have both := agrees rule.sample (sample_present rule) (sample_screened rule)
        ((matchesDeclaredContent_eq (sample_present rule)).trans lets)
      exact ⟨(admits_sample _ _).mp both.1, (admits_sample _ _).mp both.2⟩
    split at decided
    · -- Without a branch the bytes of any two kinds are let through.
      have first := passes .text (by rw [decided]; rfl)
      have second := passes .zip (by rw [decided]; rfl)
      exact absurd (first.1.symm.trans second.1) (by decide)
    · next ruledOut =>
      obtain ⟨rule, deciding⟩ := Option.ne_none_iff_exists'.mp decided.1
      have same := passes rule (by rw [deciding]; exact (admits_sample rule rule).mpr rfl)
      exact ⟨same.1.trans same.2.symm, ruledOut⟩

end Content

section Uploads

variable {parsesDate : String → Bool} {file : UploadFileMetadata}

theorem validateUploadedFile_ok : validateUploadedFile parsesDate file = .ok () ↔
    IsAllowed file.originalname file.mimetype ∧ file.size ≤ maxUploadFileBytes ∧
      (∀ buffer ∈ file.buffer, matchesDeclaredContent file.extension file.mimeType buffer = true) ∧
      assertUploadedFileIsMalwareFree parsesDate file = .ok () := by
  simp only [validateUploadedFile, bind_ok, failIf_ok, not_lt, not_or, not_not, not_exists, not_and,
    Bool.not_eq_false]
  constructor
  · rintro ⟨_, safe, _, small, _, allowed, _, matched, free⟩
    exact ⟨⟨safe, allowed⟩, small, matched, free⟩
  · rintro ⟨⟨safe, allowed⟩, small, matched, free⟩
    exact ⟨(), safe, (), small, (), allowed, (), matched, free⟩

def plainUpload (originalname mimetype : String) (buffer : Bytes) : UploadFileMetadata where
  originalname
  mimetype
  size := 0
  buffer := some buffer
  providerMalwareScan := none

theorem plainUpload_screened {originalname mimetype : String} {buffer : Bytes}
    (screened : includesBytes buffer eicarTestSignature = false) :
    assertUploadedFileIsMalwareFree parsesDate (plainUpload originalname mimetype buffer) = .ok () := by
  cases buffer with
  | nil => rfl
  | cons byte rest =>
    simp only [assertUploadedFileIsMalwareFree, plainUpload, screened]
    rfl

theorem screened_of_malwareFree {buffer : Bytes} (holds : file.buffer = some buffer) (present : buffer ≠ [])
    (free : assertUploadedFileIsMalwareFree parsesDate file = .ok ()) :
    includesBytes buffer eicarTestSignature = false := by
  cases buffer with
  | nil => exact absurd rfl present
  | cons byte rest =>
    simp only [assertUploadedFileIsMalwareFree, holds, bind_ok, failIf_ok, exists_const,
      Bool.not_eq_true] at free
    exact free.1

end Uploads

/-- Whatever their bytes, the files of a name and a MIME type are accepted only with contents that both admit, exactly
when the two demand the same, or cannot be accepted at all. -/
theorem accepted_contents_match_iff (parsesDate : String → Bool) (originalname mimetype : String) :
    (∀ file : UploadFileMetadata, file.originalname = originalname → file.mimetype = mimetype →
        ∀ buffer ∈ file.buffer, buffer ≠ [] → validateUploadedFile parsesDate file = .ok () →
          MatchesBoth file.extension file.mimeType buffer) ↔
      (IsAllowed originalname mimetype →
        DemandsOne (getLowerExtension originalname) (JsText.toLowerCase (JsText.trim mimetype))) := by
  constructor
  · intro agrees allowed
    apply (demandsOne_iff allowed.2.2 allowed.2.1).mpr
    intro buffer present screened matched
    apply agrees (plainUpload originalname mimetype buffer) rfl rfl buffer rfl present
    apply validateUploadedFile_ok.mpr
    refine ⟨allowed, (by decide : (0 : Int) ≤ maxUploadFileBytes), ?_, plainUpload_screened screened⟩
    intro other held
    rw [← Option.some.inj held]
    exact matched
  · rintro demands file rfl rfl buffer held present accepted
    obtain ⟨allowed, -, matched, free⟩ := validateUploadedFile_ok.mp accepted
    have screened := screened_of_malwareFree held present free
    exact (demandsOne_iff allowed.2.2 allowed.2.1).mp (demands allowed) buffer present screened (matched buffer held)

/-- A PDF document is accepted as a picture. -/
theorem pdf_is_accepted_as_png :
    let file := plainUpload "report.pdf" "image/png" ContentRule.pdf.sample
    validateUploadedFile (fun _ => true) file = .ok () ∧
      ¬ MatchesBoth file.extension file.mimeType ContentRule.pdf.sample := by
  constructor
  · decide +kernel
  · intro both
    exact absurd (both.1 .png (by decide +kernel)) (by decide +kernel)

end ShuleHub.Uploads
