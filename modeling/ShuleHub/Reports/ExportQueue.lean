import ShuleHub.Lib.JsSplit
import ShuleHub.Lib.Runs
import ShuleHub.Reports.ExportWorker

/-! The queue of the report exports: the id of a job, and whose job a request is answered with. -/

namespace ShuleHub.Reports

open Runs JsText
open Uploads (TimeText)

structure ReportExportJobInput where
  tenantId : String
  requestedByUserId : Option String
  requestId : String
  module : String
  reportId : String
  format : Option String
  filters : Option (List (String × Json))
  estimatedRows : Option JsNumber

structure ReportExportJobResponse where
  jobId : String
  module : String
  reportId : String
  format : ReportExportFormat
  queuedAt : TimeText

def normalizeReportExportFormat (format : Option String) : Option ReportExportFormat :=
  let normalizedFormat := JsText.toLowerCase (JsText.trim (format.getD "csv"))
  [.csv, .xlsx, .pdf].find? fun known => known.text = normalizedFormat

def ReportExportJobInput.payload (input : ReportExportJobInput) (format : ReportExportFormat) (queuedAt : TimeText) :
    ReportExportJobPayload where
  tenantId := input.tenantId
  requestedByUserId := input.requestedByUserId
  requestId := input.requestId
  module := input.module
  reportId := input.reportId
  format
  filters := input.filters
  estimatedRows := input.estimatedRows
  enqueuedAt := queuedAt

def jobIdSegments (payload : ReportExportJobPayload) : List String :=
  ["report-exports", payload.tenantId, payload.module, payload.reportId, payload.requestId].map
    (sanitizeSegment "unknown")

def buildReportExportJobId (payload : ReportExportJobPayload) : String := JsText.join ':' (jobIdSegments payload)

abbrev ExportQueue := String → Option ReportExportJobPayload

def ExportQueue.add (queue : ExportQueue) (jobId : String) (payload : ReportExportJobPayload) : ExportQueue :=
  if (queue jobId).isSome then queue else Function.update queue jobId (some payload)

def acceptedPayload (input : ReportExportJobInput) (queuedAt : TimeText) : Except Exception ReportExportJobPayload :=
  match normalizeReportExportFormat input.format with
  | some format =>
    if validateReportExportJobPayload (input.payload format queuedAt) = [] then .ok (input.payload format queuedAt)
    else .error (.badRequest "Report export job is invalid.")
  | none => .error (.badRequest "Report export job is invalid.")

def responseTo (payload : ReportExportJobPayload) (queuedAt : TimeText) : ReportExportJobResponse :=
  ⟨buildReportExportJobId payload, payload.module, payload.reportId, payload.format, queuedAt⟩

def enqueueReportExport (input : ReportExportJobInput) (queuedAt : TimeText) (queue : ExportQueue) :
    Except Exception (ReportExportJobResponse × ExportQueue) :=
  (acceptedPayload input queuedAt).map fun payload =>
    (responseTo payload queuedAt, queue.add (buildReportExportJobId payload) payload)

structure SameRequest (first second : ReportExportJobPayload) : Prop where
  tenantId : JsText.trim first.tenantId = JsText.trim second.tenantId
  module : JsText.trim first.module = JsText.trim second.module
  reportId : JsText.trim first.reportId = JsText.trim second.reportId
  requestId : JsText.trim first.requestId = JsText.trim second.requestId
  format : first.format = second.format
  filters : first.filters = second.filters

theorem SameRequest.rfl {payload : ReportExportJobPayload} : SameRequest payload payload :=
  ⟨Eq.refl _, Eq.refl _, Eq.refl _, Eq.refl _, Eq.refl _, Eq.refl _⟩

section Ids

variable {first second payload : ReportExportJobPayload}

theorem mem_replaceRuns {keeps : Char → Bool} {replacement c : Char} {inRun : Bool} {chars : List Char}
    (member : c ∈ replaceRuns keeps replacement inRun chars) : keeps c = true ∨ c = replacement := by
  induction chars generalizing inRun with
  | nil => cases member
  | cons d rest ih =>
    rw [replaceRuns] at member
    split at member
    · next kept =>
      rcases List.mem_cons.mp member with rfl | later
      · exact .inl kept
      · exact ih later
    · split at member
      · exact ih member
      · rcases List.mem_cons.mp member with rfl | later
        · exact .inr rfl
        · exact ih later

theorem colon_not_mem_sanitizeSegment {fallback : String} (clean : ':' ∉ fallback.toList) (value : String) :
    ':' ∉ (sanitizeSegment fallback value).toList := by
  rw [sanitizeSegment]
  split
  · exact clean
  · rw [String.toList_ofList, List.mem_reverse]
    intro member
    have within := (List.dropWhile_sublist _).subset (List.mem_reverse.mp ((List.dropWhile_sublist _).subset member))
    rcases mem_replaceRuns within with kept | hyphen
    · exact absurd kept (by decide)
    · exact absurd hyphen (by decide)

theorem buildReportExportJobId_eq_iff :
    buildReportExportJobId first = buildReportExportJobId second ↔ jobIdSegments first = jobIdSegments second := by
  have split (payload : ReportExportJobPayload) :
      split ':' (buildReportExportJobId payload) = jobIdSegments payload := by
    have present : jobIdSegments payload ≠ [] := List.cons_ne_nil _ _
    refine split_join present fun part member => ?_
    obtain ⟨value, -, rfl⟩ := List.mem_map.mp member
    exact colon_not_mem_sanitizeSegment (by decide) value
  constructor
  · intro same
    rw [← split first, same, split second]
  · intro same
    rw [buildReportExportJobId, same, buildReportExportJobId]

end Ids

inductive QueueCall where
  | enqueueReportExport (input : ReportExportJobInput) (queuedAt : TimeText)
  /-- The queue lets go of a job. -/
  | remove (jobId : String)

def stepQueue (queue : ExportQueue) : QueueCall → ExportQueue
  | .enqueueReportExport input queuedAt =>
    match enqueueReportExport input queuedAt queue with
    | .ok (_, later) => later
    | .error _ => queue
  | .remove jobId => Function.update queue jobId none

def AnsweredWithOwn (queue : ExportQueue) : QueueCall → Prop
  | .enqueueReportExport input queuedAt => ∀ payload response later, acceptedPayload input queuedAt = .ok payload →
      enqueueReportExport input queuedAt queue = .ok (response, later) →
      ∃ job, later response.jobId = some job ∧ SameRequest job payload
  | .remove _ => True

def ToldApart (queue : ExportQueue) : QueueCall → Prop
  | .enqueueReportExport input queuedAt => ∀ payload, acceptedPayload input queuedAt = .ok payload →
      ∀ jobId, ∀ job ∈ queue jobId, jobIdSegments job = jobIdSegments payload → SameRequest job payload
  | .remove _ => True

def Filed (queue : ExportQueue) : Prop := ∀ jobId, ∀ job ∈ queue jobId, buildReportExportJobId job = jobId

section Runs

variable {queue : ExportQueue}

theorem filed_add (filed : Filed queue) (payload : ReportExportJobPayload) :
    Filed (queue.add (buildReportExportJobId payload) payload) := by
  intro jobId job member
  rw [ExportQueue.add] at member
  split at member
  · exact filed jobId job member
  · by_cases same : jobId = buildReportExportJobId payload
    · subst same
      rw [Function.update_self] at member
      rw [Option.mem_some.mp member]
    · rw [Function.update_of_ne same] at member
      exact filed jobId job member

theorem enqueueReportExport_ok {input : ReportExportJobInput} {queuedAt : TimeText} {payload : ReportExportJobPayload}
    {response : ReportExportJobResponse} {later : ExportQueue}
    (accepted : acceptedPayload input queuedAt = .ok payload)
    (ran : enqueueReportExport input queuedAt queue = .ok (response, later)) :
    response.jobId = buildReportExportJobId payload ∧ later = queue.add (buildReportExportJobId payload) payload := by
  rw [enqueueReportExport, accepted, Except.map] at ran
  obtain ⟨answer, stored⟩ := Prod.mk.inj (Except.ok.inj ran)
  exact ⟨answer ▸ rfl, stored.symm⟩

theorem filed_step (filed : Filed queue) (call : QueueCall) : Filed (stepQueue queue call) := by
  cases call with
  | enqueueReportExport input queuedAt =>
    rw [stepQueue]
    cases accepted : acceptedPayload input queuedAt with
    | error error =>
      rw [enqueueReportExport, accepted, Except.map]
      exact filed
    | ok payload =>
      rw [enqueueReportExport, accepted, Except.map]
      exact filed_add filed payload
  | remove jobId =>
    intro other job member
    rw [stepQueue] at member
    by_cases same : other = jobId
    · rw [same, Function.update_self] at member
      cases member
    · rw [Function.update_of_ne same] at member
      exact filed other job member

theorem add_answers (queue : ExportQueue) (jobId : String) (payload : ReportExportJobPayload) :
    (∃ job, queue.add jobId payload jobId = some job ∧ SameRequest job payload) ↔
      ∀ job ∈ queue jobId, SameRequest job payload := by
  rw [ExportQueue.add]
  cases kept : queue jobId with
  | none => simp [SameRequest.rfl]
  | some job => simp [kept]

theorem answeredWithOwn_iff (filed : Filed queue) (call : QueueCall) :
    AnsweredWithOwn queue call ↔ ToldApart queue call := by
  cases call with
  | remove => exact Iff.rfl
  | enqueueReportExport input queuedAt =>
    constructor
    · intro answered payload accepted jobId job kept segments
      have own : jobId = buildReportExportJobId payload :=
        (filed jobId job kept).symm.trans (buildReportExportJobId_eq_iff.mpr segments)
      have ran := congrArg (Except.map fun payload => (responseTo payload queuedAt,
        queue.add (buildReportExportJobId payload) payload)) accepted
      rw [own] at kept
      exact (add_answers queue _ payload).mp (answered payload _ _ accepted ran) job kept
    · intro apart payload response later accepted ran
      obtain ⟨answer, stored⟩ := enqueueReportExport_ok accepted ran
      rw [answer, stored]
      apply (add_answers queue _ payload).mpr
      intro job kept
      exact apart payload accepted _ job kept (buildReportExportJobId_eq_iff.mp (filed _ job kept))

end Runs

/-- Two requests have one id exactly if what is left of their segments is the same; the requests of a run are answered
with their own jobs exactly if none finds the job of another one with its segments. -/
theorem exports_are_told_apart_iff (first second : ReportExportJobPayload) (calls : List QueueCall) :
    ((¬SameRequest first second → buildReportExportJobId first ≠ buildReportExportJobId second) ↔
      (jobIdSegments first = jobIdSegments second → SameRequest first second)) ∧
    (Meets stepQueue AnsweredWithOwn (fun _ => none) calls ↔ Meets stepQueue ToldApart (fun _ => none) calls) := by
  constructor
  · rw [ne_eq, buildReportExportJobId_eq_iff, not_imp_not]
  · apply meets_iff_meets (fun queue call filed => answeredWithOwn_iff filed call)
      (fun queue call filed _ => filed_step filed call)
    intro jobId job kept
    cases kept

def feesExport (format : String) : ReportExportJobInput :=
  ⟨"lakeside", none, "request", "fees", "arrears", some format, none, none⟩

def feesPayload (format : ReportExportFormat) : ReportExportJobPayload :=
  (feesExport format.text).payload format ⟨"now", none⟩

theorem feesExport_accepted (format : ReportExportFormat) :
    acceptedPayload (feesExport format.text) ⟨"now", none⟩ = .ok (feesPayload format) := by
  have known : normalizeReportExportFormat (some format.text) = some format := by
    cases format <;> decide +kernel
  have valid : validateReportExportJobPayload (feesPayload format) = [] := by
    cases format <;> decide +kernel
  rw [acceptedPayload, feesExport, known]
  exact if_pos valid

/-- The format has no part in the id. -/
theorem pdf_is_answered_with_csv : ¬Meets stepQueue AnsweredWithOwn (fun _ => none)
    [.enqueueReportExport (feesExport "csv") ⟨"now", none⟩, .enqueueReportExport (feesExport "pdf") ⟨"now", none⟩] := by
  intro answered
  have filed : Filed (fun _ => none) := fun _ _ kept => by cases kept
  have apart := (answeredWithOwn_iff (filed_step filed _) _).mp answered.2.1 _ (feesExport_accepted .pdf)
  have kept : feesPayload .csv ∈ stepQueue (fun _ => none) (.enqueueReportExport (feesExport "csv") ⟨"now", none⟩)
      (buildReportExportJobId (feesPayload .csv)) := by
    have accepted := feesExport_accepted .csv
    rw [ReportExportFormat.text] at accepted
    simp [stepQueue, enqueueReportExport, accepted, Except.map, ExportQueue.add]
  cases (apart _ _ kept rfl).format

end ShuleHub.Reports
