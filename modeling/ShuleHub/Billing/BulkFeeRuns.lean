import ShuleHub.Billing.BulkFees

/-! What the requests of `bulkGenerateFeeInvoices` leave and report, over every interleaving. -/

namespace ShuleHub.Billing

open Transaction Locking Runs BulkFees Invoicing Outcome

section Students

theorem normalizeBulkFeeStudents_ok {seen : List String} {targets : List BulkFeeInvoiceStudentDto}
    {students : List NormalizedBulkFeeStudent}
    (normalized : normalizeBulkFeeStudents seen targets = .ok students) :
    students = targets.map normalizeStudent ∧ (students.map (·.studentId)).Nodup ∧
      ∀ student ∈ students, student.studentId ∉ seen ∧ readString (some student.studentId) = some student.studentId := by
  induction targets generalizing seen students with
  | nil =>
    simp only [normalizeBulkFeeStudents, pure_ok] at normalized
    subst normalized
    simp
  | cons target targets ih =>
    simp only [normalizeBulkFeeStudents, bind_ok, failIf_ok, pure_ok] at normalized
    obtain ⟨_, named, _, unseen, rest, later, rfl⟩ := normalized
    obtain ⟨rfl, distinct, each⟩ := ih later
    have readable : readString (some (normalizeStudent target).studentId) = some (normalizeStudent target).studentId := by
      have present : (normalizeStudent target).studentId ≠ "" := fun blank => named (.inl blank)
      simp only [normalizeStudent] at present ⊢
      simp [readString, JsText.trim_trim, present]
    refine ⟨rfl, List.nodup_cons.mpr ⟨fun member => ?_, distinct⟩, List.forall_mem_cons.mpr ⟨⟨unseen, readable⟩, ?_⟩⟩
    · obtain ⟨student, present, same⟩ := List.mem_map.mp member
      exact (each student present).1 (same ▸ List.mem_cons_self)
    · exact fun student member =>
        ⟨fun known => (each student member).1 (List.mem_cons_of_mem _ known), (each student member).2⟩

end Students

section Active

variable {feeStructureId studentId : String} {active : JsMap String InvoiceEntity}

theorem noteActive_none {invoice : InvoiceEntity} (missing : (noteActive feeStructureId active invoice).get? studentId = none) :
    active.get? studentId = none ∧
      (isActiveFor feeStructureId invoice = true → invoice.studentId ≠ some studentId) := by
  unfold noteActive at missing
  split at missing
  · split at missing
    · next found own =>
      split at missing
      · next known =>
        refine ⟨missing, fun _ same => ?_⟩
        rw [own] at same
        cases same
        simp [missing] at known
      · rw [JsMap.get?_set] at missing
        split at missing
        · cases missing
        · next differs =>
          refine ⟨missing, fun _ same => differs ?_⟩
          exact Option.some.inj (own.symm.trans same)
    · next unnamed =>
      exact ⟨missing, fun _ same => by simp [unnamed] at same⟩
  · next inactive => exact ⟨missing, fun holds => absurd holds inactive⟩

theorem activeInvoiceByStudent_none {invoices : List InvoiceEntity}
    (missing : (activeInvoiceByStudent feeStructureId invoices).get? studentId = none) :
    ∀ invoice ∈ invoices, isActiveFor feeStructureId invoice = true → invoice.studentId ≠ some studentId := by
  suffices general : ∀ active : JsMap String InvoiceEntity,
      (invoices.foldl (noteActive feeStructureId) active).get? studentId = none → active.get? studentId = none ∧
        ∀ invoice ∈ invoices, isActiveFor feeStructureId invoice = true → invoice.studentId ≠ some studentId from
    (general [] missing).2
  clear missing
  induction invoices with
  | nil => exact fun _ missing => ⟨missing, by simp⟩
  | cons invoice invoices ih =>
    intro active missing
    obtain ⟨noted, later⟩ := ih _ missing
    obtain ⟨before, own⟩ := noteActive_none noted
    exact ⟨before, List.forall_mem_cons.mpr ⟨own, later⟩⟩

end Active

section Generated

variable {position : Nat} {invoice : InvoiceEntity}

structure IssuedFor (feeStructureId studentId : String) (invoice : InvoiceEntity) : Prop where
  student : invoice.studentId = some studentId
  active : isActiveFor feeStructureId invoice = true

section Metadata

variable (call : BulkCall) (feeStructure : FeeStructureEntity) (student : NormalizedBulkFeeStudent)

theorem feeMetadata_studentId : (feeMetadata call feeStructure student).text "student_id" = some student.studentId := by
  unfold feeMetadata Metadata.merge Metadata.text
  rw [JsMap.get?_foldl_set]
  rfl

theorem feeMetadata_feeStructureId :
    (feeMetadata call feeStructure student).text "fee_structure_id" = some feeStructure.id := by
  unfold feeMetadata Metadata.merge Metadata.text
  rw [JsMap.get?_foldl_set]
  rfl

theorem feeMetadata_billingReason :
    (feeMetadata call feeStructure student).text "billing_reason" = some bulkGenerationReason := by
  unfold feeMetadata Metadata.merge Metadata.text
  rw [JsMap.get?_foldl_set]
  rfl

theorem feeInvoiceInput_metadata (subscription : SubscriptionEntity) (dueAt : Int) (position : Nat) :
    (feeInvoiceInput call subscription feeStructure dueAt position student).metadata =
      feeMetadata call feeStructure student := by
  simp only [feeInvoiceInput]

end Metadata

variable {call : BulkCall} {subscription : SubscriptionEntity} {feeStructure : FeeStructureEntity} {dueAt : Int}
  {db after : InvoicingDb}

theorem generateInvoice_ok {student : NormalizedBulkFeeStudent}
    (readable : readString (some student.studentId) = some student.studentId)
    (generated : (generateInvoice call subscription feeStructure dueAt position student).run db = .ok (invoice, after)) :
    IssuedFor feeStructure.id student.studentId invoice ∧
      invoice.metadata.text "billing_reason" = some bulkGenerationReason ∧ BillsIssued db after [invoice] := by
  simp only [generateInvoice, run_bind_ok, run_pure_ok] at generated
  obtain ⟨_, middle, inserted, _, _, marked, rfl, rfl⟩ := generated
  obtain ⟨⟨totalPositive, rfl⟩, issued⟩ := issued_ok inserted marked
  refine ⟨⟨?_, ?_⟩, ?_, issued⟩
  · rw [InvoiceEntity.studentId, readStringMetadata, CreateInvoiceInput.invoice_metadata, feeInvoiceInput_metadata,
      feeMetadata_studentId, readable]
  · have named : readStringMetadata (feeMetadata call feeStructure student) "fee_structure_id" =
        some feeStructure.id := by
      rw [readStringMetadata, feeMetadata_feeStructureId, feeStructure.readableId]
    simp [isActiveFor, feeInvoiceInput_metadata, named]
  · rw [CreateInvoiceInput.invoice_metadata, feeInvoiceInput_metadata, feeMetadata_billingReason]

theorem issuedFor_feeStructure {left right student other : String}
    (first : IssuedFor left student invoice) (second : IssuedFor right other invoice) : left = right := by
  have leftActive := first.active
  have rightActive := second.active
  simp only [isActiveFor, Bool.and_eq_true, decide_eq_true_eq] at leftActive rightActive
  exact Option.some.inj (leftActive.2.symm.trans rightActive.2)

/-- What the loop leaves and reports: an invoice for each student without one, and the others skipped. -/
structure Billed (feeStructureId : String) (active : JsMap String InvoiceEntity)
    (students : List NormalizedBulkFeeStudent) (db after : InvoicingDb) (invoices : List InvoiceEntity)
    (skipped : List SkippedStudent) : Prop extends BillsIssued db after invoices where
  reason : ∀ invoice ∈ invoices, invoice.metadata.text "billing_reason" = some bulkGenerationReason
  issued : ∀ invoice ∈ invoices,
    ∃ studentId, IssuedFor feeStructureId studentId invoice ∧ active.get? studentId = none
  reported : (invoices.map (·.studentId) ++ skipped.map fun student => some student.studentId).Perm
    ((students.map (·.studentId)).map some)

theorem generateInvoices_ok {active : JsMap String InvoiceEntity}
    {students : List NormalizedBulkFeeStudent} {invoices : List InvoiceEntity} {skipped : List SkippedStudent}
    (readable : ∀ student ∈ students, readString (some student.studentId) = some student.studentId)
    (generated : (generateInvoices call subscription feeStructure dueAt position active students).run db =
      .ok ((invoices, skipped), after)) :
    Billed feeStructure.id active students db after invoices skipped := by
  induction students generalizing position active db invoices skipped with
  | nil =>
    simp only [generateInvoices, run_pure_ok, Prod.mk.injEq] at generated
    obtain ⟨⟨rfl, rfl⟩, rfl⟩ := generated
    exact ⟨.refl _, by simp, by simp, .refl _⟩
  | cons student students ih =>
    obtain ⟨own, others⟩ := List.forall_mem_cons.mp readable
    unfold generateInvoices at generated
    split at generated
    · next existing known =>
      simp only [run_bind_ok, run_pure_ok, Prod.mk.injEq] at generated
      obtain ⟨⟨later, _⟩, _, rest, ⟨rfl, rfl⟩, rfl⟩ := generated
      have billed := ih others rest
      refine { billed with reported := ?_ }
      simp only [List.map_cons]
      exact List.perm_middle.trans (billed.reported.cons _)
    · next fresh =>
      simp only [run_bind_ok, run_pure_ok, Prod.mk.injEq] at generated
      obtain ⟨invoice, middle, first, ⟨later, _⟩, _, rest, ⟨rfl, rfl⟩, rfl⟩ := generated
      obtain ⟨issued, reason, bill⟩ := generateInvoice_ok own first
      have billed := ih others rest
      refine ⟨bill.cons billed.toBillsIssued, List.forall_mem_cons.mpr ⟨reason, billed.reason⟩,
        List.forall_mem_cons.mpr ⟨⟨_, issued, fresh⟩, fun invoice member => ?_⟩, ?_⟩
      · obtain ⟨studentId, issued, unknown⟩ := billed.issued invoice member
        rw [JsMap.get?_set] at unknown
        split at unknown
        · cases unknown
        · exact ⟨studentId, issued, unknown⟩
      · simp only [List.map_cons, List.cons_append, issued.student]
        exact billed.reported.cons _

end Generated

/-- Of the invoices that are not among the first ones, no two are active for one student and fee structure. -/
def InvoicedOnce (first db : InvoicingDb) : Prop :=
  ∀ feeStructureId studentId, ∀ left ∈ db.invoices.rows, ∀ right ∈ db.invoices.rows,
    left ∉ first.invoices.rows → right ∉ first.invoices.rows →
    IssuedFor feeStructureId studentId left → IssuedFor feeStructureId studentId right → left = right

def requestedStudents (dto : BulkGenerateFeeInvoicesDto) : List String :=
  dto.targetStudents.map fun student => JsText.trim student.studentId

/-- What a successful request answers about the students it names, and has left in the table. -/
structure AccountsFor (dto : BulkGenerateFeeInvoicesDto) (response : BulkFeeInvoiceGenerationResponse)
    (after : InvoicingDb) : Prop where
  distinct : (requestedStudents dto).Nodup
  once : (response.invoices.map (·.studentId) ++ response.skipped.map fun student => some student.studentId).Perm
    ((requestedStudents dto).map some)
  counted : response.generatedCount + response.skippedCount = dto.targetStudents.length
  invoiced : ∀ invoice ∈ response.invoices, invoice ∈ after.invoices.rows ∧
    ∃ studentId, IssuedFor response.feeStructureId studentId invoice

section Requests

theorem requireActiveFeeStructure_unchanged {feeStructureId : String} {db after : InvoicingDb}
    {feeStructure : FeeStructureEntity}
    (found : (requireActiveFeeStructure feeStructureId).run db = .ok (feeStructure, after)) : after = db := by
  simp only [requireActiveFeeStructure, run_bind_ok, run_current_ok] at found
  obtain ⟨_, _, ⟨rfl, rfl⟩, rest⟩ := found
  split at rest
  · simp at rest
  · simp only [run_bind_ok, run_failIf_ok, run_pure_ok] at rest
    obtain ⟨_, _, ⟨-, rfl⟩, -, rfl⟩ := rest
    rfl

variable {runtime : Runtime} {call : BulkCall} {first db after : InvoicingDb}
  {response : BulkFeeInvoiceGenerationResponse}

theorem bulkGenerateFeeInvoices_ok
    (succeeded : (bulkGenerateFeeInvoices runtime call).run db = .ok (response, after)) :
    ∃ students, normalizeBulkFeeStudents [] call.dto.targetStudents = .ok students ∧
      response.generatedCount = response.invoices.length ∧ response.skippedCount = response.skipped.length ∧
      Billed response.feeStructureId (activeInvoiceByStudent response.feeStructureId (listInvoices db)) students db after
        response.invoices response.skipped := by
  simp only [bulkGenerateFeeInvoices, generateLocked, run_bind_ok, run_current_ok, run_lift_ok, run_pure_ok] at succeeded
  obtain ⟨feeStructureId, _, ⟨-, rfl⟩, _, _, ⟨rfl, rfl⟩, subscription, locked, billable, feeStructure, _, found,
    students, _, ⟨normalized, rfl⟩, dueAt, _, ⟨-, rfl⟩, ⟨invoices, skipped⟩, _, generated, rfl, rfl⟩ := succeeded
  obtain ⟨-, rfl⟩ := requireBillableSubscription_ok billable
  obtain rfl := requireActiveFeeStructure_unchanged found
  refine ⟨students, normalized, rfl, rfl, generateInvoices_ok (fun student member => ?_) generated⟩
  exact ((normalizeBulkFeeStudents_ok normalized).2.2 student member).2

theorem accountsFor_of_ok (succeeded : (bulkGenerateFeeInvoices runtime call).run db = .ok (response, after)) :
    AccountsFor call.dto response after := by
  obtain ⟨students, normalized, generatedCount, skippedCount, billed⟩ := bulkGenerateFeeInvoices_ok succeeded
  obtain ⟨rfl, distinct, -⟩ := normalizeBulkFeeStudents_ok normalized
  have named : (call.dto.targetStudents.map normalizeStudent).map (·.studentId) = requestedStudents call.dto := by
    simp [requestedStudents, normalizeStudent]
  have once := billed.reported
  rw [named] at once
  refine ⟨named ▸ distinct, once, ?_, fun invoice member => ⟨(billed.rows invoice).mpr (.inr member), ?_⟩⟩
  · have total := once.length_eq
    simp only [List.length_append, List.length_map, requestedStudents] at total
    rw [generatedCount, skippedCount, total]
  · obtain ⟨studentId, issued, -⟩ := billed.issued invoice member
    exact ⟨studentId, issued⟩

theorem invoicedOnce_of_ok (once : InvoicedOnce first db)
    (succeeded : (bulkGenerateFeeInvoices runtime call).run db = .ok (response, after)) : InvoicedOnce first after := by
  obtain ⟨students, normalized, -, -, billed⟩ := bulkGenerateFeeInvoices_ok succeeded
  obtain ⟨-, distinct, -⟩ := normalizeBulkFeeStudents_ok normalized
  have apart : (response.invoices.map (·.studentId)).Nodup := by
    have reported := billed.reported.nodup_iff.mpr (distinct.map (Option.some_injective _))
    exact (List.nodup_append.mp reported).1
  -- A generated invoice and one from before are for different students of the fee structure.
  have unseen : ∀ feeStructureId studentId, ∀ old ∈ db.invoices.rows, ∀ invoice ∈ response.invoices,
      IssuedFor feeStructureId studentId old → ¬ IssuedFor feeStructureId studentId invoice := by
    intro feeStructureId studentId old present invoice member oldIssued issued
    obtain ⟨studentId', issued', unknown⟩ := billed.issued invoice member
    have sameStudent : studentId' = studentId := Option.some.inj (issued'.student.symm.trans issued.student)
    have sameStructure := issuedFor_feeStructure issued' issued
    subst sameStudent sameStructure
    have listed : old ∈ listInvoices db := (List.mem_insertionSort _).mpr present
    exact activeInvoiceByStudent_none unknown old listed oldIssued.active oldIssued.student
  intro feeStructureId studentId left leftMember right rightMember leftNew rightNew leftIssued rightIssued
  rcases (billed.rows left).mp leftMember with leftOld | leftGenerated <;>
    rcases (billed.rows right).mp rightMember with rightOld | rightGenerated
  · exact once _ _ left leftOld right rightOld leftNew rightNew leftIssued rightIssued
  · exact absurd rightIssued (unseen _ _ left leftOld right rightGenerated leftIssued)
  · exact absurd leftIssued (unseen _ _ right rightOld left leftGenerated rightIssued)
  · exact List.inj_on_of_nodup_map apart leftGenerated rightGenerated (leftIssued.student.trans rightIssued.student.symm)

end Requests

def bulkProtocol (runtime : Runtime) :
    Protocol InvoicingDb BulkCall Unit (Option (List InvoiceEntity))
      (Except Exception BulkFeeInvoiceGenerationResponse) :=
  exclusive (fun _ db => listInvoices db) fun call existingInvoices =>
    attempt (do
      let feeStructureId ← monadLift (requireFeeStructureId call.dto)
      generateLocked runtime call feeStructureId existingInvoices)

theorem bulkProtocol_sound (runtime : Runtime) :
    Sound (bulkProtocol runtime) (fun _ => True) fun call => attempt (bulkGenerateFeeInvoices runtime call) :=
  exclusive_sound fun call db => attempt_congr (by
    rw [bulkGenerateFeeInvoices, run_bind, run_bind, run_lift]
    cases requireFeeStructureId call.dto <;> rfl)

/-- Each student is invoiced once for a fee structure, however the requests interleave, and each successful
request accounts for every student it names. -/
theorem students_invoiced_once (runtime : Runtime) (first : InvoicingDb) (events : List (Event BulkCall)) :
    let world := run (step (bulkProtocol runtime)) (World.idle first) events
    InvoicedOnce first world.db ∧ ∀ done ∈ world.finished, ∀ response, done.result = .ok response →
      AccountsFor done.request.dto response done.after := by
  let world := run (step (bulkProtocol runtime)) (World.idle first) events
  have serial : Serial (fun call => attempt (bulkGenerateFeeInvoices runtime call)) first world.finished world.db :=
    run_serial (bulkProtocol_sound runtime) trivial events
  have kept : ∀ done : Finished InvoicingDb BulkCall (Except Exception BulkFeeInvoiceGenerationResponse), True →
      InvoicedOnce first done.before →
      attempt (bulkGenerateFeeInvoices runtime done.request) done.before = (done.after, done.result) →
      InvoicedOnce first done.after := by
    intro done _ once ran
    cases outcome : done.result with
    | error error =>
      rw [outcome] at ran
      rwa [(attempt_error.mp ran).2]
    | ok response => exact invoicedOnce_of_ok once (attempt_ok.mp (outcome ▸ ran))
  have initial : InvoicedOnce first first := fun _ _ _ member _ _ added => absurd member added
  refine ⟨serial_preserves kept serial (fun _ _ => trivial) initial, fun done member response succeeded => ?_⟩
  obtain ⟨past, rest, split⟩ := List.append_of_mem member
  have ran := (serial_split (fun _ => kept) serial (fun _ _ => trivial) initial split).2
  exact accountsFor_of_ok (attempt_ok.mp (succeeded ▸ ran))

end ShuleHub.Billing
