import ShuleHub.Discipline.Counselling

/-! What the counselling service shows to a user does not depend on the notes that the user may not read. -/

namespace ShuleHub.Discipline.CounsellingService

structure CounsellingState where
  db : CounsellingDb
  decrypt : EncryptedCounsellingNotePayload → Except Exception String

variable (store : RequestStore)

def withhold (db : CounsellingDb) (note : CounsellingNote) : CounsellingNote :=
  if canReadNote store db note then note else { note with payload := ⟨"", "", ""⟩, riskIndicators := [] }

theorem withhold_id (db : CounsellingDb) (note : CounsellingNote) : (withhold store db note).id = note.id := by
  unfold withhold
  split <;> rfl

def seenBy (db : CounsellingDb) : CounsellingDb :=
  { db with notes := db.notes.modify (withhold store db) (withhold_id store db) }

/-- Two states differ only in what is withheld from the user: the notes that the user may read have the same text. -/
structure AgreeFor (first second : CounsellingState) : Prop where
  seen : seenBy store first.db = seenBy store second.db
  decrypted : ∀ note ∈ first.db.notes.rows, canReadNote store first.db note →
    first.decrypt note.payload = second.decrypt note.payload

section Withheld

variable {store} {db : CounsellingDb} {decrypt other : EncryptedCounsellingNotePayload → Except Exception String}

theorem respond_congr {Response : Type} (respond : CounsellingDb → Response) {first second : CounsellingDb}
    (blind : ∀ db, respond (seenBy store db) = respond db) (seen : seenBy store first = seenBy store second) :
    respond first = respond second := by
  rw [← blind first, seen, blind second]

theorem canReadNote_withhold {note : CounsellingNote} :
    canReadNote store (seenBy store db) (withhold store db note) ↔ canReadNote store db note := by
  unfold withhold
  split <;> exact Iff.rfl

theorem presentNote_withhold (note : CounsellingNote) :
    presentNote store (seenBy store db) decrypt (withhold store db note) = presentNote store db decrypt note := by
  by_cases readable : canReadNote store db note
  · have same : withhold store db note = note := if_pos readable
    have still : canReadNote store (seenBy store db) note := readable
    rw [same, presentNote, presentNote, if_pos readable, if_pos still]
  · have still : ¬ canReadNote store (seenBy store db) (withhold store db note) := fun reads =>
      readable (canReadNote_withhold.mp reads)
    rw [presentNote, presentNote, if_neg readable, if_neg still, withhold, if_neg readable]

theorem listNotes_seenBy (tenantId sessionId : String) :
    CounsellingRepository.listNotes (seenBy store db) tenantId sessionId =
      (CounsellingRepository.listNotes db tenantId sessionId).map (withhold store db) := by
  have columns (note : CounsellingNote) : (withhold store db note).tenantId = note.tenantId ∧
      (withhold store db note).counsellingSessionId = note.counsellingSessionId ∧
      (withhold store db note).createdAt = note.createdAt := by
    unfold withhold
    split <;> exact ⟨rfl, rfl, rfl⟩
  have chosen : (seenBy store db).notes.rows.filter (fun note =>
        note.tenantId = tenantId ∧ note.counsellingSessionId = sessionId) =
      (db.notes.rows.filter fun note => note.tenantId = tenantId ∧ note.counsellingSessionId = sessionId).map
        (withhold store db) := by
    simp only [seenBy, KeyedTable.modify, List.filter_map]
    congr 1
    apply List.filter_congr
    intro note _
    simp only [Function.comp_apply, (columns note).1, (columns note).2.1]
  rw [CounsellingRepository.listNotes, chosen, CounsellingRepository.listNotes]
  symm
  apply List.map_insertionSort
  intro first _ second _
  rw [(columns first).2.2, (columns second).2.2]

theorem notes_seenBy (sessionId : String) :
    listNotes store (seenBy store db) decrypt sessionId = listNotes store db decrypt sessionId := by
  have presented (tenantId sessionId : String) :
      (CounsellingRepository.listNotes (seenBy store db) tenantId sessionId).mapM
          (presentNote store (seenBy store db) decrypt) =
        (CounsellingRepository.listNotes db tenantId sessionId).mapM (presentNote store db decrypt) := by
    rw [listNotes_seenBy, List.mapM_map]
    congr 1
    funext note
    exact presentNote_withhold note
  simp only [listNotes, presented]
  rfl

theorem presentNotes_congr {notes : List CounsellingNote}
    (same : ∀ note ∈ notes, canReadNote store db note → decrypt note.payload = other note.payload) :
    notes.mapM (presentNote store db decrypt) = notes.mapM (presentNote store db other) := by
  induction notes with
  | nil => rfl
  | cons note notes ih =>
    obtain ⟨own, later⟩ := List.forall_mem_cons.mp same
    have presented : presentNote store db decrypt note = presentNote store db other note := by
      unfold presentNote
      split
      · next readable => rw [own readable]
      · rfl
    rw [List.mapM_cons, List.mapM_cons, presented, ih later]

theorem listNotes_congr (same : ∀ note ∈ db.notes.rows, canReadNote store db note →
    decrypt note.payload = other note.payload) (sessionId : String) :
    listNotes store db decrypt sessionId = listNotes store db other sessionId := by
  have presented (tenantId sessionId : String) :
      (CounsellingRepository.listNotes db tenantId sessionId).mapM (presentNote store db decrypt) =
        (CounsellingRepository.listNotes db tenantId sessionId).mapM (presentNote store db other) := by
    apply presentNotes_congr
    intro note member
    have listed := (List.mem_insertionSort _).mp member
    exact same note (List.mem_filter.mp listed).1
  simp only [listNotes, presented]

end Withheld

/-- The responses to a user are the same in two states that differ only in what is withheld from that user. -/
theorem responses_agree (first second : CounsellingState) (agree : AgreeFor store first second) :
    getDashboard store first.db = getDashboard store second.db ∧
      (∀ query, listReferrals store first.db query = listReferrals store second.db query) ∧
      (∀ query, listSessions store first.db query = listSessions store second.db query) ∧
      ∀ sessionId, listNotes store first.db first.decrypt sessionId =
        listNotes store second.db second.decrypt sessionId := by
  refine ⟨?_, fun query => ?_, fun query => ?_, fun sessionId => ?_⟩
  · exact respond_congr (getDashboard store) (fun _ => rfl) agree.seen
  · exact respond_congr (fun db => listReferrals store db query) (fun _ => rfl) agree.seen
  · exact respond_congr (fun db => listSessions store db query) (fun _ => rfl) agree.seen
  · rw [listNotes_congr agree.decrypted]
    exact respond_congr (fun db => listNotes store db second.decrypt sessionId) (fun _ => notes_seenBy sessionId)
      agree.seen

def deputy : RequestStore where
  tenantId := some "lakeside"
  userId := "user-1"
  role := some "deputy_principal"
  permissions := ["discipline:manage"]
  clientIp := none
  userAgent := none
  now := 0
  newId := ""

def sessionNote (id : String) (visibility : CounsellingNoteVisibility) (payload : EncryptedCounsellingNotePayload)
    (riskIndicators : List String) : CounsellingNote where
  id := id
  tenantId := "lakeside"
  schoolId := "school-1"
  studentId := "student-1"
  counsellingSessionId := "session-1"
  counsellorUserId := "counsellor-1"
  visibility := visibility
  payload := payload
  safeSummary := none
  riskIndicators := riskIndicators
  createdAt := 0
  updatedAt := 0

/-- A session with a note for the discipline office and one that only its counsellor may read. -/
def counselled (payload : EncryptedCounsellingNotePayload) (riskIndicators : List String) : CounsellingState where
  db :=
    { referrals := []
      sessions := KeyedTable.empty.put
        { id := "session-1", tenantId := "lakeside", schoolId := "school-1", studentId := "student-1", referralId := none
          counsellorUserId := "counsellor-1", status := .completed, scheduledFor := 0, completedAt := some 0
          location := none, agenda := none, outcomeSummary := none, createdAt := 0, updatedAt := 0 }
      notes := (KeyedTable.empty.put (sessionNote "note-1" .disciplineOffice ⟨"bm90ZQ==", "MQ==", "YQ=="⟩ [])).put
        (sessionNote "note-2" .internalOnly payload riskIndicators)
      improvementPlans := []
      studentGuardians := [] }
  decrypt sealed :=
    if sealed = ⟨"bm90ZQ==", "MQ==", "YQ=="⟩ then .ok "Attended"
    else .error (.internal "Unsupported state or unable to authenticate data")

theorem responses_agree_for_deputy :
    listNotes deputy (counselled ⟨"c2FkLg==", "Mg==", "Yg=="⟩ ["self-harm"]).db
        (counselled ⟨"c2FkLg==", "Mg==", "Yg=="⟩ ["self-harm"]).decrypt "session-1" =
      listNotes deputy (counselled ⟨"Zmlu", "Mw==", "Yw=="⟩ []).db
        (counselled ⟨"Zmlu", "Mw==", "Yw=="⟩ []).decrypt "session-1" :=
  (responses_agree deputy (counselled ⟨"c2FkLg==", "Mg==", "Yg=="⟩ ["self-harm"]) (counselled ⟨"Zmlu", "Mw==", "Yw=="⟩ [])
    ⟨by decide +kernel, fun _ _ _ => rfl⟩).2.2.2 "session-1"

end ShuleHub.Discipline.CounsellingService
