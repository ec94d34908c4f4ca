import ShuleHub.Auth.MonitoringAccounts
import ShuleHub.Lib.Runs

/-! Which tokens are accepted after any run of calls on the accounts that monitor a school. -/

namespace ShuleHub.Monitoring

open Transaction Runs KeyedTable Outcome

variable (history : List MonitoringEvent) (runtime : MonitoringRuntime) (books : MonitoringBooks) (account : String)

inductive MonitoringCall where
  | create (session : MonitoringSession) (newId randomPart : String) (input : CreateMonitoringTokenInput)
  | verify (session : MonitoringSession) (rawToken : String) (expectedTenantId : Option String)
  | revoke (session : MonitoringSession) (tokenId : String) (actorUserId : Option String)
  | rotate (session : MonitoringSession) (randomPart tokenId : String) (actorUserId : Option String)

/-- What a call leaves behind: outside a request, each of its statements commits. -/
def settled {Result : Type} (session : MonitoringSession) (action : MonitoringEffect Result) (books : MonitoringBooks) :
    MonitoringBooks :=
  if session.inRequest then ((Effect.rollingBack id (fun _ before => before) action).run books).1
  else (action.run books).1

def serve : MonitoringCall → MonitoringBooks
  | .create session newId randomPart input =>
    settled session (createToken runtime session newId randomPart input) books
  | .verify session rawToken expectedTenantId =>
    settled session (verifyToken runtime session rawToken expectedTenantId) books
  | .revoke session tokenId actorUserId => settled session (revokeToken runtime session tokenId actorUserId) books
  | .rotate session randomPart tokenId actorUserId =>
    settled session (rotateToken runtime session randomPart tokenId actorUserId) books

def issueOf : MonitoringEvent → Option Issue
  | .issued issue => if issue.account = account then some issue else none
  | .revoked _ => none

def latestIssue : Option Issue :=
  history.findSome? (issueOf account)

def IsRevoked : Prop := .revoked account ∈ history

def IsCurrent (token tenantId : String) (now : Int) : Prop :=
  ∃ issue, latestIssue history issue.account = some issue ∧ issue.token = token ∧ issue.tenantId = tenantId ∧
    ¬ IsRevoked history issue.account ∧ now < issue.expiresAt

def Accepts (session : MonitoringSession)
    (token tenantId : String) : Prop :=
  ∃ principal after, (verifyToken runtime session token (some tenantId)).run books = (after, .ok principal)

/-- What holds of the tokens at any time: those are accepted that are current; one that was rotated out is not, nor is
the token of a revoked account, of an expired one or of another tenant, and a revoked account is not rotated. -/
structure TokensGuarded : Prop where
  accepted : ∀ session token tenantId, tenantId ≠ "" → session.Sees tenantId →
    (Accepts runtime books session token tenantId ↔ IsCurrent books.history token tenantId session.now)
  rotatedOut : ∀ session token tenantId, tenantId ≠ "" → session.Sees tenantId →
    (∀ issue, latestIssue books.history issue.account = some issue → issue.token ≠ token) →
    ¬ Accepts runtime books session token tenantId
  refused : ∀ session issue tenantId, tenantId ≠ "" → session.Sees tenantId →
    latestIssue books.history issue.account = some issue →
    IsRevoked books.history issue.account ∨ issue.expiresAt ≤ session.now ∨ issue.tenantId ≠ tenantId →
    ¬ Accepts runtime books session issue.token tenantId
  revoked : ∀ session randomPart tokenId actorUserId id, runtime.castUuid tokenId = some id →
    IsRevoked books.history id →
    ∃ error, (rotateToken runtime session randomPart tokenId actorUserId).run books = (books, .error error)

section Histories

variable {before after : List MonitoringEvent} {account other : String}

def GrownBy (account : String) (before after : List MonitoringEvent) : Prop :=
  ∃ added : List MonitoringEvent, after = added ++ before ∧ ∀ event ∈ added, event.account = account

theorem GrownBy.refl : GrownBy account before before := ⟨[], rfl, by simp⟩

theorem grownBy_cons (event : MonitoringEvent) : GrownBy event.account before (event :: before) :=
  ⟨[event], rfl, by simp⟩

theorem issueOf_other {event : MonitoringEvent} (differs : event.account ≠ account) : issueOf account event = none := by
  cases event with
  | issued issue => exact if_neg differs
  | revoked _ => rfl

theorem GrownBy.latestIssue (grown : GrownBy account before after) (differs : other ≠ account) :
    latestIssue after other = latestIssue before other := by
  obtain ⟨added, rfl, own⟩ := grown
  have silent : added.findSome? (issueOf other) = none := by
    rw [List.findSome?_eq_none_iff]
    intro event member
    apply issueOf_other
    rw [own event member]
    exact differs.symm
  rw [Monitoring.latestIssue, List.findSome?_append, silent, Option.none_or]
  rfl

theorem GrownBy.isRevoked (grown : GrownBy account before after) (differs : other ≠ account) :
    IsRevoked after other ↔ IsRevoked before other := by
  obtain ⟨added, rfl, own⟩ := grown
  rw [IsRevoked, List.mem_append, or_iff_right]
  · rfl
  · intro member
    exact differs (own _ member)

theorem mem_of_latestIssue {issue : Issue} (latest : latestIssue before account = some issue) :
    .issued issue ∈ before ∧ issue.account = account := by
  obtain ⟨event, member, found⟩ := List.exists_of_findSome?_eq_some latest
  cases event with
  | issued other =>
    rw [issueOf] at found
    split at found
    · next same =>
      cases found
      exact ⟨member, same⟩
    · cases found
  | revoked _ => cases found

end Histories

section Invariant

variable {runtime : MonitoringRuntime} {session : MonitoringSession} {books : MonitoringBooks}
  {permissions : List String} {row : MonitoringServiceAccountRow} {account id randomPart tokenId : String}
  {after : MonitoringBooks} {result : Unit} {found : Option MonitoringServiceAccountRow}

theorem hashMonitoringToken_injective : Function.Injective (hashMonitoringToken runtime) := by
  intro first second same
  have texts := runtime.sha256_injective same
  exact (String.append_right_inj _).mp texts

theorem isMonitoringToken_generate (randomPart : String) :
    isMonitoringToken (generateMonitoringToken randomPart) = true := by
  rw [isMonitoringToken, generateMonitoringToken, List.isPrefixOf_iff_prefix, String.toList_append]
  exact List.prefix_append _ _

def IsReadable (permissions : List String) : Prop := ∃ again, normalizeReadOnlyPermissions permissions = .ok again

theorem isReadable_of_normalized {normalized : List String}
    (ran : normalizeReadOnlyPermissions permissions = .ok normalized) : IsReadable normalized := by
  simp only [normalizeReadOnlyPermissions, bind_ok, failIf_ok, pure_ok] at ran
  obtain ⟨-, readOnly, rfl⟩ := ran
  refine ⟨_, bind_ok.mpr ⟨(), failIf_ok.mpr ?_, rfl⟩⟩
  intro writes
  obtain ⟨permission, member, writes⟩ := List.any_eq_true.mp writes
  obtain ⟨stored, kept, rfl⟩ := List.mem_map.mp (List.mem_filter.mp member).1
  have listed := List.mem_eraseDups.mp kept
  obtain ⟨given, -, rfl⟩ := List.mem_map.mp (List.mem_filter.mp listed).1
  rw [JsText.trim_trim] at writes
  exact readOnly (List.any_eq_true.mpr ⟨_, listed, writes⟩)

structure Fits (runtime : MonitoringRuntime) (history : List MonitoringEvent) (row : MonitoringServiceAccountRow) :
    Prop where
  carries : ∃ token, isMonitoringToken token = true ∧ row.tokenHash = hashMonitoringToken runtime token ∧
    latestIssue history row.id = some ⟨row.id, row.tenantId, token, row.expiresAt⟩
  status : row.status = .revoked ↔ IsRevoked history row.id
  readable : IsReadable row.permissions

structure Booked (runtime : MonitoringRuntime) (books : MonitoringBooks) : Prop where
  known : ∀ event ∈ books.history, ∃ row ∈ books.accounts.rows, row.id = event.account
  fits : ∀ row ∈ books.accounts.rows, Fits runtime books.history row
  apart : ∀ first ∈ books.accounts.rows, ∀ second ∈ books.accounts.rows, first.tokenHash = second.tokenHash →
    first.id = second.id

theorem booked_empty : Booked runtime MonitoringBooks.empty := by
  constructor
  · intro event member
    exact absurd member List.not_mem_nil
  · intro row member
    exact absurd member List.not_mem_nil
  · intro first member
    exact absurd member List.not_mem_nil

theorem Fits.grown {history : List MonitoringEvent}
    (fits : Fits runtime books.history row) (grown : GrownBy account books.history history)
    (differs : row.id ≠ account) : Fits runtime history row := by
  constructor
  · rw [grown.latestIssue differs]
    exact fits.carries
  · rw [grown.isRevoked differs]
    exact fits.status
  · exact fits.readable

theorem Booked.store (booked : Booked runtime books)
    (rows : ∀ other, other ∈ after.accounts.rows ↔ other = row ∨ other ∈ books.accounts.rows ∧ other.id ≠ row.id)
    (grown : GrownBy row.id books.history after.history) (fits : Fits runtime after.history row)
    (free : ∀ other ∈ books.accounts.rows, other.tokenHash = row.tokenHash → other.id = row.id) :
    Booked runtime after := by
  constructor
  · intro event member
    by_cases own : event.account = row.id
    · exact ⟨row, (rows row).mpr (.inl rfl), own.symm⟩
    · obtain ⟨added, same, mine⟩ := grown
      rw [same, List.mem_append] at member
      have earlier := member.resolve_left fun new => own (mine event new)
      obtain ⟨known, present, named⟩ := booked.known event earlier
      have differs : known.id ≠ row.id := by
        rw [named]
        exact own
      exact ⟨known, (rows known).mpr (.inr ⟨present, differs⟩), named⟩
  · intro other member
    rcases (rows other).mp member with rfl | ⟨present, differs⟩
    · exact fits
    · exact (booked.fits other present).grown grown differs
  · intro first firstMember second secondMember same
    rcases (rows first).mp firstMember with rfl | ⟨firstPresent, -⟩
    · rcases (rows second).mp secondMember with rfl | ⟨secondPresent, -⟩
      · rfl
      · exact (free second secondPresent same.symm).symm
    · rcases (rows second).mp secondMember with rfl | ⟨secondPresent, -⟩
      · exact free first firstPresent same
      · exact booked.apart first firstPresent second secondPresent same

theorem updatable_eq_some
    (found : updatable session books id = some row) : row ∈ books.accounts.rows ∧ row.id = id := by
  rw [updatable] at found
  split at found
  · exact (find_eq_some _).mp found
  · cases found

theorem checkTokenHash_ok {tokenHash : String}
    (checked : checkTokenHash books account tokenHash = .ok result) :
    ∀ other ∈ books.accounts.rows, other.tokenHash = tokenHash → other.id = account := by
  rw [checkTokenHash, failIf_ok] at checked
  intro other member same
  by_contra differs
  exact checked ⟨other, member, same, differs⟩

theorem latestIssue_issued (issue : Issue) (history : List MonitoringEvent) :
    latestIssue (.issued issue :: history) issue.account = some issue := by
  rw [latestIssue, List.findSome?_cons, issueOf, if_pos rfl]

theorem insertAccount_booked {newId : String} {given : List String}
    {input : CreateMonitoringTokenInput}
    (normalized : normalizeReadOnlyPermissions given = .ok permissions) (booked : Booked runtime books)
    (ran : (insertAccount runtime session newId (generateMonitoringToken randomPart) permissions input).run books =
      .ok (row, after)) : Booked runtime after := by
  simp only [insertAccount, run_bind_ok, run_required_ok, run_failIf_ok, run_current_ok, run_lift_ok, run_write_ok,
    run_pure_ok] at ran
  obtain ⟨expiresAt, _, ⟨-, rfl⟩, createdBy, _, ⟨-, rfl⟩, _, _, ⟨-, rfl⟩, _, _, ⟨rfl, rfl⟩, _, _, ⟨checked, rfl⟩,
    accounts, _, ⟨inserted, rfl⟩, _, _, rfl, rfl, rfl⟩ := ran
  obtain ⟨fresh, rfl⟩ := (tryInsert_eq_some _).mp inserted
  apply booked.store
  · intro other
    rw [mem_insert, or_comm]
    apply or_congr_right
    exact ⟨fun member => ⟨member, fresh other member⟩, And.left⟩
  · exact grownBy_cons _
  · constructor
    · exact ⟨_, isMonitoringToken_generate randomPart, rfl, latestIssue_issued _ _⟩
    · constructor
      · intro revoked
        cases revoked
      · intro revoked
        rcases List.mem_cons.mp revoked with new | earlier
        · cases new
        · obtain ⟨known, present, named⟩ := booked.known _ earlier
          exact absurd named (fresh known present)
    · exact isReadable_of_normalized normalized
  · exact checkTokenHash_ok checked

theorem revokeAccount_booked
    (booked : Booked runtime books) (ran : (revokeAccount runtime session tokenId).run books = .ok (found, after)) :
    Booked runtime after := by
  simp only [revokeAccount, findAccountId, run_bind_ok, run_required_ok, run_current_ok] at ran
  obtain ⟨id, _, ⟨-, rfl⟩, _, _, ⟨rfl, rfl⟩, ran⟩ := ran
  split at ran
  · rw [← (run_pure_ok.mp ran).2]
    exact booked
  · next row stored =>
    simp only [run_bind_ok, run_write_ok, run_pure_ok] at ran
    obtain ⟨_, _, rfl, -, rfl⟩ := ran
    obtain ⟨member, rfl⟩ := updatable_eq_some stored
    have fits := booked.fits row member
    apply booked.store
    · exact fun other => mem_put
    · exact grownBy_cons (.revoked row.id)
    · constructor
      · exact fits.carries
      · exact iff_of_true rfl (List.mem_cons_self ..)
      · exact fits.readable
    · exact fun other present same => booked.apart other present row member same

theorem rotateAccount_booked (booked : Booked runtime books)
    (ran : (rotateAccount runtime session tokenId (generateMonitoringToken randomPart)).run books =
      .ok (found, after)) :
    Booked runtime after := by
  simp only [rotateAccount, findAccountId, run_bind_ok, run_required_ok, run_current_ok] at ran
  obtain ⟨id, _, ⟨-, rfl⟩, _, _, ⟨rfl, rfl⟩, ran⟩ := ran
  split at ran
  · rw [← (run_pure_ok.mp ran).2]
    exact booked
  · next row active =>
    simp only [run_bind_ok, run_lift_ok, run_write_ok, run_pure_ok] at ran
    obtain ⟨_, _, ⟨checked, rfl⟩, _, _, rfl, -, rfl⟩ := ran
    obtain ⟨member, rfl⟩ := updatable_eq_some (Option.filter_eq_some_iff.mp active).1
    have fits := booked.fits row member
    apply booked.store
    · exact fun other => mem_put
    · exact grownBy_cons _
    · constructor
      · exact ⟨_, isMonitoringToken_generate randomPart, rfl, latestIssue_issued _ _⟩
      · rw [IsRevoked, List.mem_cons, or_iff_right (by simp)]
        exact fits.status
      · exact fits.readable
    · exact checkTokenHash_ok checked

theorem markUsed_booked (booked : Booked runtime books)
    (ran : (markUsed session id).run books = .ok (result, after)) : Booked runtime after := by
  simp only [markUsed, run_bind_ok, run_current_ok] at ran
  obtain ⟨_, _, ⟨rfl, rfl⟩, ran⟩ := ran
  split at ran
  · rw [← (run_pure_ok.mp ran).2]
    exact booked
  · next row stored =>
    rw [← run_write_ok.mp ran]
    obtain ⟨member, rfl⟩ := updatable_eq_some stored
    have fits := booked.fits row member
    apply booked.store
    · exact fun other => mem_put
    · exact GrownBy.refl
    · exact ⟨fits.carries, fits.status, fits.readable⟩
    · exact fun other present same => booked.apart other present row member same

theorem recordAudit_booked (row : MonitoringAuditRow) :
    Effect.Preserves (Booked runtime) (recordAudit session row) := by
  refine (Effect.preserves_failIf _ _).bind fun _ => ?_
  refine (Effect.preserves_failIf _ _).bind fun _ => ?_
  apply Effect.preserves_write
  exact fun books booked => ⟨booked.known, booked.fits, booked.apart⟩

theorem recordValidationFailure_booked (tenantId : String) (accountId : Option String) :
    Effect.Preserves (Booked runtime) (recordValidationFailure session tenantId accountId) :=
  (recordAudit_booked _).attempt.bind fun _ => Effect.preserves_pure _

theorem createToken_booked (newId randomPart : String) (input : CreateMonitoringTokenInput) :
    Effect.Preserves (Booked runtime) (createToken runtime session newId randomPart input) := by
  intro books booked
  rw [createToken]
  cases normalized : normalizeReadOnlyPermissions (input.permissions.getD defaultMonitoringPermissions) with
  | error error => exact booked
  | ok permissions =>
    rw [Effect.run_bind_lift_ok]
    have inserted : Effect.Preserves (Booked runtime) (Effect.transact
        (insertAccount runtime session newId (generateMonitoringToken randomPart) permissions input)) :=
      Effect.preserves_transact fun books row after booked ran => insertAccount_booked normalized booked ran
    refine (inserted.bind fun row => ?_) books booked
    exact (recordAudit_booked _).bind fun _ => Effect.preserves_pure _

theorem revokeToken_booked (tokenId : String) (actorUserId : Option String) :
    Effect.Preserves (Booked runtime) (revokeToken runtime session tokenId actorUserId) := by
  refine (Effect.preserves_transact fun _ _ _ booked ran => revokeAccount_booked booked ran).bind fun found => ?_
  cases found with
  | none => exact Effect.preserves_pure _
  | some row => exact recordAudit_booked _

theorem rotateToken_booked (randomPart tokenId : String) (actorUserId : Option String) :
    Effect.Preserves (Booked runtime) (rotateToken runtime session randomPart tokenId actorUserId) := by
  refine (Effect.preserves_transact fun _ _ _ booked ran => rotateAccount_booked booked ran).bind fun found => ?_
  cases found with
  | none => exact Effect.preserves_fail _
  | some row => exact (recordAudit_booked _).bind fun _ => Effect.preserves_pure _

theorem verifyToken_booked (rawToken : String) (expectedTenantId : Option String) :
    Effect.Preserves (Booked runtime) (verifyToken runtime session rawToken expectedTenantId) := by
  rw [verifyToken]
  split
  · exact (recordValidationFailure_booked _ _).bind fun _ => Effect.preserves_fail _
  · refine Effect.preserves_current.bind fun books => ?_
    dsimp only
    split
    · exact (recordValidationFailure_booked _ _).bind fun _ => Effect.preserves_fail _
    · refine (Effect.preserves_transact fun _ _ _ booked ran => markUsed_booked booked ran).bind fun _ => ?_
      exact (Effect.preserves_lift _).bind fun _ => Effect.preserves_pure _

theorem settled_booked {Result : Type} {action : MonitoringEffect Result}
    (kept : Effect.Preserves (Booked runtime) action) (booked : Booked runtime books) :
    Booked runtime (settled session action books) := by
  rw [settled]
  split
  · exact kept.undone books booked
  · exact kept books booked

theorem serve_booked (books : MonitoringBooks) (call : MonitoringCall) (booked : Booked runtime books) :
    Booked runtime (serve runtime books call) := by
  cases call with
  | create session newId randomPart input => exact settled_booked (createToken_booked newId randomPart input) booked
  | verify session rawToken expectedTenantId =>
    exact settled_booked (verifyToken_booked rawToken expectedTenantId) booked
  | revoke session tokenId actorUserId => exact settled_booked (revokeToken_booked tokenId actorUserId) booked
  | rotate session randomPart tokenId actorUserId =>
    exact settled_booked (rotateToken_booked randomPart tokenId actorUserId) booked

end Invariant

section Acceptance

variable {runtime : MonitoringRuntime} {session : MonitoringSession} {books : MonitoringBooks} {token tenantId : String}
  {row : MonitoringServiceAccountRow}

theorem refuse_run (session : MonitoringSession) (tenantId : String) (accountId : Option String) (error : Exception)
    (books : MonitoringBooks) : ∃ after, ((do
      recordValidationFailure session tenantId accountId
      fail error : MonitoringEffect MonitoringPrincipal)).run books = (after, .error error) :=
  ⟨_, rfl⟩

def IsAccepted (runtime : MonitoringRuntime) (session : MonitoringSession) (token tenantId : String)
    (row : MonitoringServiceAccountRow) : Prop :=
  row.tokenHash = hashMonitoringToken runtime token ∧ row.status = .active ∧ session.now < row.expiresAt ∧
    row.tenantId = tenantId

theorem isAcceptable_iff (present : tenantId ≠ "") :
    isAcceptable session (some tenantId) row = true ↔
      row.status = .active ∧ session.now < row.expiresAt ∧ row.tenantId = tenantId := by
  simp [isAcceptable, present, and_assoc]

theorem findByTokenHash_of_booked (booked : Booked runtime books)
    (member : row ∈ books.accounts.rows) (sees : session.Sees row.tenantId) :
    findByTokenHash session books row.tokenHash = some row := by
  rw [findByTokenHash]
  cases found : books.accounts.rows.find? fun other =>
    other.tokenHash = row.tokenHash ∧ session.Sees other.tenantId with
  | none =>
    have unmatched := List.find?_eq_none.mp found row member
    simp [sees] at unmatched
  | some other =>
    have matched := List.find?_some found
    simp only [decide_eq_true_eq] at matched
    have present := List.mem_of_find?_eq_some found
    rw [eq_of_key present member (booked.apart other present row member matched.1)]

theorem markUsed_run (session : MonitoringSession) (id : String) (books : MonitoringBooks) :
    ∃ after, (markUsed session id).run books = .ok ((), after) := by
  cases found : updatable session books id with
  | none => exact ⟨books, by simp [markUsed, found]⟩
  | some row =>
    refine ⟨{ books with accounts := books.accounts.put { row with lastUsedAt := some session.now } }, ?_⟩
    simp [markUsed, found]

theorem accepts_iff (booked : Booked runtime books) (present : tenantId ≠ "") (sees : session.Sees tenantId) :
    Accepts runtime books session token tenantId ↔
      isMonitoringToken token = true ∧ ∃ row ∈ books.accounts.rows, IsAccepted runtime session token tenantId row := by
  rw [Accepts, verifyToken]
  constructor
  · rintro ⟨principal, after, ran⟩
    split at ran
    · obtain ⟨refusal, refused⟩ :=
        refuse_run session ((some tenantId).getD "unknown") none (.unauthorized "Invalid monitoring token") books
      rw [refused] at ran
      cases ran
    · next prefixed =>
      refine ⟨by simpa using prefixed, ?_⟩
      rw [Effect.run_bind_of_ok (Effect.run_current books)] at ran
      dsimp only at ran
      split at ran
      · obtain ⟨refusal, refused⟩ := refuse_run session _ _ (.unauthorized "Invalid monitoring token") books
        rw [refused] at ran
        cases ran
      · next row accepted =>
        obtain ⟨found, acceptable⟩ := Option.filter_eq_some_iff.mp accepted
        have matched := List.find?_some found
        simp only [decide_eq_true_eq] at matched
        exact ⟨row, List.mem_of_find?_eq_some found, matched.1, (isAcceptable_iff present).mp acceptable⟩
  · rintro ⟨prefixed, row, member, hashed, live⟩
    obtain ⟨permissions, normalized⟩ := (booked.fits row member).readable
    have found := findByTokenHash_of_booked booked member (live.2.2 ▸ sees)
    rw [hashed] at found
    rw [if_neg (by simp [prefixed]), Effect.run_bind_of_ok (Effect.run_current books)]
    dsimp only
    rw [found, Option.filter_some, if_pos ((isAcceptable_iff present).mpr live)]
    dsimp only
    rw [normalized]
    obtain ⟨after, marked⟩ := markUsed_run session row.id books
    exact ⟨_, after, (Effect.run_bind_of_ok (Effect.run_transact_of_ok marked)).trans rfl⟩

theorem accepts_iff_isCurrent (booked : Booked runtime books) (present : tenantId ≠ "") (sees : session.Sees tenantId) :
    Accepts runtime books session token tenantId ↔ IsCurrent books.history token tenantId session.now := by
  rw [accepts_iff booked present sees]
  constructor
  · rintro ⟨-, row, member, hashed, active, live, own⟩
    have fits := booked.fits row member
    obtain ⟨carried, -, stored, latest⟩ := fits.carries
    have same : carried = token := hashMonitoringToken_injective (stored.symm.trans hashed)
    refine ⟨⟨row.id, row.tenantId, carried, row.expiresAt⟩, latest, same, own, fun revoked => ?_, live⟩
    have ended := fits.status.mpr revoked
    rw [active] at ended
    cases ended
  · rintro ⟨issue, latest, rfl, rfl, unrevoked, live⟩
    obtain ⟨row, member, named⟩ := booked.known _ (mem_of_latestIssue latest).1
    have fits := booked.fits row member
    obtain ⟨carried, prefixed, stored, carries⟩ := fits.carries
    have own : row.id = issue.account := named
    rw [own, latest] at carries
    have same := Option.some.inj carries
    rw [same]
    refine ⟨prefixed, row, member, stored, ?_, ?_, rfl⟩
    · cases status : row.status with
      | active => rfl
      | revoked => exact absurd (own ▸ fits.status.mp status) unrevoked
    · rw [same] at live
      exact live

theorem account_of_latestIssue (booked : Booked runtime books) {first second : Issue}
    (firstLatest : latestIssue books.history first.account = some first)
    (secondLatest : latestIssue books.history second.account = some second) (same : first.token = second.token) :
    first = second := by
  obtain ⟨firstRow, firstMember, firstNamed⟩ := booked.known _ (mem_of_latestIssue firstLatest).1
  obtain ⟨secondRow, secondMember, secondNamed⟩ := booked.known _ (mem_of_latestIssue secondLatest).1
  have firstOwn : firstRow.id = first.account := firstNamed
  have secondOwn : secondRow.id = second.account := secondNamed
  have hashOf : ∀ row ∈ books.accounts.rows, ∀ issue : Issue, row.id = issue.account →
      latestIssue books.history issue.account = some issue →
        row.tokenHash = hashMonitoringToken runtime issue.token := by
    intro row member issue own latest
    obtain ⟨carried, -, stored, carries⟩ := (booked.fits row member).carries
    rw [own, latest] at carries
    rw [stored, Option.some.inj carries]
  have account := booked.apart firstRow firstMember secondRow secondMember
    ((hashOf firstRow firstMember first firstOwn firstLatest).trans
      (same ▸ (hashOf secondRow secondMember second secondOwn secondLatest).symm))
  rw [firstOwn, secondOwn] at account
  rw [account, secondLatest] at firstLatest
  exact (Option.some.inj firstLatest).symm

theorem rotateToken_of_isRevoked (booked : Booked runtime books) (session : MonitoringSession)
    (randomPart tokenId : String) (actorUserId : Option String) {id : String}
    (cast : runtime.castUuid tokenId = some id) (revoked : IsRevoked books.history id) :
    (rotateToken runtime session randomPart tokenId actorUserId).run books =
      (books, .error (.unauthorized "Monitoring token cannot be rotated")) := by
  have none : (updatable session books id).filter (·.status = .active) = none := by
    rw [Option.filter_eq_none_iff]
    intro row found active
    obtain ⟨member, rfl⟩ := updatable_eq_some found
    have ended := (booked.fits row member).status.mpr revoked
    rw [ended] at active
    cases active
  have rotated : (rotateAccount runtime session tokenId (generateMonitoringToken randomPart)).run books =
      .ok (Option.none, books) := by
    simp only [rotateAccount, findAccountId, run_bind_ok, run_required_ok, run_current_ok]
    refine ⟨id, books, ⟨cast, rfl⟩, books, books, ⟨rfl, rfl⟩, ?_⟩
    rw [none]
    rfl
  exact (Effect.run_bind_of_ok (Effect.run_transact_of_ok rotated)).trans rfl

theorem tokensGuarded_of_booked (booked : Booked runtime books) : TokensGuarded runtime books := by
  constructor
  · intro session token tenantId present sees
    exact accepts_iff_isCurrent booked present sees
  · intro session token tenantId present sees out accepted
    obtain ⟨issue, latest, same, -⟩ := (accepts_iff_isCurrent booked present sees).mp accepted
    exact out issue latest same
  · intro session issue tenantId present sees latest barred accepted
    obtain ⟨current, currentLatest, same, own, unrevoked, live⟩ :=
      (accepts_iff_isCurrent booked present sees).mp accepted
    have equal := account_of_latestIssue booked currentLatest latest same
    subst equal
    rcases barred with revoked | expired | foreign
    · exact unrevoked revoked
    · omega
    · exact foreign own
  · intro session randomPart tokenId actorUserId id cast revoked
    exact ⟨_, rotateToken_of_isRevoked booked session randomPart tokenId actorUserId cast revoked⟩

end Acceptance

end ShuleHub.Monitoring
