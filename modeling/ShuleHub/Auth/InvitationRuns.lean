import ShuleHub.Auth.Invitations
import ShuleHub.Lib.Runs

/-! Which invitations are accepted: each token once, none that was withdrawn or replaced. What the acceptance
brings back is another matter: it makes the account and the membership active whatever became of them since. -/

namespace ShuleHub.Auth

open Transaction Runs KeyedTable

/-- One acceptance: its token, whether the token had been revoked, replaced or superseded, whether it made a
membership active again that was suspended since the invitation, and whether it enabled a disabled user. -/
structure Acceptance where
  token : String
  invalidated : Bool
  reactivates : Bool
  enables : Bool

/-- The tables, and what there is to say about their past: the hashes of the tokens that were revoked, replaced
or superseded, the invitations that a suspension of a user came after, and the acceptances. -/
structure InvitationWorld where
  tables : AuthTables
  dead : List String
  overtaken : List (String × String)
  accepted : List Acceptance

inductive InvitationEvent where
  | invite (mail : InvitationMail) (call : AuthCall) (dto : CreateTenantInvitationDto)
  | resend (mail : InvitationMail) (call : AuthCall) (invitationId : String)
  | revoke (call : AuthCall) (invitationId : String)
  | accept (call : AuthCall) (draw : AcceptanceDraw) (dto : AcceptInvitationDto)
  | updateStatus (call : AuthCall) (membershipId : String) (status : MembershipStatus)

namespace InvitationRuns

def opened (tables : AuthTables) : InvitationWorld := ⟨tables, [], [], []⟩

def presented (service : AuthService) (tables : AuthTables) (call : AuthCall) (dto : AcceptInvitationDto) :
    Option AuthActionTokenRow :=
  openAction tables .inviteAcceptance (hashToken service (JsText.trim dto.token)) call.now

def statusIn (db : AuthDb) (tenantId userId : String) : Option MembershipStatus :=
  (db.memberships.find (tenantId, userId)).map (·.status)

def supersededHashes (service : AuthService) (tokens : ActionTokenTable) (tenantId email : String) : List String :=
  (tokens.rows.filter (isInvitationTo service tenantId email ·)).map (·.tokenHash)

def hashesOf (tokens : ActionTokenTable) (invitationId : String) : List String :=
  (tokens.rows.filter (·.id = invitationId)).map (·.tokenHash)

/-- The invitations to a tenant that are older than a suspension of one of its members. -/
def overtakenBy (service : AuthService) (call : AuthCall) (tables : AuthTables) (membershipId : String)
    (status : MembershipStatus) : List (String × String) :=
  if status = .suspended then
    match memberOf service call tables.auth membershipId with
    | some (userId, tenantId) =>
      (tables.actionTokens.rows.filter (·.tenantId = tenantId)).map fun row => (row.id, userId)
    | none => []
  else []

def reactivates (overtaken : List (String × String)) (row : AuthActionTokenRow) (before after : AuthDb) : Bool :=
  overtaken.any fun entry => entry.1 = row.id ∧ ∃ tenantId ∈ row.tenantId,
    statusIn before tenantId entry.2 = some .suspended ∧ statusIn after tenantId entry.2 = some .active

def enables (before after : AuthDb) : Bool :=
  before.users.rows.any fun user => user.status = .disabled ∧ (after.users.find user.id).map (·.status) = some .active

def acceptance (service : AuthService) (state : InvitationWorld) (call : AuthCall) (dto : AcceptInvitationDto)
    (after : AuthDb) : Acceptance where
  token := JsText.trim dto.token
  invalidated := hashToken service (JsText.trim dto.token) ∈ state.dead
  reactivates := (presented service state.tables call dto).any fun row =>
    reactivates state.overtaken row state.tables.auth after
  enables := enables state.tables.auth after

@[grind =] def step (service : AuthService) (state : InvitationWorld) : InvitationEvent → InvitationWorld
  | .invite mail call dto =>
    match (inviteTenantUser service mail call dto).run state.tables with
    | .ok (response, tables) =>
      { state with
        tables
        dead := supersededHashes service state.tables.actionTokens response.tenantId response.email ++ state.dead }
    | .error _ => state
  | .resend mail call invitationId =>
    match (resendTenantInvitation service mail call invitationId).run state.tables with
    | .ok (_, tables) => { state with tables, dead := hashesOf state.tables.actionTokens invitationId ++ state.dead }
    | .error _ => state
  | .revoke call invitationId =>
    match (revokeTenantInvitation call invitationId).run state.tables with
    | .ok (_, tables) => { state with tables, dead := hashesOf state.tables.actionTokens invitationId ++ state.dead }
    | .error _ => state
  | .accept call draw dto =>
    match (acceptInvitation service call draw dto).run state.tables with
    | .ok (_, tables) =>
      { state with
        tables
        accepted := acceptance service state call dto tables.auth :: state.accepted }
    | .error _ => state
  | .updateStatus call membershipId status =>
    match (updateTenantMembershipStatus service call membershipId status).run state.tables.auth with
    | .ok (_, auth) =>
      { state with
        tables := { state.tables with auth }
        overtaken := overtakenBy service call state.tables membershipId status ++ state.overtaken }
    | .error _ => state

/-- No token was accepted twice or after it was withdrawn, and no acceptance brought back a membership that was
suspended since or a user who is disabled. -/
structure Honored (state : InvitationWorld) : Prop where
  once : (state.accepted.map (·.token)).Nodup
  valid : ∀ acceptance ∈ state.accepted, acceptance.invalidated = false
  suspended : ∀ acceptance ∈ state.accepted, acceptance.reactivates = false
  disabled : ∀ acceptance ∈ state.accepted, acceptance.enables = false

def accountId (service : AuthService) (db : AuthDb) (draw : AcceptanceDraw) (email : String) : String :=
  ((invitedUser service db email).map (·.id)).getD draw.userId

/-- The condition on one call: when an acceptance succeeds, the account with the email of the invitation is not
disabled, and its membership is not one that was suspended since the invitation. -/
def Standing (service : AuthService) (state : InvitationWorld) : InvitationEvent → Prop
  | .accept call draw dto =>
    ∀ response after, (acceptInvitation service call draw dto).run state.tables = .ok (response, after) →
      ∀ row, presented service state.tables call dto = some row →
        (∀ user, invitedUser service state.tables.auth row.email = some user → user.status ≠ .disabled) ∧
          ∀ tenantId, row.tenantId = some tenantId →
            (row.id, accountId service state.tables.auth draw row.email) ∈ state.overtaken →
              statusIn state.tables.auth tenantId (accountId service state.tables.auth draw row.email) ≠ some .suspended
  | _ => True

/-- A token that is drawn is not one of those drawn before. -/
def Genuine (service : AuthService) (state : InvitationWorld) : InvitationEvent → Prop
  | .invite mail _ _ | .resend mail _ _ =>
    hashToken service mail.token ∉ state.dead ∧
      ∀ row ∈ state.tables.actionTokens.rows, row.tokenHash ≠ hashToken service mail.token
  | _ => True

def DistinctHashes (tokens : ActionTokenTable) : Prop :=
  ∀ first ∈ tokens.rows, ∀ second ∈ tokens.rows, first.tokenHash = second.tokenHash → first = second

structure Spent (service : AuthService) (tokens : ActionTokenTable) (dead : List String) (used : List Acceptance) :
    Prop where
  distinct : DistinctHashes tokens
  dead : ∀ hash ∈ dead, ∀ row ∈ tokens.rows, row.tokenHash = hash → row.consumedAt ≠ none
  used : ∀ acceptance ∈ used, ∃ row ∈ tokens.rows,
    row.tokenHash = hashToken service acceptance.token ∧ row.consumedAt ≠ none

variable {service : AuthService} {tokens : ActionTokenTable} {dead : List String} {used : List Acceptance}

theorem Spent.modify (spent : Spent service tokens dead used) {change : AuthActionTokenRow → AuthActionTokenRow}
    {kept : ∀ row, (change row).id = row.id}
    (hash : ∀ row, (change row).tokenHash = row.tokenHash)
    (consumed : ∀ row, row.consumedAt ≠ none → (change row).consumedAt ≠ none) :
    Spent service (tokens.modify change kept) dead used where
  distinct first member second other same := by
    obtain ⟨before, present, rfl⟩ := mem_modify.mp member
    obtain ⟨next, also, rfl⟩ := mem_modify.mp other
    rw [hash, hash] at same
    rw [spent.distinct before present next also same]
  dead wanted isDead row member same := by
    obtain ⟨before, present, rfl⟩ := mem_modify.mp member
    apply consumed
    exact spent.dead wanted isDead before present ((hash before).symm.trans same)
  used acceptance member := by
    obtain ⟨row, present, own, gone⟩ := spent.used acceptance member
    refine ⟨change row, ?_, (hash row).trans own, consumed row gone⟩
    exact mem_modify.mpr ⟨row, present, rfl⟩

theorem Spent.kill (spent : Spent service tokens dead used) {more : List String}
    (gone : ∀ hash ∈ more, ∀ row ∈ tokens.rows, row.tokenHash = hash → row.consumedAt ≠ none) :
    Spent service tokens (more ++ dead) used where
  distinct := spent.distinct
  dead hash member := by
    rcases List.mem_append.mp member with now | earlier
    · exact gone hash now
    · exact spent.dead hash earlier
  used := spent.used

theorem Spent.insert (spent : Spent service tokens dead used) {row : AuthActionTokenRow}
    (fresh : ∀ other ∈ tokens.rows, other.id ≠ row.id) (new : row.tokenHash ∉ dead)
    (unused : ∀ other ∈ tokens.rows, other.tokenHash ≠ row.tokenHash) :
    Spent service (tokens.insert row fresh) dead used where
  distinct first member second other same := by
    rcases mem_insert.mp member with present | rfl
    · rcases mem_insert.mp other with also | rfl
      · exact spent.distinct first present second also same
      · exact absurd same (unused first present)
    · rcases mem_insert.mp other with also | rfl
      · exact absurd same.symm (unused second also)
      · rfl
  dead hash isDead found member same := by
    rcases mem_insert.mp member with present | rfl
    · exact spent.dead hash isDead found present same
    · exact absurd (same ▸ isDead) new
  used acceptance member := by
    obtain ⟨found, present, own⟩ := spent.used acceptance member
    refine ⟨found, ?_, own⟩
    exact mem_insert.mpr (.inl present)

theorem Spent.rehash (spent : Spent service tokens dead used) {row : AuthActionTokenRow}
    {change : AuthActionTokenRow → AuthActionTokenRow} (kept : ∀ row, (change row).id = row.id)
    (member : row ∈ tokens.rows) (pending : row.consumedAt = none)
    (new : (change row).tokenHash ∉ dead)
    (unused : ∀ other ∈ tokens.rows, other.tokenHash ≠ (change row).tokenHash) :
    Spent service (tokens.update row.id change kept) (hashesOf tokens row.id ++ dead) used := by
  have only : ∀ other ∈ tokens.rows, other.id = row.id → other = row :=
    fun other present same => eq_of_key present member same
  constructor
  · intro first one second two same
    rcases mem_update.mp one with ⟨before, present, own, rfl⟩ | ⟨present, differs⟩
    · obtain rfl := only before present own
      rcases mem_update.mp two with ⟨next, also, ownNext, rfl⟩ | ⟨also, _⟩
      · rw [only next also ownNext]
      · exact absurd same.symm (unused second also)
    · rcases mem_update.mp two with ⟨next, also, own, rfl⟩ | ⟨also, _⟩
      · obtain rfl := only next also own
        exact absurd same (unused first present)
      · exact spent.distinct first present second also same
  · intro hash isDead found present same
    rcases List.mem_append.mp isDead with replaced | earlier
    · obtain ⟨before, filtered, rfl⟩ := List.mem_map.mp replaced
      obtain ⟨old, own⟩ := List.mem_filter.mp filtered
      obtain rfl := only before old (by simpa using own)
      rcases mem_update.mp present with ⟨next, also, ownNext, rfl⟩ | ⟨also, differs⟩
      · rw [only next also ownNext] at same
        exact absurd same.symm (unused before old)
      · exact absurd (congrArg AuthActionTokenRow.id (spent.distinct found also before old same)) differs
    · rcases mem_update.mp present with ⟨next, also, own, rfl⟩ | ⟨also, _⟩
      · obtain rfl := only next also own
        exact absurd (same ▸ earlier) new
      · exact spent.dead hash earlier found also same
  · intro acceptance accepted
    obtain ⟨found, present, own, gone⟩ := spent.used acceptance accepted
    refine ⟨found, ?_, own, gone⟩
    apply mem_update.mpr
    refine .inr ⟨present, fun same => gone ?_⟩
    rw [only found present same]
    exact pending

theorem Spent.use (spent : Spent service tokens dead used) {acceptance : Acceptance}
    (spends : ∃ row ∈ tokens.rows, row.tokenHash = hashToken service acceptance.token ∧ row.consumedAt ≠ none) :
    Spent service tokens dead (acceptance :: used) where
  distinct := spent.distinct
  dead := spent.dead
  used found member := by
    rcases List.mem_cons.mp member with rfl | earlier
    · exact spends
    · exact spent.used found earlier

theorem Spent.consume (spent : Spent service tokens dead used) {wanted : String} {now : Int}
    {owner : AuthActionTokenRow → Option String} {kept : ∀ row : AuthActionTokenRow, row.id = row.id} :
    Spent service
      (tokens.update wanted (fun row => { row with consumedAt := some now, userId := owner row }) kept) dead used := by
  apply spent.modify
  · intro row
    split <;> rfl
  · intro row gone
    split
    · exact Option.some_ne_none now
    · exact gone

theorem spent_invite {state : InvitationWorld} {mail : InvitationMail} {call : AuthCall}
    {dto : CreateTenantInvitationDto}
    (spent : Spent service state.tables.actionTokens state.dead state.accepted)
    (genuine : Genuine service state (.invite mail call dto)) :
    let after := step service state (.invite mail call dto)
    Spent service after.tables.actionTokens after.dead after.accepted := by
  simp only [step]
  split
  · next response tables outcome =>
    obtain ⟨row, own, unused, fresh, rfl⟩ := inviteTenantUser_ok outcome
    have pendingGone : Spent service (state.tables.actionTokens.modify
        (consumePending service response.tenantId response.email call.now)
        (consumePending_id service response.tenantId response.email call.now)) state.dead state.accepted := by
      apply spent.modify
      · intro other
        unfold consumePending
        split <;> rfl
      · intro other gone
        unfold consumePending
        split
        · exact Option.some_ne_none call.now
        · exact gone
    refine (pendingGone.kill ?_).insert fresh ?_ ?_
    · intro hash superseded found member same
      obtain ⟨old, filtered, rfl⟩ := List.mem_map.mp superseded
      obtain ⟨present, invited⟩ := List.mem_filter.mp filtered
      obtain ⟨before, also, rfl⟩ := mem_modify.mp member
      rw [decide_eq_true_eq] at invited
      unfold consumePending at same ⊢
      split
      · exact Option.some_ne_none call.now
      · next other =>
        rw [if_neg other] at same
        obtain rfl := spent.distinct before also old present same
        exact fun pending => other ⟨invited, pending⟩
    · intro known
      rcases List.mem_append.mp known with superseded | earlier
      · obtain ⟨old, filtered, same⟩ := List.mem_map.mp superseded
        exact unused old (List.mem_filter.mp filtered).1 same
      · exact genuine.1 (own ▸ earlier)
    · intro other member
      obtain ⟨before, present, rfl⟩ := mem_modify.mp member
      have differs := unused before present
      unfold consumePending
      split
      · exact differs
      · exact differs
  · exact spent

theorem spent_resend {state : InvitationWorld} {mail : InvitationMail} {call : AuthCall} {invitationId : String}
    (spent : Spent service state.tables.actionTokens state.dead state.accepted)
    (genuine : Genuine service state (.resend mail call invitationId)) :
    let after := step service state (.resend mail call invitationId)
    Spent service after.tables.actionTokens after.dead after.accepted := by
  simp only [step]
  split
  · next response tables outcome =>
    obtain ⟨row, member, roleCode, rfl, pending, _, rfl⟩ := resendTenantInvitation_ok outcome
    exact @Spent.rehash _ _ _ _ spent row (resentInvitation service mail call roleCode) (fun _ => rfl) member pending
      genuine.1 genuine.2
  · exact spent

theorem spent_revoke {state : InvitationWorld} {call : AuthCall} {invitationId : String}
    (spent : Spent service state.tables.actionTokens state.dead state.accepted) :
    let after := step service state (.revoke call invitationId)
    Spent service after.tables.actionTokens after.dead after.accepted := by
  simp only [step]
  split
  · next response tables outcome =>
    obtain rfl := revokeTenantInvitation_ok outcome
    refine (@Spent.consume _ _ _ _ spent _ _ (·.userId) fun _ => rfl).kill ?_
    intro hash revoked found member same
    obtain ⟨old, filtered, rfl⟩ := List.mem_map.mp revoked
    obtain ⟨present, own⟩ := List.mem_filter.mp filtered
    rcases mem_update.mp member with ⟨_, _, _, rfl⟩ | ⟨also, differs⟩
    · exact Option.some_ne_none call.now
    · rw [spent.distinct found also old present same] at differs
      exact absurd (by simpa using own) differs
  · exact spent

theorem invitedUser_mem {db : AuthDb} {email : String} {user : UserEntity}
    (found : invitedUser service db email = some user) : user ∈ db.users.rows :=
  List.mem_of_find?_eq_some found

theorem acceptedUser_id (call : AuthCall) (draw : AcceptanceDraw) (row : AuthActionTokenRow) (db : AuthDb)
    (tenantId displayName : String) :
    (acceptedUser service call draw row tenantId displayName (invitedUser service db row.email)).id =
      accountId service db draw row.email := by
  unfold accountId
  cases invitedUser service db row.email <;> rfl

theorem enables_iff {call : AuthCall} {draw : AcceptanceDraw} {displayName : Option String}
    {row : AuthActionTokenRow} {tenantId : String} {role : RoleEntity} {tables : AuthTables}
    (allowed : assertAccount tables.auth draw (invitedUser service tables.auth row.email) = .ok ()) :
    enables tables.auth (acceptedTables service call draw displayName row tenantId role tables).auth = true ↔
      ∃ user, invitedUser service tables.auth row.email = some user ∧ user.status = .disabled := by
  simp only [enables, List.any_eq_true, decide_eq_true_eq, acceptedTables, find_put]
  constructor
  · rintro ⟨user, member, disabled, active⟩
    split at active
    · next same =>
      cases found : invitedUser service tables.auth row.email with
      | none =>
        rw [found] at same allowed
        simp only [assertAccount, Outcome.failIf_ok, not_not] at allowed
        have absent := (find_eq_none _).mp allowed user member
        exact absurd same absent
      | some other =>
        rw [found] at same
        have only : user = other := eq_of_key member (invitedUser_mem found) same
        exact ⟨other, rfl, only ▸ disabled⟩
    · rw [tables.auth.users.find_self member, Option.map_some, disabled] at active
      cases active
  · rintro ⟨user, found, disabled⟩
    refine ⟨user, invitedUser_mem found, disabled, ?_⟩
    rw [found]
    refine congrArg (Option.map _) (if_pos rfl) |>.trans ?_
    rw [Option.map_some, acceptedUser_status]

theorem reactivates_iff {overtaken : List (String × String)} {call : AuthCall} {draw : AcceptanceDraw}
    {displayName : Option String} {row : AuthActionTokenRow} {tenantId : String} {role : RoleEntity}
    {tables : AuthTables} (inTenant : row.tenantId = some tenantId) :
    reactivates overtaken row tables.auth
        (acceptedTables service call draw displayName row tenantId role tables).auth = true ↔
      (row.id, accountId service tables.auth draw row.email) ∈ overtaken ∧
        statusIn tables.auth tenantId (accountId service tables.auth draw row.email) = some .suspended := by
  have after : ∀ userId, statusIn (acceptedTables service call draw displayName row tenantId role tables).auth tenantId
      userId = if userId = accountId service tables.auth draw row.email then some .active
        else statusIn tables.auth tenantId userId := by
    intro userId
    simp only [statusIn, acceptedTables, find_put, acceptedMembership_key, acceptedUser_id, Prod.mk.injEq,
      true_and]
    split
    · rw [Option.map_some, acceptedMembership_status]
    · rfl
  simp only [reactivates, List.any_eq_true, decide_eq_true_eq, inTenant, Option.mem_some_iff, exists_eq_left', after]
  constructor
  · rintro ⟨⟨invitationId, userId⟩, member, rfl, suspended, active⟩
    split at active
    · next same => exact ⟨same ▸ member, same ▸ suspended⟩
    · rw [suspended] at active
      cases active
  · rintro ⟨member, suspended⟩
    exact ⟨_, member, rfl, suspended, if_pos rfl⟩

structure Inv (service : AuthService) (state : InvitationWorld) : Prop where
  spent : Spent service state.tables.actionTokens state.dead state.accepted
  honored : Honored state

variable {state : InvitationWorld}

theorem acceptance_valid (inv : Inv service state) {call : AuthCall} {draw : AcceptanceDraw}
    {dto : AcceptInvitationDto} {row : AuthActionTokenRow}
    (found : presented service state.tables call dto = some row) (displayName : Option String) (tenantId : String)
    (role : RoleEntity) :
    let tables := acceptedTables service call draw displayName row tenantId role state.tables
    let own := acceptance service state call dto tables.auth
    Spent service tables.actionTokens state.dead (own :: state.accepted) ∧
      own.token ∉ state.accepted.map (·.token) ∧ own.invalidated = false := by
  obtain ⟨member, hash, _, pending, _⟩ := openAction_eq_some found
  have spent := @Spent.consume _ _ _ _ inv.spent row.id call.now
    (fun _ => some (acceptedUser service call draw row tenantId (inviteDisplayName row displayName)
      (invitedUser service state.tables.auth row.email)).id) fun _ => rfl
  refine ⟨spent.use ?_, ?_, ?_⟩
  · exact ⟨_, mem_update.mpr (.inl ⟨row, member, rfl, rfl⟩), hash, Option.some_ne_none call.now⟩
  · intro again
    obtain ⟨earlier, accepted, same⟩ := List.mem_map.mp again
    obtain ⟨other, present, own, gone⟩ := inv.spent.used earlier accepted
    have only : other = row := by
      apply inv.spent.distinct other present row member
      rw [own, hash, same]
      rfl
    exact gone (only ▸ pending)
  · apply decide_eq_false
    intro isDead
    exact inv.spent.dead _ isDead row member hash pending

theorem standing_iff {call : AuthCall} {draw : AcceptanceDraw} {dto : AcceptInvitationDto}
    {response : InvitationAcceptanceResponseDto} {tables : AuthTables}
    (succeeded : (acceptInvitation service call draw dto).run state.tables = .ok (response, tables)) :
    Standing service state (.accept call draw dto) ↔
      (acceptance service state call dto tables.auth).reactivates = false ∧
        (acceptance service state call dto tables.auth).enables = false := by
  obtain ⟨row, tenantId, role, found, inTenant, allowed, rfl⟩ := acceptInvitation_ok succeeded
  have presents : presented service state.tables call dto = some row := found
  simp only [acceptance, presents, Option.any_some, Bool.eq_false_iff, ne_eq, reactivates_iff inTenant,
    enables_iff allowed]
  constructor
  · intro standing
    obtain ⟨able, kept⟩ := standing _ _ succeeded row found
    exact ⟨fun ⟨overtaken, suspended⟩ => kept tenantId inTenant overtaken suspended,
      fun ⟨user, own, disabled⟩ => able user own disabled⟩
  · rintro ⟨kept, able⟩ _ _ _ other same
    obtain rfl := Option.some.inj (presents.symm.trans same)
    refine ⟨fun user own disabled => able ⟨user, own, disabled⟩, ?_⟩
    intro otherTenant named overtaken suspended
    obtain rfl := Option.some.inj (inTenant.symm.trans named)
    exact kept ⟨overtaken, suspended⟩

theorem inv_accept (inv : Inv service state) {call : AuthCall} {draw : AcceptanceDraw} {dto : AcceptInvitationDto}
    (standing : Standing service state (.accept call draw dto)) :
    Inv service (step service state (.accept call draw dto)) := by
  simp only [step]
  split
  · next response tables succeeded =>
    obtain ⟨kept, able⟩ := (standing_iff succeeded).mp standing
    obtain ⟨row, tenantId, role, found, _, _, rfl⟩ := acceptInvitation_ok succeeded
    obtain ⟨spent, new, valid⟩ := acceptance_valid inv found (nonEmpty (dto.displayName.map JsText.trim)) tenantId role
    refine ⟨spent, List.nodup_cons.mpr ⟨new, inv.honored.once⟩, ?_, ?_, ?_⟩
    · exact List.forall_mem_cons.mpr ⟨valid, inv.honored.valid⟩
    · exact List.forall_mem_cons.mpr ⟨kept, inv.honored.suspended⟩
    · exact List.forall_mem_cons.mpr ⟨able, inv.honored.disabled⟩
  · exact inv

theorem unstanding_accept {call : AuthCall} {draw : AcceptanceDraw} {dto : AcceptInvitationDto}
    (fallen : ¬ Standing service state (.accept call draw dto)) :
    ¬ Honored (step service state (.accept call draw dto)) := by
  cases outcome : (acceptInvitation service call draw dto).run state.tables with
  | error error =>
    refine absurd ?_ fallen
    intro response after succeeded
    rw [outcome] at succeeded
    cases succeeded
  | ok answer =>
    simp only [step, outcome]
    rintro ⟨_, _, suspended, disabled⟩
    exact fallen ((standing_iff outcome).mpr
      ⟨suspended _ List.mem_cons_self, disabled _ List.mem_cons_self⟩)

theorem Honored.of_accepted (honored : Honored state) {after : InvitationWorld}
    (same : after.accepted = state.accepted) : Honored after where
  once := same ▸ honored.once
  valid := same ▸ honored.valid
  suspended := same ▸ honored.suspended
  disabled := same ▸ honored.disabled

theorem inv_step (inv : Inv service state) {event : InvitationEvent} (genuine : Genuine service state event)
    (standing : Standing service state event) : Inv service (step service state event) := by
  cases event with
  | invite mail call dto =>
    refine ⟨spent_invite inv.spent genuine, ?_⟩
    apply inv.honored.of_accepted
    simp only [step]
    split <;> rfl
  | resend mail call invitationId =>
    refine ⟨spent_resend inv.spent genuine, ?_⟩
    apply inv.honored.of_accepted
    simp only [step]
    split <;> rfl
  | revoke call invitationId =>
    refine ⟨spent_revoke inv.spent, ?_⟩
    apply inv.honored.of_accepted
    simp only [step]
    split <;> rfl
  | accept call draw dto => exact inv_accept inv standing
  | updateStatus call membershipId status =>
    simp only [step]
    split
    · exact ⟨inv.spent, inv.honored.of_accepted rfl⟩
    · exact inv

theorem inv_opened {tables : AuthTables} (distinct : DistinctHashes tables.actionTokens) :
    Inv service (opened tables) where
  spent := ⟨distinct, fun _ member => absurd member List.not_mem_nil, fun _ member => absurd member List.not_mem_nil⟩
  honored := ⟨List.nodup_nil, fun _ member => absurd member List.not_mem_nil,
    fun _ member => absurd member List.not_mem_nil, fun _ member => absurd member List.not_mem_nil⟩

end InvitationRuns

/-- Every token is accepted at most once and never after it was revoked, replaced or superseded, and no acceptance
makes a membership active again that was suspended since or enables a disabled user, in every state of a run,
exactly when each acceptance that succeeds finds neither. -/
theorem invitations_are_honored_iff_accounts_stand (service : AuthService) {tables : AuthTables}
    {events : List InvitationEvent} (distinct : InvitationRuns.DistinctHashes tables.actionTokens)
    (genuine : Meets (InvitationRuns.step service) (InvitationRuns.Genuine service) (InvitationRuns.opened tables)
      events) :
    Along (InvitationRuns.step service) InvitationRuns.Honored (InvitationRuns.opened tables) events ↔
      Meets (InvitationRuns.step service) (InvitationRuns.Standing service) (InvitationRuns.opened tables) events := by
  have initial : InvitationRuns.Inv service (InvitationRuns.opened tables) := InvitationRuns.inv_opened distinct
  refine along_iff_meets_of_each ?_ ?_ ?_ initial genuine
  · intro state event inv own standing
    exact InvitationRuns.inv_step inv own standing
  · intro state inv
    exact inv.honored
  · intro state event _ _ fallen
    cases event with
    | accept call draw dto => exact InvitationRuns.unstanding_accept fallen
    | _ => exact absurd trivial fallen

namespace InvitationRuns

def officeCall : AuthCall where
  userId := "user-9"
  tenantId := some "lakeside"
  role := some "admin"
  path := "/auth/tenant-users"
  now := 1000
  sessionId := "session-9"
  draw := ⟨1000, "access-9", "refresh-9"⟩
  metadata := ⟨none, none⟩

def acceptCall : AuthCall :=
  { officeCall with
    userId := "anonymous"
    path := "/auth/invitations/accept"
    now := 2000 }

def officeService : AuthService where
  config :=
    { tokens := ⟨900, 2592000⟩
      systemOwnerEmail := none
      mfaService := true
      trustedDeviceService := false
      rowLevelSecurity := true }
  runtime := ⟨id, fun password hash => password = hash, id⟩
  authorization := ⟨[⟨"role-2", "lakeside", "teacher", "Teacher"⟩], []⟩

def teacher (status : UserStatus) : UserEntity where
  id := "user-2"
  tenantId := "hilltop"
  email := "teacher@example.org"
  passwordHash := "open sesame"
  displayName := "Amina"
  userType := .member
  status
  emailVerifiedAt := some 0
  mfaEnabled := false

def tablesWith (status : UserStatus) : AuthTables where
  auth := ⟨⟨[teacher status], by simp⟩, .empty, .empty, []⟩
  actionTokens := .empty

def teacherInvite : InvitationEvent :=
  .invite ⟨true, 600000, "invite-token", "invitation-1", .ok ()⟩ officeCall
    ⟨"teacher@example.org", "Amina", "teacher"⟩

def teacherAccept : InvitationEvent :=
  .accept acceptCall ⟨"a new hash", "user-3", "membership-3"⟩ ⟨"invite-token", "a new password", none⟩

end InvitationRuns

open InvitationRuns in
theorem active_teacher_accepts_invitation :
    Along (step officeService) Honored (opened (tablesWith .active)) [teacherInvite, teacherAccept] := by
  have distinct : DistinctHashes (tablesWith .active).actionTokens := fun _ member => absurd member List.not_mem_nil
  have genuine : Meets (step officeService) (Genuine officeService) (opened (tablesWith .active))
      [teacherInvite, teacherAccept] :=
    ⟨⟨List.not_mem_nil, fun _ member => absurd member List.not_mem_nil⟩, trivial, trivial⟩
  apply (invitations_are_honored_iff_accounts_stand officeService distinct genuine).mpr
  refine ⟨trivial, ?_, trivial⟩
  intro response after succeeded row found
  have active : ∀ user ∈ (step officeService (opened (tablesWith .active)) teacherInvite).tables.auth.users.rows,
      user.status ≠ .disabled := by decide +kernel
  constructor
  · intro user known
    exact active user (invitedUser_mem known)
  · intro tenantId inTenant overtaken
    have none : (step officeService (opened (tablesWith .active)) teacherInvite).overtaken = [] := by decide +kernel
    rw [none] at overtaken
    cases overtaken

open InvitationRuns in
/-- A disabled user accepts an invitation of another school and is active from then on. -/
theorem invitation_enables_disabled_user :
    ¬ Along (step officeService) Honored (opened (tablesWith .disabled)) [teacherInvite, teacherAccept] := by
  rintro ⟨_, _, honored⟩
  have enabling : ∃ acceptance ∈ (run (step officeService) (opened (tablesWith .disabled))
      [teacherInvite, teacherAccept]).accepted, acceptance.enables = true := by
    decide +kernel
  obtain ⟨acceptance, member, enables⟩ := enabling
  have kept := honored.disabled acceptance member
  rw [enables] at kept
  cases kept

end ShuleHub.Auth
