import ShuleHub.TenantFinance.MpesaConfigs

/-! The numbers of M-PESA configurations under upserts of all schools: when each belongs to one school and keeps
resolving to it. -/

namespace ShuleHub.TenantFinance

open Transaction Runs KeyedTable

variable (db : TenantFinanceDb)

def upsert (call : MpesaConfigCall) : TenantFinanceDb := commit (upsertMpesaConfig call) db

def resolvedTenant (settings : MpesaSettings) (shortcode : String) (db : TenantFinanceDb) : Option String :=
  (resolveMpesaConfigByShortcode settings shortcode db).toOption.map (·.tenantId)

def Owns (tenantId number : String) (db : TenantFinanceDb) : Prop :=
  ∃ config ∈ db.mpesaConfigs.rows, config.tenantId = tenantId ∧ isActiveFor number config
deriving Decidable

def ExclusiveNumbers : Prop :=
  ∀ number first second, Owns first number db → Owns second number db → first = second

/-- A number that resolves to a tenant does so for as long as the tenant has it. -/
def KeepsResolving (settings : MpesaSettings) (start : TenantFinanceDb) (calls : List MpesaConfigCall) : Prop :=
  ∀ first second : List MpesaConfigCall, first ++ second <+: calls → ∀ shortcode tenantId,
    resolvedTenant settings shortcode (run upsert start first) = some tenantId →
      Along upsert (Owns tenantId (JsText.trim shortcode)) (run upsert start first) second →
        resolvedTenant settings shortcode (run upsert start (first ++ second)) = some tenantId

def numbers (config : TenantMpesaConfig) : List String :=
  config.shortcode :: (config.paybillNumber.toList ++ config.tillNumber.toList)

/-- An upsert that the constraints admit and that leaves its row active takes no number of another tenant's. -/
def TakesFreeNumbers (call : MpesaConfigCall) : Prop :=
  checkMpesaConfig (call.row db) db = .ok () → (call.row db).status = .active →
    ∀ other ∈ db.mpesaConfigs.rows, other.tenantId ≠ call.tenantId → other.status = .active →
      ∀ number ∈ numbers (call.row db), number ∉ numbers other
deriving Decidable

section Numbers

variable {settings : MpesaSettings} {db : TenantFinanceDb} {call : MpesaConfigCall} {number : String}
  {tenantId shortcode : String}

theorem mem_numbers {config : TenantMpesaConfig} : number ∈ numbers config ↔ contains number config := by
  simp [numbers, contains, eq_comm]

theorem findActiveMpesaConfigByShortcode_owner (exclusive : ExclusiveNumbers db)
    (owns : Owns tenantId number db) :
    ∃ config, findActiveMpesaConfigByShortcode number db = some config ∧ config.tenantId = tenantId := by
  obtain ⟨own, member, tenant, active⟩ := owns
  have listed : own ∈ (db.mpesaConfigs.rows.filter fun config => isActiveFor number config).insertionSort isNewer :=
    (List.mem_insertionSort _).mpr (List.mem_filter.mpr ⟨member, decide_eq_true active⟩)
  cases found : findActiveMpesaConfigByShortcode number db with
  | none =>
    rw [List.head?_eq_none_iff.mp found] at listed
    exact absurd listed List.not_mem_nil
  | some config =>
    have chosen := (List.mem_insertionSort _).mp (List.mem_of_head? found)
    obtain ⟨present, matching⟩ := List.mem_filter.mp chosen
    refine ⟨config, rfl, ?_⟩
    exact exclusive number _ _ ⟨config, present, rfl, of_decide_eq_true matching⟩ ⟨own, member, tenant, active⟩

theorem resolvedTenant_of_owner (exclusive : ExclusiveNumbers db)
    (named : JsText.trim shortcode ≠ "") (owns : Owns tenantId (JsText.trim shortcode) db) :
    resolvedTenant settings shortcode db = some tenantId := by
  obtain ⟨config, found, tenant⟩ := findActiveMpesaConfigByShortcode_owner exclusive owns
  have resolves : resolveMpesaConfigByShortcode settings shortcode db = .ok (resolved settings config db) := by
    simp only [resolveMpesaConfigByShortcode, Outcome.bind_ok, Outcome.failIf_ok, found, Outcome.pure_ok]
    exact ⟨(), named, trivial⟩
  rw [resolvedTenant, resolves]
  exact congrArg some tenant

theorem named_of_resolvedTenant
    (resolves : resolvedTenant settings shortcode db = some tenantId) : JsText.trim shortcode ≠ "" := by
  intro blank
  rw [resolvedTenant, resolveMpesaConfigByShortcode, failIf, if_pos blank] at resolves
  cases resolves

theorem upsert_cases (db : TenantFinanceDb) (call : MpesaConfigCall) :
    checkMpesaConfig (call.row db) db ≠ .ok () ∧ upsert db call = db ∨
      checkMpesaConfig (call.row db) db = .ok () ∧
        (upsert db call).mpesaConfigs = db.mpesaConfigs.put (call.row db) := by
  have ran := upsertMpesaConfig_run call db
  cases checked : checkMpesaConfig (call.row db) db with
  | error error =>
    rw [checked] at ran
    exact .inl ⟨nofun, commit_of_error ran⟩
  | ok _ =>
    rw [checked] at ran
    obtain ⟨after, succeeded, stored, -⟩ := ran
    refine .inr ⟨rfl, ?_⟩
    rw [upsert, commit_of_ok succeeded]
    exact stored

theorem owns_put {row : TenantMpesaConfig} {after : TenantFinanceDb}
    (stored : after.mpesaConfigs = db.mpesaConfigs.put row) (owns : Owns tenantId number after) :
    row.tenantId = tenantId ∧ isActiveFor number row ∨ Owns tenantId number db := by
  obtain ⟨config, member, tenant, active⟩ := owns
  rw [stored] at member
  rcases mem_put.mp member with rfl | ⟨old, -⟩
  · exact .inl ⟨tenant, active⟩
  · exact .inr ⟨config, old, tenant, active⟩

theorem upsert_exclusive (exclusive : ExclusiveNumbers db) (free : TakesFreeNumbers db call) :
    ExclusiveNumbers (upsert db call) := by
  rcases upsert_cases db call with ⟨-, same⟩ | ⟨checked, stored⟩
  · rw [same]
    exact exclusive
  · have apart {number tenantId : String} (active : isActiveFor number (call.row db)) (owns : Owns tenantId number db) :
        tenantId = call.tenantId := by
      obtain ⟨config, member, tenant, theirs⟩ := owns
      by_contra differs
      have other : config.tenantId ≠ call.tenantId := fun same => differs (tenant.symm.trans same)
      exact free checked active.1 config member other theirs.1 number (mem_numbers.mpr active.2)
        (mem_numbers.mpr theirs.2)
    intro number first second firstOwns secondOwns
    rcases owns_put stored firstOwns with ⟨firstRow, firstActive⟩ | firstOld
    · rcases owns_put stored secondOwns with ⟨secondRow, -⟩ | secondOld
      · exact firstRow.symm.trans secondRow
      · exact firstRow.symm.trans (apart firstActive secondOld).symm
    · rcases owns_put stored secondOwns with ⟨secondRow, secondActive⟩ | secondOld
      · exact (apart secondActive firstOld).trans secondRow
      · exact exclusive number first second firstOld secondOld

theorem upsert_not_exclusive (taken : ¬ TakesFreeNumbers db call) : ¬ ExclusiveNumbers (upsert db call) := by
  intro exclusive
  simp only [TakesFreeNumbers, Classical.not_imp, not_forall, not_not] at taken
  obtain ⟨checked, active, other, member, differs, theirs, number, own, shared⟩ := taken
  rcases upsert_cases db call with ⟨refused, -⟩ | ⟨-, stored⟩
  · exact refused checked
  · have ours : Owns call.tenantId number (upsert db call) := by
      refine ⟨call.row db, ?_, rfl, active, mem_numbers.mp own⟩
      rw [stored]
      exact mem_put.mpr (.inl rfl)
    have others : Owns other.tenantId number (upsert db call) := by
      refine ⟨other, ?_, rfl, theirs, mem_numbers.mp shared⟩
      rw [stored]
      exact mem_put.mpr (.inr ⟨member, fun same => differs (congrArg Prod.fst same)⟩)
    exact differs (exclusive number _ _ others ours)

end Numbers

theorem keepsResolving_of_exclusive (settings : MpesaSettings) {start : TenantFinanceDb} {calls : List MpesaConfigCall}
    (exclusive : Along upsert ExclusiveNumbers start calls) : KeepsResolving settings start calls := by
  intro first second earlier shortcode tenantId resolves owns
  obtain ⟨rest, rfl⟩ := earlier
  have last := run_of_along owns
  rw [← run_append] at last
  exact resolvedTenant_of_owner (run_of_along (along_append.mp exclusive).1) (named_of_resolvedTenant resolves) last

/-- Numbers stay with one tenant, and keep resolving to it, exactly in the runs whose upserts take free numbers. -/
theorem numbers_exclusive_iff (settings : MpesaSettings) (start : TenantFinanceDb) (calls : List MpesaConfigCall)
    (exclusive : ExclusiveNumbers start) :
    Along upsert ExclusiveNumbers start calls ∧ KeepsResolving settings start calls ↔
      Meets upsert TakesFreeNumbers start calls := by
  have exact_ : Along upsert ExclusiveNumbers start calls ↔ Meets upsert TakesFreeNumbers start calls :=
    along_iff_meets (fun _ _ exclusive free => upsert_exclusive exclusive free) (fun _ exclusive => exclusive)
      (fun _ _ _ taken => upsert_not_exclusive taken) calls exclusive
  constructor
  · intro law
    exact exact_.mp law.1
  · intro free
    exact ⟨exact_.mpr free, keepsResolving_of_exclusive settings (exact_.mpr free)⟩

def noSettings : MpesaSettings := ⟨none, none, none, none, none⟩

def noConfigs : TenantFinanceDb := ⟨.empty, .empty, []⟩

theorem noConfigs_exclusive : ExclusiveNumbers noConfigs :=
  fun _ _ _ ⟨_, member, _⟩ => absurd member List.not_mem_nil

def paybillConfig (tenantId shortcode paybillNumber : String) : MpesaConfigCall where
  tenantId
  now := 0
  newConfigId := "config-" ++ tenantId
  newChannelId := "channel-" ++ tenantId
  dto :=
    { shortcode
      paybillNumber := some paybillNumber
      tillNumber := none
      consumerKey := "consumer-key"
      consumerSecret := "consumer-secret"
      passkey := "passkey-"
      initiatorName := none
      environment := .production
      callbackUrl := "https://school.example/mpesa"
      status := none
      mpesaClearingAccountCode := none
      feeControlAccountCode := none }

/-- The unique index refuses the shortcode of another school. -/
theorem numbers_exclusive_refused :
    Along upsert ExclusiveNumbers noConfigs
        [paybillConfig "school-a" "600001" "700001", paybillConfig "school-b" "600001" "700002"] ∧
      KeepsResolving noSettings noConfigs
        [paybillConfig "school-a" "600001" "700001", paybillConfig "school-b" "600001" "700002"] :=
  (numbers_exclusive_iff noSettings noConfigs _ noConfigs_exclusive).mpr (by decide +kernel)

/-- No index covers the paybill: another school stores the same one under a shortcode of its own. -/
theorem paybill_taken_over :
    ¬ ∀ (settings : MpesaSettings) (start : TenantFinanceDb) (calls : List MpesaConfigCall), ExclusiveNumbers start →
      Along upsert ExclusiveNumbers start calls ∧ KeepsResolving settings start calls := by
  intro always
  let calls := [paybillConfig "school-a" "600001" "700001", paybillConfig "school-b" "600002" "700001"]
  obtain ⟨exclusive, -⟩ := always noSettings noConfigs calls noConfigs_exclusive
  have shared : Owns "school-a" "700001" (run upsert noConfigs calls) ∧
      Owns "school-b" "700001" (run upsert noConfigs calls) := by decide +kernel
  exact absurd (run_of_along exclusive "700001" "school-a" "school-b" shared.1 shared.2) (by decide)

end ShuleHub.TenantFinance
