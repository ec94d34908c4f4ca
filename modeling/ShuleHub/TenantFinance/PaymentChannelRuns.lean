import ShuleHub.TenantFinance.ShortcodeRuns

/-! The payment channels of M-PESA configurations under upserts and status updates: when each configuration has one, with
the status that was set last. -/

namespace ShuleHub.TenantFinance

open Transaction Runs KeyedTable

def isChannelOf (tenantId mpesaConfigId : String) (channel : TenantPaymentChannel) : Prop :=
  channel.tenantId = tenantId ∧ channel.mpesaConfigId = mpesaConfigId
deriving Decidable

def channelsOf (tenantId mpesaConfigId : String) (channels : List TenantPaymentChannel) : List TenantPaymentChannel :=
  channels.filter fun channel => isChannelOf tenantId mpesaConfigId channel

structure ChannelStatusUpdate where
  tenantId : String
  channelId : String
  status : PaymentChannelStatus
  now : Int

def ChannelStatusUpdate.concerns (change : ChannelStatusUpdate) (channel : TenantPaymentChannel) : Prop :=
  channel.tenantId = change.tenantId ∧ channel.id = change.channelId
deriving Decidable

def ChannelStatusUpdate.apply (change : ChannelStatusUpdate) (channel : TenantPaymentChannel) : TenantPaymentChannel :=
  if change.concerns channel then { channel with status := change.status, updatedAt := change.now } else channel

def OneActiveEach (channels : List TenantPaymentChannel) : Prop :=
  ∀ channel ∈ channels,
    ((channelsOf channel.tenantId channel.mpesaConfigId channels).filter (·.status = .active)).length ≤ 1
deriving Decidable

def updatePaymentChannelStatus (change : ChannelStatusUpdate) (channels : List TenantPaymentChannel) :
    Except Exception (List TenantPaymentChannel) := do
  failIf (¬ OneActiveEach (channels.map change.apply)) (.database "ux_tenant_payment_channels_active_mpesa_config")
  return channels.map change.apply

inductive ChannelEvent where
  | upsert (call : MpesaConfigCall)
  | updateStatus (change : ChannelStatusUpdate)

/-- The tables, the status that was set last for each configuration of a tenant, and whether the index has refused any. -/
structure ChannelWorld where
  db : TenantFinanceDb
  latest : String × String → Option PaymentChannelStatus
  refused : Bool

def applyChannelEvent (world : ChannelWorld) : ChannelEvent → ChannelWorld
  | .upsert call =>
    match checkMpesaConfig (call.row world.db) world.db with
    | .ok () =>
      { world with
        db := upsert world.db call
        latest := Function.update world.latest (call.tenantId, (call.row world.db).id)
          (some (mpesaChannel call (call.row world.db)).status) }
    | .error _ => world
  | .updateStatus change =>
    match updatePaymentChannelStatus change world.db.paymentChannels with
    | .ok paymentChannels =>
      { world with
        db := { world.db with paymentChannels }
        latest key :=
          if ∃ channel ∈ channelsOf key.1 key.2 world.db.paymentChannels, change.concerns channel then some change.status
          else world.latest key }
    | .error _ => { world with refused := true }

/-- Each configuration has one channel, with the status that was set last, and no call has failed on the index. -/
structure OneChannelEach (world : ChannelWorld) : Prop where
  single : ∀ config ∈ world.db.mpesaConfigs.rows, ∃ channel,
    channelsOf config.tenantId config.id world.db.paymentChannels = [channel] ∧
      world.latest (config.tenantId, config.id) = some channel.status
  unrefused : world.refused = false

section Steps

variable {channels : List TenantPaymentChannel} {channel : TenantPaymentChannel} {tenantId mpesaConfigId : String}
  {world : ChannelWorld}

theorem mem_channelsOf :
    channel ∈ channelsOf tenantId mpesaConfigId channels ↔ channel ∈ channels ∧ isChannelOf tenantId mpesaConfigId channel := by
  rw [channelsOf, List.mem_filter, decide_eq_true_eq]

theorem channelsOf_map {change : TenantPaymentChannel → TenantPaymentChannel}
    (kept : ∀ channel, isChannelOf tenantId mpesaConfigId (change channel) ↔ isChannelOf tenantId mpesaConfigId channel) :
    channelsOf tenantId mpesaConfigId (channels.map change) = (channelsOf tenantId mpesaConfigId channels).map change := by
  simp only [channelsOf, List.filter_map, Function.comp_def, kept]

theorem isChannelOf_ensured (other : TenantPaymentChannel) :
    isChannelOf tenantId mpesaConfigId (if conflictsWith channel other then { channel with id := other.id } else other) ↔
      isChannelOf tenantId mpesaConfigId other := by
  split
  · next conflicts =>
    obtain ⟨-, sameTenant, sameConfig, -⟩ := conflicts
    rw [isChannelOf, isChannelOf, sameTenant, sameConfig]
  · rfl

theorem channelsOf_ensured_own : channelsOf channel.tenantId channel.mpesaConfigId (ensuredChannels channel channels) =
    ensuredChannels channel (channelsOf channel.tenantId channel.mpesaConfigId channels) := by
  have same : (∃ other ∈ channelsOf channel.tenantId channel.mpesaConfigId channels, conflictsWith channel other) ↔
      ∃ other ∈ channels, conflictsWith channel other := by
    constructor
    · rintro ⟨other, member, conflicts⟩
      exact ⟨other, (mem_channelsOf.mp member).1, conflicts⟩
    · rintro ⟨other, member, conflicts⟩
      exact ⟨other, mem_channelsOf.mpr ⟨member, conflicts.2.1, conflicts.2.2.1⟩, conflicts⟩
  rw [ensuredChannels, ensuredChannels, apply_ite (channelsOf _ _), channelsOf_map isChannelOf_ensured]
  simp only [same]
  simp [channelsOf, List.filter_append, isChannelOf]

theorem channelsOf_ensured_other (other : ¬ isChannelOf tenantId mpesaConfigId channel) :
    channelsOf tenantId mpesaConfigId (ensuredChannels channel channels) = channelsOf tenantId mpesaConfigId channels := by
  rw [ensuredChannels, apply_ite (channelsOf _ _), channelsOf_map isChannelOf_ensured]
  split
  · rw [List.map_congr_left (g := id), List.map_id]
    intro old member
    obtain ⟨-, sameTenant, sameConfig⟩ := mem_channelsOf.mp member
    exact if_neg fun conflicts => other ⟨conflicts.2.1.symm.trans sameTenant, conflicts.2.2.1.symm.trans sameConfig⟩
  · simp [channelsOf, List.filter_append, other]

/-- An upsert finds no channel, or it is active and leaves the only one active, as it was. -/
@[grind =] def FindsOneActive (channel : TenantPaymentChannel) : List TenantPaymentChannel → Prop
  | [] => True
  | [old] => old.status = .active ∧ channel.status = .active
  | _ => False

/-- What is ensured beside the channels of a configuration is one channel in these cases only. -/
theorem ensured_single_iff (own : ∀ old ∈ channels, isChannelOf channel.tenantId channel.mpesaConfigId old) :
    (∃ single, ensuredChannels channel channels = [single] ∧ channel.status = single.status) ↔
      FindsOneActive channel channels := by
  rcases channels with _ | ⟨old, _ | ⟨other, others⟩⟩
  · simp [ensuredChannels, FindsOneActive]
  · have conflict : conflictsWith channel old ↔ old.status = .active ∧ channel.status = .active := by
      obtain ⟨sameTenant, sameConfig⟩ := own old (List.mem_singleton_self old)
      simp [conflictsWith, isActiveChannelOf, sameTenant, sameConfig, and_comm]
    by_cases both : conflictsWith channel old
    · simp [ensuredChannels, both, FindsOneActive, conflict.mp both]
    · simp [ensuredChannels, both, FindsOneActive, ← conflict]
  · have longer : 2 ≤ (ensuredChannels channel (old :: other :: others)).length := by
      unfold ensuredChannels
      split <;> simp
    constructor
    · rintro ⟨single, ensured, -⟩
      rw [ensured] at longer
      exact absurd longer (Nat.lt_irrefl 1)
    · exact False.elim

theorem ensured_own_iff : (∃ single, channelsOf channel.tenantId channel.mpesaConfigId
      (ensuredChannels channel channels) = [single] ∧ channel.status = single.status) ↔
    FindsOneActive channel (channelsOf channel.tenantId channel.mpesaConfigId channels) := by
  rw [channelsOf_ensured_own]
  exact ensured_single_iff fun _ member => (mem_channelsOf.mp member).2

theorem mem_ensured {other : TenantPaymentChannel} (member : other ∈ ensuredChannels channel channels) :
    isChannelOf channel.tenantId channel.mpesaConfigId other ∨
      ∃ old ∈ channels, old.tenantId = other.tenantId ∧ old.mpesaConfigId = other.mpesaConfigId := by
  unfold ensuredChannels at member
  split at member
  · obtain ⟨old, present, rfl⟩ := List.mem_map.mp member
    split
    · exact .inl ⟨rfl, rfl⟩
    · exact .inr ⟨old, present, rfl, rfl⟩
  · rcases List.mem_append.mp member with old | new
    · exact .inr ⟨other, old, rfl, rfl⟩
    · rw [List.mem_singleton.mp new]
      exact .inl ⟨rfl, rfl⟩

/-- An upsert finds no channel of its configuration, or leaves the only one active, as it was. -/
def FindsActiveChannel (world : ChannelWorld) : ChannelEvent → Prop
  | .upsert call =>
    checkMpesaConfig (call.row world.db) world.db = .ok () →
      FindsOneActive (mpesaChannel call (call.row world.db))
        (channelsOf (call.row world.db).tenantId (call.row world.db).id world.db.paymentChannels)
  | .updateStatus _ => True

def Owned (db : TenantFinanceDb) : Prop :=
  ∀ channel ∈ db.paymentChannels, ∃ config ∈ db.mpesaConfigs.rows, isChannelOf config.tenantId config.id channel

theorem upsert_run {call : MpesaConfigCall} {db : TenantFinanceDb} (checked : checkMpesaConfig (call.row db) db = .ok ()) :
    (upsert db call).mpesaConfigs = db.mpesaConfigs.put (call.row db) ∧
      (upsert db call).paymentChannels = ensuredChannels (mpesaChannel call (call.row db)) db.paymentChannels := by
  have ran := upsertMpesaConfig_run call db
  rw [checked] at ran
  obtain ⟨after, succeeded, stored⟩ := ran
  rw [upsert, commit_of_ok succeeded]
  exact stored

theorem key_of_id {call : MpesaConfigCall} {db : TenantFinanceDb} {config : TenantMpesaConfig}
    (checked : checkMpesaConfig (call.row db) db = .ok ()) (member : config ∈ db.mpesaConfigs.rows)
    (same : config.id = (call.row db).id) : (config.tenantId, config.shortcode) = (call.tenantId, call.dto.shortcode) := by
  simp only [checkMpesaConfig, Outcome.bind_ok, Outcome.failIf_ok] at checked
  obtain ⟨-, -, -, -, -, -, -, ids, -⟩ := checked
  by_contra differs
  exact ids ⟨config, member, same, differs⟩

theorem id_of_key {call : MpesaConfigCall} {db : TenantFinanceDb} {config : TenantMpesaConfig}
    (member : config ∈ db.mpesaConfigs.rows)
    (same : (config.tenantId, config.shortcode) = (call.tenantId, call.dto.shortcode)) : (call.row db).id = config.id := by
  have found := find_self _ member
  rw [same] at found
  simp [MpesaConfigCall.row, found]

theorem upsert_owned {call : MpesaConfigCall} (owned : Owned world.db)
    (checked : checkMpesaConfig (call.row world.db) world.db = .ok ()) : Owned (upsert world.db call) := by
  obtain ⟨configs, ensured⟩ := upsert_run checked
  intro channel member
  rw [ensured] at member
  rw [configs]
  rcases mem_ensured member with own | ⟨old, present, sameTenant, sameConfig⟩
  · exact ⟨call.row world.db, mem_put.mpr (.inl rfl), own⟩
  · obtain ⟨config, listed, tenant, id⟩ := owned old present
    by_cases same : (config.tenantId, config.shortcode) = (call.tenantId, call.dto.shortcode)
    · refine ⟨call.row world.db, mem_put.mpr (.inl rfl), ?_⟩
      exact ⟨sameTenant.symm.trans (tenant.trans (Prod.mk.inj same).1),
        sameConfig.symm.trans (id.trans (id_of_key listed same).symm)⟩
    · exact ⟨config, mem_put.mpr (.inr ⟨listed, same⟩), sameTenant ▸ tenant, sameConfig ▸ id⟩

theorem upsert_single {call : MpesaConfigCall} (each : OneChannelEach world)
    (checked : checkMpesaConfig (call.row world.db) world.db = .ok ())
    (finds : FindsActiveChannel world (.upsert call)) : OneChannelEach (applyChannelEvent world (.upsert call)) := by
  obtain ⟨configs, ensured⟩ := upsert_run checked
  simp only [applyChannelEvent, checked]
  refine ⟨?_, each.unrefused⟩
  intro config member
  rw [configs] at member
  rw [ensured]
  rcases mem_put.mp member with rfl | ⟨old, differs⟩
  · obtain ⟨single, alone, set⟩ := ensured_own_iff.mpr (finds checked)
    exact ⟨single, alone, (Function.update_self ..).trans (congrArg some set)⟩
  · have other : config.id ≠ (call.row world.db).id := fun same => differs (key_of_id checked old same)
    obtain ⟨channel, alone, set⟩ := each.single config old
    refine ⟨channel, ?_, ?_⟩
    · rw [channelsOf_ensured_other]
      · exact alone
      · exact fun own => other own.2.symm
    · exact (Function.update_of_ne (fun same => other (Prod.mk.inj same).2) _ _).trans set

theorem isChannelOf_apply (change : ChannelStatusUpdate) (channel : TenantPaymentChannel) :
    isChannelOf tenantId mpesaConfigId (change.apply channel) ↔ isChannelOf tenantId mpesaConfigId channel := by
  unfold ChannelStatusUpdate.apply
  split <;> rfl

theorem updatePaymentChannelStatus_ok (change : ChannelStatusUpdate) (each : OneChannelEach world)
    (owned : Owned world.db) : updatePaymentChannelStatus change world.db.paymentChannels =
      .ok (world.db.paymentChannels.map change.apply) := by
  have admitted : OneActiveEach (world.db.paymentChannels.map change.apply) := by
    intro channel member
    obtain ⟨old, present, rfl⟩ := List.mem_map.mp member
    obtain ⟨config, listed, own⟩ := owned old present
    obtain ⟨tenant, id⟩ := (isChannelOf_apply change old).mpr own
    obtain ⟨single, alone, -⟩ := each.single config listed
    rw [tenant, id, channelsOf_map (isChannelOf_apply change), alone]
    exact List.length_filter_le ..
  simp [updatePaymentChannelStatus, admitted, failIf]

theorem update_single {change : ChannelStatusUpdate} (each : OneChannelEach world) (owned : Owned world.db) :
    OneChannelEach (applyChannelEvent world (.updateStatus change)) ∧
      Owned (applyChannelEvent world (.updateStatus change)).db := by
  simp only [applyChannelEvent, updatePaymentChannelStatus_ok change each owned]
  refine ⟨⟨?_, each.unrefused⟩, ?_⟩
  · intro config member
    obtain ⟨single, alone, set⟩ := each.single config member
    refine ⟨change.apply single, ?_, ?_⟩
    · exact (channelsOf_map (isChannelOf_apply change)).trans (congrArg (List.map change.apply) alone)
    · simp only [alone, List.mem_singleton, exists_eq_left, ChannelStatusUpdate.apply]
      split
      · rfl
      · exact set
  · intro channel member
    obtain ⟨old, present, rfl⟩ := List.mem_map.mp member
    obtain ⟨config, listed, own⟩ := owned old present
    exact ⟨config, listed, (isChannelOf_apply change old).mpr own⟩

theorem upsert_not_single {call : MpesaConfigCall} (checked : checkMpesaConfig (call.row world.db) world.db = .ok ())
    (misses : ¬ FindsOneActive (mpesaChannel call (call.row world.db))
      (channelsOf (call.row world.db).tenantId (call.row world.db).id world.db.paymentChannels)) :
    ¬ OneChannelEach (applyChannelEvent world (.upsert call)) := by
  intro each
  obtain ⟨configs, ensured⟩ := upsert_run checked
  simp only [applyChannelEvent, checked] at each
  have stored : call.row world.db ∈ (upsert world.db call).mpesaConfigs.rows := by
    rw [configs]
    exact mem_put.mpr (.inl rfl)
  obtain ⟨single, alone, set⟩ := each.single _ stored
  change channelsOf _ _ (upsert world.db call).paymentChannels = _ at alone
  rw [ensured] at alone
  change Function.update _ (call.tenantId, (call.row world.db).id) _ (call.tenantId, (call.row world.db).id) = _ at set
  rw [Function.update_self] at set
  exact misses (ensured_own_iff.mp ⟨single, alone, Option.some.inj set⟩)

theorem channels_step {event : ChannelEvent} (holds : OneChannelEach world ∧ Owned world.db)
    (finds : FindsActiveChannel world event) :
    OneChannelEach (applyChannelEvent world event) ∧ Owned (applyChannelEvent world event).db := by
  obtain ⟨each, owned⟩ := holds
  cases event with
  | updateStatus change => exact update_single each owned
  | upsert call =>
    cases checked : checkMpesaConfig (call.row world.db) world.db with
    | error => simpa only [applyChannelEvent, checked] using ⟨each, owned⟩
    | ok _ =>
      refine ⟨upsert_single each checked finds, ?_⟩
      simp only [applyChannelEvent, checked]
      exact upsert_owned owned checked

theorem channels_broken {event : ChannelEvent} (misses : ¬ FindsActiveChannel world event) :
    ¬ OneChannelEach (applyChannelEvent world event) := by
  cases event with
  | updateStatus change => exact absurd trivial misses
  | upsert call =>
    simp only [FindsActiveChannel, Classical.not_imp] at misses
    exact upsert_not_single misses.1 misses.2

theorem no_active_channel {config : TenantMpesaConfig} (each : OneChannelEach world)
    (member : config ∈ world.db.mpesaConfigs.rows)
    (set : world.latest (config.tenantId, config.id) = some .inactive) :
    findActivePaymentChannelForMpesaConfig config.tenantId config.id world.db = none := by
  obtain ⟨single, alone, latest⟩ := each.single config member
  have status : single.status = .inactive := Option.some.inj (latest.symm.trans set)
  have none : (world.db.paymentChannels.filter fun channel => isActiveChannelOf config.tenantId config.id channel) = [] := by
    rw [List.filter_eq_nil_iff]
    intro channel listed found
    obtain ⟨tenant, id, active⟩ := of_decide_eq_true found
    have own := mem_channelsOf.mpr ⟨listed, tenant, id⟩
    rw [alone, List.mem_singleton] at own
    rw [own, status] at active
    cases active
  rw [findActivePaymentChannelForMpesaConfig, none]
  rfl

end Steps

def noChannels : ChannelWorld := ⟨noConfigs, fun _ => none, false⟩

/-- Each configuration has one channel, with the status that was set last, in exactly the runs whose upserts find none or
an active one that they leave active; one that was left inactive is then not found. -/
theorem one_channel_each_iff (events : List ChannelEvent) :
    (Along applyChannelEvent OneChannelEach noChannels events ↔
      Meets applyChannelEvent FindsActiveChannel noChannels events) ∧
    ∀ world, OneChannelEach world → ∀ config ∈ world.db.mpesaConfigs.rows,
      world.latest (config.tenantId, config.id) = some .inactive →
        findActivePaymentChannelForMpesaConfig config.tenantId config.id world.db = none := by
  refine ⟨?_, fun _ each _ member set => no_active_channel each member set⟩
  apply along_iff_meets (fun _ _ => channels_step) (fun _ => And.left) (fun _ _ _ => channels_broken)
  exact ⟨⟨fun _ member => absurd member List.not_mem_nil, rfl⟩, fun _ member => absurd member List.not_mem_nil⟩

def switchedOff (call : MpesaConfigCall) : MpesaConfigCall :=
  { call with dto := { call.dto with status := some .inactive } }

/-- A configuration is made inactive, and its active channel stays beside a new one. -/
theorem inactive_keeps_its_channel : ¬ ∀ events, Along applyChannelEvent OneChannelEach noChannels events := by
  intro always
  let call := paybillConfig "school-a" "600001" "700001"
  have each := run_of_along (always [.upsert call, .upsert (switchedOff call)])
  obtain ⟨single, alone, -⟩ := each.single ((switchedOff call).row (upsert noConfigs call)) (by decide +kernel)
  have one := congrArg List.length alone
  rw [List.length_singleton] at one
  exact absurd one (by decide +kernel)

end ShuleHub.TenantFinance
