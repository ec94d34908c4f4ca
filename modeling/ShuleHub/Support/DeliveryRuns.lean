import ShuleHub.Lib.Processes
import ShuleHub.Support.NotificationDelivery

/-! When a notification is delivered once: no recipient twice, every delivery run counted, one alert for a failure. -/

namespace ShuleHub.Support.NotificationDelivery

open Runs Processes SupportNotifications

variable (maxAttempts : Nat) (id : String) (history : DeliveryHistory) (server : DeliveryServer) (run : DeliveryRun)

def IsAlertFor (row : SupportNotificationRecord) : Prop :=
  row.channel = .inApp ∧ row.metadata.get? "failed_notification_id" = some (.str id)
deriving Decidable

def alertsFor (notifications : SupportNotifications) (id : String) : Nat :=
  notifications.rows.countP fun row => IsAlertFor id row

/-- The delivery run has marked the notification as failed and is about to create the alert. -/
def IsAlerting : Prop :=
  match run.stage with
  | .alerting _ _ => run.notification.id = id
  | _ => False

instance (id : String) : DecidablePred (IsAlerting id) := fun run => by
  unfold IsAlerting
  split <;> infer_instance

def SentOnce (sends : List SendAttempt) : Prop :=
  sends.Pairwise fun earlier later =>
    earlier.delivered = true → earlier.notificationId = later.notificationId → earlier.recipient ≠ later.recipient

instance (sends : List SendAttempt) : Decidable (SentOnce sends) := by
  unfold SentOnce
  infer_instance

/-- The attempts of a notification are its delivery runs and within the maximum, and it has one alert if it has failed,
which the run that failed may be about to create, and none otherwise. -/
def Accounted (row : SupportNotificationRecord) : Prop :=
  row.deliveryAttempts = server.history.results.count row.id ∧ row.deliveryAttempts ≤ maxAttempts ∧
    if row.deliveryStatus = .failed then
      alertsFor server.history.notifications row.id = 1 ∨
        alertsFor server.history.notifications row.id = 0 ∧
          ∃ delivery ∈ server.deliveries, ∃ run ∈ delivery.run, IsAlerting row.id run
    else alertsFor server.history.notifications row.id = 0

instance (maxAttempts : Nat) (server : DeliveryServer) : DecidablePred (Accounted maxAttempts server) := fun row => by
  unfold Accounted
  infer_instance

def DeliveredOnce : Prop :=
  SentOnce server.history.sends ∧ ∀ row ∈ server.history.notifications.rows, Accounted maxAttempts server row
deriving Decidable

def KeepsSent (config : DeliveryConfig) (server : DeliveryServer) (event : DeliveryEvent) : Prop :=
  ∀ row ∈ server.history.notifications.rows, row.deliveryStatus = .sent →
    ∃ after ∈ (step config server event).history.notifications.rows, after.id = row.id ∧ after.deliveryStatus = .sent

def standing (notifications : SupportNotifications) (id : String) : Option (DeliveryStatus × Nat) :=
  (notifications.find id).map fun row => (row.deliveryStatus, row.deliveryAttempts)

def Undelivered (sends : List SendAttempt) (id recipient : String) : Prop :=
  ∀ send ∈ sends, send.delivered = true → send.notificationId = id → send.recipient ≠ recipient

/-- A delivery run may begin: the notification is queued as the run knows it, no other run has it in hand, and no
recipient has been sent it or is named twice. -/
def MayBegin : Prop :=
  standing server.history.notifications run.notification.id = some (.queued, run.notification.deliveryAttempts) ∧
    (∀ delivery ∈ server.deliveries, ∀ other ∈ delivery.run, other.notification.id ≠ run.notification.id) ∧
    match run.stage with
    | .sending recipients =>
      recipients.Nodup ∧ ∀ recipient ∈ recipients, Undelivered server.history.sends run.notification.id recipient
    | _ => True

instance (server : DeliveryServer) : DecidablePred (MayBegin server) := fun run => by
  unfold MayBegin Undelivered
  split <;> infer_instance

/-- The condition on one step: a delivery run that it begins may begin. -/
def BeginsAlone (config : DeliveryConfig) (server : DeliveryServer) : DeliveryEvent → Prop
  | .create _ _ => True
  | .processDueQueuedEmailNotifications _ _ _ => True
  | .advance index moment =>
    ∀ delivery ∈ server.deliveries[index]?, delivery.run = none → delivery.inputs.isEmpty = true →
      ∀ notification ∈ delivery.notifications.head?, ∀ run ∈ beginRun config moment notification, MayBegin server run

instance (config : DeliveryConfig) (server : DeliveryServer) : DecidablePred (BeginsAlone config server) := fun event => by
  unfold BeginsAlone
  split <;> infer_instance

section Tables

variable {notifications : SupportNotifications} {id other : String} {row : SupportNotificationRecord}
  {change : SupportNotificationRecord → SupportNotificationRecord}

theorem standing_insert (fresh : ∀ other ∈ notifications.rows, other.id ≠ row.id) :
    standing (notifications.insert row fresh) id =
      if id = row.id then some (row.deliveryStatus, row.deliveryAttempts) else standing notifications id := by
  unfold standing
  split
  · next same =>
    have found : (notifications.insert row fresh).find row.id = some row := notifications.find_insert
    rw [same, found]
    rfl
  · next differs => rw [notifications.find_insert_other differs]

theorem standing_fresh (fresh : ∀ other ∈ notifications.rows, other.id ≠ row.id) :
    standing notifications row.id = none := by
  have absent : notifications.find row.id = none := (KeyedTable.find_eq_none notifications).mpr fresh
  rw [standing, absent]
  rfl

theorem standing_insert_of_some (fresh : ∀ other ∈ notifications.rows, other.id ≠ row.id)
    {known : DeliveryStatus × Nat} (stands : standing notifications id = some known) :
    standing (notifications.insert row fresh) id = some known := by
  rw [standing_insert, if_neg]
  · exact stands
  · rintro rfl
    cases (standing_fresh fresh).symm.trans stands

theorem standing_of_mem (member : row ∈ notifications.rows) :
    standing notifications row.id = some (row.deliveryStatus, row.deliveryAttempts) := by
  have found : notifications.find row.id = some row := (KeyedTable.find_eq_some notifications).mpr ⟨member, rfl⟩
  rw [standing, found]
  rfl

theorem mem_of_standing {status : DeliveryStatus} {attempts : Nat}
    (known : standing notifications id = some (status, attempts)) :
    ∃ row ∈ notifications.rows, row.id = id ∧ row.deliveryStatus = status := by
  obtain ⟨row, found, same⟩ := Option.map_eq_some_iff.mp known
  obtain ⟨member, own⟩ := (KeyedTable.find_eq_some notifications).mp found
  cases same
  exact ⟨row, member, own, rfl⟩

theorem standing_mark (status : DeliveryStatus) (details : DeliveryDetails) (now : Int) :
    standing (notifications.markNotificationDelivery other status details now) id =
      if id = other then (standing notifications id).map fun _ => (status, details.deliveryAttempts)
      else standing notifications id := by
  unfold standing markNotificationDelivery
  split
  · next same =>
    rw [same, KeyedTable.find_update, Option.map_map, Option.map_map]
    rfl
  · next differs => rw [KeyedTable.find_update_other _ differs]

theorem standing_modify
    (kept : ∀ row, (change row).id = row.id)
    (same : ∀ row, (change row).deliveryStatus = row.deliveryStatus ∧
      (change row).deliveryAttempts = row.deliveryAttempts) :
    standing (notifications.modify change kept) id = standing notifications id := by
  unfold standing
  rw [KeyedTable.find_modify, Option.map_map]
  congr 1
  funext row
  exact Prod.ext (same row).1 (same row).2

theorem alertsFor_insert (fresh : ∀ other ∈ notifications.rows, other.id ≠ row.id) :
    alertsFor (notifications.insert row fresh) id =
      alertsFor notifications id + if IsAlertFor id row then 1 else 0 := by
  simp [alertsFor, KeyedTable.insert, List.countP_append, List.countP_singleton]

theorem alertsFor_modify
    (kept : ∀ row, (change row).id = row.id)
    (same : ∀ row, (change row).channel = row.channel ∧ (change row).metadata = row.metadata) :
    alertsFor (notifications.modify change kept) id = alertsFor notifications id := by
  simp only [alertsFor, KeyedTable.modify, List.countP_map]
  apply List.countP_congr
  intro row _
  have alike : IsAlertFor id (change row) ↔ IsAlertFor id row := by
    rw [IsAlertFor, IsAlertFor, (same row).1, (same row).2]
  rw [Function.comp_apply, decide_eq_true_iff, decide_eq_true_iff]
  exact alike

end Tables

def Knows : Prop :=
  match run.stage with
  | .alerting _ _ =>
    (∃ attempts, standing history.notifications run.notification.id = some (.failed, attempts)) ∧
      alertsFor history.notifications run.notification.id = 0
  | .sending recipients =>
    standing history.notifications run.notification.id = some (.queued, run.notification.deliveryAttempts) ∧
      recipients.Nodup ∧ ∀ recipient ∈ recipients, Undelivered history.sends run.notification.id recipient
  | _ => standing history.notifications run.notification.id = some (.queued, run.notification.deliveryAttempts)

def Handles (current : Option DeliveryRun) : Prop := ∃ run ∈ current, run.notification.id = id

structure Account (runs : List (Option DeliveryRun)) (id : String)
    (status : DeliveryStatus) (attempts : Nat) : Prop where
  counted : attempts = history.results.count id
  bounded : attempts ≤ maxAttempts
  left : status = .queued → attempts < maxAttempts
  alerted : status = .failed →
    alertsFor history.notifications id = 1 ∨
      alertsFor history.notifications id = 0 ∧ ∃ current ∈ runs, ∃ run ∈ current, IsAlerting id run
  unalerted : status ≠ .failed → alertsFor history.notifications id = 0

structure Orderly (runs : List (Option DeliveryRun)) : Prop where
  once : SentOnce history.sends
  accounts : ∀ id status attempts, standing history.notifications id = some (status, attempts) →
    Account maxAttempts history runs id status attempts
  alone : ∀ id, AtMostOne (Handles id) runs
  knows : ∀ current ∈ runs, ∀ run ∈ current, Knows history run
  known : ∀ id, standing history.notifications id = none →
    history.results.count id = 0 ∧ alertsFor history.notifications id = 0

structure SameAt (before after : DeliveryHistory) : Prop where
  standing : standing after.notifications id = standing before.notifications id
  alerts : alertsFor after.notifications id = alertsFor before.notifications id
  results : after.results.count id = before.results.count id
  sends : ∀ send ∈ after.sends, send.notificationId = id → send ∈ before.sends

section Accounts

variable {maxAttempts : Nat} {history after : DeliveryHistory} {runs later : List (Option DeliveryRun)}
  {current next : Option DeliveryRun} {run : DeliveryRun} {id : String} {index : Nat} {status : DeliveryStatus}
  {attempts : Nat}

theorem IsAlerting.handles (alerting : IsAlerting id run) : run.notification.id = id := by
  unfold IsAlerting at alerting
  split at alerting
  · exact alerting
  · exact alerting.elim

theorem Knows.known (knows : Knows history run) :
    ∃ status attempts, standing history.notifications run.notification.id = some (status, attempts) := by
  unfold Knows at knows
  split at knows
  · obtain ⟨⟨attempts, known⟩, _⟩ := knows
    exact ⟨.failed, attempts, known⟩
  · exact ⟨.queued, _, knows.1⟩
  · exact ⟨.queued, _, knows⟩

theorem Knows.congr (same : SameAt run.notification.id history after) (knows : Knows history run) :
    Knows after run := by
  unfold Knows at knows ⊢
  rw [same.standing, same.alerts]
  split
  · next stage =>
    rw [stage] at knows
    exact knows
  · next recipients stage =>
    rw [stage] at knows
    obtain ⟨queued, distinct, undelivered⟩ := knows
    refine ⟨queued, distinct, ?_⟩
    intro recipient member send sent delivered own
    exact undelivered recipient member send (same.sends send sent own) delivered own
  · next unalerting unsending =>
    split at knows
    · next stage => exact absurd stage (unalerting _ _)
    · next stage => exact absurd stage (unsending _)
    · exact knows

theorem Account.congr (same : SameAt id history after)
    (kept : ∀ current ∈ runs, ∀ run ∈ current, IsAlerting id run → current ∈ later)
    (account : Account maxAttempts history runs id status attempts) :
    Account maxAttempts after later id status attempts where
  counted := by rw [same.results, account.counted]
  bounded := account.bounded
  left := account.left
  alerted failed := by
    rw [same.alerts]
    rcases account.alerted failed with one | ⟨none, current, member, run, own, alerting⟩
    · exact .inl one
    · exact .inr ⟨none, current, kept current member run own alerting, run, own, alerting⟩
  unalerted := by
    rw [same.alerts]
    exact account.unalerted

theorem Orderly.congr (orderly : Orderly maxAttempts history runs) (same : ∀ id, SameAt id history after)
    (sends : after.sends = history.sends) : Orderly maxAttempts after runs where
  once := by
    rw [sends]
    exact orderly.once
  accounts id status attempts known := by
    rw [(same id).standing] at known
    exact (orderly.accounts id status attempts known).congr (same id) fun current member _ _ _ => member
  alone := orderly.alone
  knows current member run own := (orderly.knows current member run own).congr (same run.notification.id)
  known id unknown := by
    rw [(same id).standing] at unknown
    rw [(same id).results, (same id).alerts]
    exact orderly.known id unknown

theorem Orderly.idle (orderly : Orderly maxAttempts history runs) : Orderly maxAttempts history (runs ++ [none]) where
  once := orderly.once
  accounts id status attempts known :=
    (orderly.accounts id status attempts known).congr ⟨rfl, rfl, rfl, fun _ sent _ => sent⟩
      fun current member _ _ _ => List.mem_append_left _ member
  alone id := by
    apply (orderly.alone id).of_before
    intro place current found handles
    rcases appended found with old | ⟨-, rfl⟩
    · exact ⟨current, old, handles⟩
    · obtain ⟨run, own, _⟩ := handles
      cases own
  knows current member run own := by
    rcases List.mem_append.mp member with old | new
    · exact orderly.knows current old run own
    · cases List.mem_singleton.mp new
      cases own
  known := orderly.known

theorem Orderly.set (orderly : Orderly maxAttempts history runs) (changed : String → Prop)
    (found : runs[index]? = some current) (elsewhere : ∀ id, ¬ changed id → SameAt id history after)
    (held : ∀ run ∈ current, changed run.notification.id)
    (holder : ∀ id place other, changed id → runs[place]? = some other → Handles id other → place = index)
    (goes : ∀ run ∈ next, changed run.notification.id ∧ Knows after run) (once : SentOnce after.sends)
    (account : ∀ id status attempts, changed id → standing after.notifications id = some (status, attempts) →
      Account maxAttempts after (runs.set index next) id status attempts)
    (known : ∀ id, changed id → standing after.notifications id = none →
      after.results.count id = 0 ∧ alertsFor after.notifications id = 0) :
    Orderly maxAttempts after (runs.set index next) where
  once := once
  accounts id status attempts stands := by
    by_cases own : changed id
    · exact account id status attempts own stands
    · have same := elsewhere id own
      rw [same.standing] at stands
      apply (orderly.accounts id status attempts stands).congr same
      intro slot member run inHand alerting
      obtain ⟨place, present⟩ := List.mem_iff_getElem?.mp member
      have apart : index ≠ place := by
        rintro rfl
        cases found.symm.trans present
        have involved := held run inHand
        rw [alerting.handles] at involved
        exact own involved
      apply List.mem_of_getElem? (i := place)
      rw [List.getElem?_set_ne apart]
      exact present
  alone id := by
    by_cases own : changed id
    · apply AtMostOne.of_place
      intro place slot present handles
      rcases replaced present with ⟨same, _⟩ | ⟨_, old⟩
      · exact same.symm
      · exact holder id place slot own old handles
    · apply (orderly.alone id).of_before
      intro place slot present handles
      rcases replaced present with ⟨_, rfl⟩ | ⟨_, old⟩
      · obtain ⟨run, inHand, rfl⟩ := handles
        exact absurd (goes run inHand).1 own
      · exact ⟨slot, old, handles⟩
  knows slot member run inHand := by
    obtain ⟨place, present⟩ := List.mem_iff_getElem?.mp member
    rcases replaced present with ⟨_, rfl⟩ | ⟨apart, old⟩
    · exact (goes run inHand).2
    · apply (orderly.knows slot (List.mem_of_getElem? old) run inHand).congr
      apply elsewhere
      intro own
      exact apart (holder run.notification.id place slot own old ⟨run, inHand, rfl⟩).symm
  known id unknown := by
    by_cases own : changed id
    · exact known id own unknown
    · have same := elsewhere id own
      rw [same.standing] at unknown
      rw [same.results, same.alerts]
      exact orderly.known id unknown

theorem Orderly.unhandled (orderly : Orderly maxAttempts history runs)
    (unknown : standing history.notifications id = none) {place : Nat} (found : runs[place]? = some current)
    (handles : Handles id current) : place = index := by
  obtain ⟨run, inHand, rfl⟩ := handles
  obtain ⟨status, attempts, known⟩ := (orderly.knows current (List.mem_of_getElem? found) run inHand).known
  cases unknown.symm.trans known

end Accounts

section Changes

variable {history : DeliveryHistory} {id : String} {sends : List SendAttempt} {send : SendAttempt}

theorem sameAt_insert {row : SupportNotificationRecord}
    (fresh : ∀ other ∈ history.notifications.rows, other.id ≠ row.id) (differs : id ≠ row.id)
    (other : ¬ IsAlertFor id row) :
    SameAt id history { history with notifications := history.notifications.insert row fresh } where
  standing := by rw [standing_insert, if_neg differs]
  alerts := by rw [alertsFor_insert, if_neg other, Nat.add_zero]
  results := rfl
  sends _ sent _ := sent

theorem sameAt_send (differs : id ≠ send.notificationId) :
    SameAt id history { history with sends := history.sends ++ [send] } where
  standing := rfl
  alerts := rfl
  results := rfl
  sends other sent own := by
    rcases List.mem_append.mp sent with old | new
    · exact old
    · cases List.mem_singleton.mp new
      exact absurd own.symm differs

theorem alertsFor_mark {notifications : SupportNotifications} (other : String) (status : DeliveryStatus)
    (details : DeliveryDetails) (now : Int) :
    alertsFor (notifications.markNotificationDelivery other status details now) id = alertsFor notifications id := by
  have kept (row : SupportNotificationRecord) :
      (if row.id = other then markDelivery status details now row else row).id = row.id := by
    split <;> rfl
  refine alertsFor_modify kept fun row => ?_
  split
  · exact ⟨rfl, rfl⟩
  · exact ⟨rfl, rfl⟩

theorem sameAt_mark (moment : DeliveryMoment) (notification : SupportNotificationRecord) (status : DeliveryStatus)
    (details : DeliveryDetails) (differs : id ≠ notification.id) :
    SameAt id history (markResult moment history notification status details) where
  standing := by rw [markResult, standing_mark, if_neg differs]
  alerts := alertsFor_mark notification.id status details moment.now
  results := by
    simp only [markResult, List.count_append, List.count_singleton, beq_iff_eq, differs.symm, if_false]
    rfl
  sends _ sent _ := sent

theorem lease_standing (claimed : List SupportNotificationRecord) (leasedUntil : Int)
    (row : SupportNotificationRecord) :
    (lease claimed leasedUntil row).deliveryStatus = row.deliveryStatus ∧
      (lease claimed leasedUntil row).deliveryAttempts = row.deliveryAttempts := by
  unfold lease
  split
  · exact ⟨rfl, rfl⟩
  · exact ⟨rfl, rfl⟩

theorem lease_content (claimed : List SupportNotificationRecord) (leasedUntil : Int)
    (row : SupportNotificationRecord) :
    (lease claimed leasedUntil row).channel = row.channel ∧
      (lease claimed leasedUntil row).metadata = row.metadata := by
  unfold lease
  split
  · exact ⟨rfl, rfl⟩
  · exact ⟨rfl, rfl⟩

theorem sameAt_claim (usable : String → Bool) (limit leaseMs : ℚ) (channels : List NotificationChannel) (now : Int) :
    SameAt id history { history with
      notifications :=
        (history.notifications.claimDueQueuedNotifications usable limit leaseMs channels now).2 } where
  standing := standing_modify (lease_id _ _) (lease_standing _ _)
  alerts := alertsFor_modify (lease_id _ _) (lease_content _ _)
  results := rfl
  sends _ sent _ := sent

theorem sentOnce_append (once : SentOnce sends)
    (undelivered : Undelivered sends send.notificationId send.recipient) : SentOnce (sends ++ [send]) := by
  apply List.pairwise_append.mpr
  refine ⟨once, List.pairwise_singleton _ _, ?_⟩
  intro earlier sent later new delivered same
  cases List.mem_singleton.mp new
  exact undelivered earlier sent delivered same

theorem undelivered_append {recipient : String} (undelivered : Undelivered sends id recipient)
    (apart : send.recipient ≠ recipient) : Undelivered (sends ++ [send]) id recipient := by
  intro other sent delivered own
  rcases List.mem_append.mp sent with old | new
  · exact undelivered other old delivered own
  · cases List.mem_singleton.mp new
    exact apart

end Changes

section DeliveryRuns

variable {maxAttempts : Nat} {config : DeliveryConfig} {moment : DeliveryMoment} {history : DeliveryHistory}
  {runs : List (Option DeliveryRun)} {index attempts : Nat} {id : String} {run : DeliveryRun}
  {status : DeliveryStatus} {row notification : SupportNotificationRecord} {delivery : Delivery}
  {server : DeliveryServer}

theorem IsAlerting.knows (alerting : IsAlerting id run)
    (failed : standing history.notifications id = some (.failed, attempts))
    (none : alertsFor history.notifications id = 0) : Knows history run := by
  unfold IsAlerting at alerting
  split at alerting
  · next stage =>
    subst alerting
    simp only [Knows, stage]
    exact ⟨⟨attempts, failed⟩, none⟩
  · exact alerting.elim

theorem Orderly.holder (orderly : Orderly maxAttempts history runs) (found : runs[index]? = some (some run)) :
    ∀ id place other, id = run.notification.id → runs[place]? = some other → Handles id other → place = index := by
  intro id place other own present handles
  exact orderly.alone id place index other (some run) present found handles ⟨run, rfl, own.symm⟩

theorem Orderly.send (orderly : Orderly maxAttempts history runs) (found : runs[index]? = some (some run))
    (queued : standing history.notifications run.notification.id = some (.queued, attempts)) {send : SendAttempt}
    (own : send.notificationId = run.notification.id)
    (undelivered : Undelivered history.sends run.notification.id send.recipient)
    {stage : DeliveryStage} (knows : Knows { history with sends := history.sends ++ [send] } ⟨run.notification, stage⟩) :
    Orderly maxAttempts { history with sends := history.sends ++ [send] }
      (runs.set index (some ⟨run.notification, stage⟩)) := by
  have account := orderly.accounts run.notification.id .queued attempts queued
  apply orderly.set (· = run.notification.id) found
  · intro id differs
    apply sameAt_send
    rw [own]
    exact differs
  · rintro _ ⟨⟩
    rfl
  · exact orderly.holder found
  · rintro _ ⟨⟩
    exact ⟨rfl, knows⟩
  · apply sentOnce_append orderly.once
    rw [own]
    exact undelivered
  · rintro id status attempts rfl known
    cases queued.symm.trans known
    exact ⟨account.counted, account.bounded, account.left, nofun, account.unalerted⟩
  · rintro id rfl unknown
    cases queued.symm.trans unknown

theorem Orderly.mark (orderly : Orderly maxAttempts history runs) (found : runs[index]? = some (some run))
    (queued : standing history.notifications run.notification.id =
      some (.queued, run.notification.deliveryAttempts)) {details : DeliveryDetails}
    {rest : Option DeliveryRun} (counts : details.deliveryAttempts = nextAttemptCount run.notification)
    (retried : status = .queued → details.deliveryAttempts < maxAttempts)
    (ends : status = .failed ∧ (∃ alerting, rest = some alerting ∧ IsAlerting run.notification.id alerting) ∨
      status ≠ .failed ∧ rest = none) :
    Orderly maxAttempts (markResult moment history run.notification status details) (runs.set index rest) := by
  have account := orderly.accounts run.notification.id .queued _ queued
  have marked : standing (markResult moment history run.notification status details).notifications
      run.notification.id = some (status, details.deliveryAttempts) := by
    rw [markResult, standing_mark, if_pos rfl, queued]
    rfl
  have unalerted : alertsFor (markResult moment history run.notification status details).notifications
      run.notification.id = 0 := (alertsFor_mark _ _ _ _).trans (account.unalerted nofun)
  have left := account.left rfl
  apply orderly.set (· = run.notification.id) found
  · intro id differs
    exact sameAt_mark moment run.notification status details differs
  · rintro _ ⟨⟩
    rfl
  · exact orderly.holder found
  · rintro alerting inHand
    rcases ends with ⟨rfl, _, rfl, alerts⟩ | ⟨_, rfl⟩
    · cases inHand
      exact ⟨alerts.handles, alerts.knows marked unalerted⟩
    · cases inHand
  · exact orderly.once
  · rintro id other attempts rfl known
    cases marked.symm.trans known
    refine ⟨?_, ?_, retried, ?_, fun _ => unalerted⟩
    · rw [counts, nextAttemptCount, account.counted]
      simp [markResult]
    · rw [counts, nextAttemptCount]
      omega
    · intro failed
      rcases ends with ⟨_, alerting, rfl, alerts⟩ | ⟨calm, _⟩
      · have inside : index < runs.length := (List.getElem?_eq_some_iff.mp found).1
        exact .inr ⟨unalerted, some alerting, List.mem_set inside _, alerting, rfl, alerts⟩
      · exact absurd failed calm
  · rintro id rfl unknown
    cases marked.symm.trans unknown

theorem Orderly.inserted (orderly : Orderly maxAttempts history runs) (positive : 0 < maxAttempts) (fresh : ∀ other ∈ history.notifications.rows, other.id ≠ row.id)
    (new : row.deliveryStatus = .queued ∧ row.deliveryAttempts = 0) (unnamed : ¬ IsAlertFor row.id row) (known : standing (history.notifications.insert row fresh) row.id = some (status, attempts))
    (later : List (Option DeliveryRun)) :
    Account maxAttempts { history with notifications := history.notifications.insert row fresh } later row.id status
      attempts := by
  obtain ⟨uncounted, unalerted⟩ := orderly.known row.id (standing_fresh fresh)
  rw [standing_insert, if_pos rfl, new.1, new.2] at known
  cases known
  refine ⟨uncounted.symm, Nat.zero_le _, fun _ => positive, nofun, fun _ => ?_⟩
  rw [alertsFor_insert, if_neg unnamed, unalerted]

theorem isAlertFor_deliveryFailureAlert (randomUuid : String) (now : Int) (notification : SupportNotificationRecord)
    (deliveryAttempts : Nat) (lastError : String) :
    IsAlertFor id (newNotification randomUuid now (deliveryFailureAlert notification deliveryAttempts lastError)) ↔
      id = notification.id := by
  simp [IsAlertFor, newNotification, deliveryFailureAlert, JsMap.get?, eq_comm]

theorem Orderly.alert (orderly : Orderly maxAttempts history runs) (found : runs[index]? = some (some run))
    (positive : 0 < maxAttempts) {deliveryAttempts : Nat} {lastError : String}
    (stage : run.stage = .alerting deliveryAttempts lastError) {alert : SupportNotificationRecord}
    (own : alert = newNotification moment.randomUuid moment.now
      (deliveryFailureAlert run.notification deliveryAttempts lastError))
    (fresh : ∀ other ∈ history.notifications.rows, other.id ≠ alert.id) :
    Orderly maxAttempts { history with notifications := history.notifications.insert alert fresh }
      (runs.set index none) := by
  have names (id : String) : IsAlertFor id alert ↔ id = run.notification.id := by
    rw [own]
    exact isAlertFor_deliveryFailureAlert ..
  have knows := orderly.knows (some run) (List.mem_of_getElem? found) run rfl
  simp only [Knows, stage] at knows
  obtain ⟨⟨attempts, failed⟩, none'⟩ := knows
  have unknown : standing history.notifications alert.id = none := standing_fresh fresh
  have apart : run.notification.id ≠ alert.id := by
    intro same
    rw [same, unknown] at failed
    cases failed
  apply orderly.set (fun id => id = alert.id ∨ id = run.notification.id) found
  · intro id differs
    obtain ⟨other, unnamed⟩ := not_or.mp differs
    apply sameAt_insert fresh other
    rw [names]
    exact unnamed
  · rintro _ ⟨⟩
    exact .inr rfl
  · rintro id place other (rfl | same) present handles
    · exact orderly.unhandled unknown present handles
    · exact orderly.holder found id place other same present handles
  · rintro _ ⟨⟩
  · exact orderly.once
  · rintro id status attempts (rfl | rfl) known
    · apply orderly.inserted positive fresh _ _ known
      · rw [own]
        exact ⟨rfl, rfl⟩
      · rw [names]
        exact apart.symm
    · have account := orderly.accounts run.notification.id .failed _ failed
      rw [standing_insert, if_neg apart, failed] at known
      cases known
      refine ⟨account.counted, account.bounded, account.left, fun _ => .inl ?_, fun calm => absurd rfl calm⟩
      rw [alertsFor_insert, if_pos ((names _).mpr rfl), none']
  · rintro id (rfl | rfl) absent
    · rw [standing_insert, if_pos rfl] at absent
      cases absent
    · rw [standing_insert, if_neg apart, failed] at absent
      cases absent

theorem Orderly.create (orderly : Orderly maxAttempts history runs) (found : runs[index]? = some none)
    (positive : 0 < maxAttempts) (input : RequestedNotification)
    (own : row = newNotification moment.randomUuid moment.now input.toCreateNotificationInput)
    (fresh : ∀ other ∈ history.notifications.rows, other.id ≠ row.id) :
    Orderly maxAttempts { history with notifications := history.notifications.insert row fresh }
      (runs.set index none) := by
  have plain (id : String) : ¬ IsAlertFor id row := by
    rintro ⟨-, named⟩
    rw [own] at named
    cases named.symm.trans input.plain
  have unknown : standing history.notifications row.id = none := standing_fresh fresh
  apply orderly.set (· = row.id) found
  · intro id differs
    exact sameAt_insert fresh differs (plain id)
  · rintro _ ⟨⟩
  · rintro id place other rfl present handles
    exact orderly.unhandled unknown present handles
  · rintro _ ⟨⟩
  · exact orderly.once
  · rintro id status attempts rfl known
    apply orderly.inserted positive fresh _ (plain row.id) known
    rw [own]
    exact ⟨rfl, rfl⟩
  · rintro id rfl absent
    rw [standing_insert, if_pos rfl] at absent
    cases absent

theorem advanceRun_orderly (orderly : Orderly (getMaxAttempts config) history runs)
    (found : runs[index]? = some (some run)) (positive : 0 < getMaxAttempts config) :
    Orderly (getMaxAttempts config) (advanceRun config moment history run).1
      (runs.set index (advanceRun config moment history run).2) := by
  have knows := orderly.knows (some run) (List.mem_of_getElem? found) run rfl
  unfold advanceRun
  split
  · next recipient recipients stage =>
    simp only [Knows, stage] at knows
    obtain ⟨queued, distinct, undelivered⟩ := knows
    obtain ⟨apart, distinct⟩ := List.nodup_cons.mp distinct
    have first := undelivered recipient List.mem_cons_self
    unfold send
    split
    · apply orderly.send found queued rfl first
      refine ⟨queued, distinct, fun other member => ?_⟩
      apply undelivered_append (undelivered other (List.mem_cons_of_mem _ member))
      rintro rfl
      exact apart member
    · exact orderly.send found queued rfl first queued
  · next stage =>
    simp only [Knows, stage] at knows
    exact orderly.mark found knows.1 rfl nofun (.inr ⟨nofun, rfl⟩)
  · next stage =>
    simp only [Knows, stage] at knows
    exact orderly.mark found knows rfl nofun (.inl ⟨rfl, _, rfl, rfl⟩)
  · next error stage =>
    simp only [Knows, stage] at knows
    unfold markRetryableFailure
    by_cases exhausted : getMaxAttempts config ≤ nextAttemptCount run.notification
    · simp only [if_pos exhausted]
      exact orderly.mark found knows rfl nofun (.inl ⟨rfl, _, rfl, rfl⟩)
    · simp only [if_neg exhausted]
      exact orderly.mark found knows rfl (fun _ => Nat.lt_of_not_le exhausted) (.inr ⟨nofun, rfl⟩)
  · next deliveryAttempts lastError stage =>
    split
    · next inserted =>
      obtain ⟨fresh, rfl⟩ := (KeyedTable.tryInsert_eq_some _).mp inserted
      exact orderly.alert found positive stage rfl fresh
    · rw [set_found found]
      exact orderly

theorem begin_orderly (orderly : Orderly maxAttempts history runs) (found : runs[index]? = some none)
    (queued : standing history.notifications run.notification.id =
      some (.queued, run.notification.deliveryAttempts))
    (free : ∀ current ∈ runs, ¬ Handles run.notification.id current) (knows : Knows history run) :
    Orderly maxAttempts history (runs.set index (some run)) := by
  have account := orderly.accounts run.notification.id .queued _ queued
  apply orderly.set (· = run.notification.id) found
  · intro id _
    exact ⟨rfl, rfl, rfl, fun _ sent _ => sent⟩
  · rintro _ ⟨⟩
  · rintro id place other rfl present handles
    exact absurd handles (free other (List.mem_of_getElem? present))
  · rintro _ ⟨⟩
    exact ⟨rfl, knows⟩
  · exact orderly.once
  · rintro id status attempts rfl known
    cases queued.symm.trans known
    exact ⟨account.counted, account.bounded, account.left, nofun, account.unalerted⟩
  · rintro id rfl unknown
    cases queued.symm.trans unknown

theorem beginRun_stage (begun : beginRun config moment notification = some run) :
    run.stage = .unresolved ∨ ∃ recipients, run.stage = .sending recipients := by
  unfold beginRun at begun
  split at begun
  · cases begun
    simp only
    split
    · exact .inl rfl
    · exact .inr ⟨_, rfl⟩
  · cases begun

theorem advance_orderly {deliveries : List Delivery}
    (orderly : Orderly (getMaxAttempts config) history (deliveries.map (·.run)))
    (found : deliveries[index]? = some delivery) (positive : 0 < getMaxAttempts config)
    (alone : BeginsAlone config ⟨history, deliveries⟩ (.advance index moment)) :
    Orderly (getMaxAttempts config) (advance config moment history delivery).1
      ((deliveries.set index (advance config moment history delivery).2).map (·.run)) := by
  have slot : (deliveries.map (·.run))[index]? = some delivery.run := by
    rw [List.getElem?_map, found]
    rfl
  rw [List.map_set]
  unfold advance
  split
  · next run inHand =>
    rw [inHand] at slot
    exact advanceRun_orderly orderly slot positive
  · next free =>
    rw [free] at slot
    split
    · next input inputs _ =>
      unfold createNext
      simp only
      split
      · next inserted =>
        obtain ⟨fresh, rfl⟩ := (KeyedTable.tryInsert_eq_some _).mp inserted
        simp only [free]
        exact orderly.create slot positive input rfl fresh
      · rw [free, set_found slot]
        exact orderly
    · next none' =>
      split
      · next notification notifications waiting =>
        cases begun : beginRun config moment notification with
        | none =>
          simp only [set_found slot]
          exact orderly
        | some run =>
          have empty : delivery.inputs.isEmpty = true := by rw [none']; rfl
          have first : notification ∈ delivery.notifications.head? := by rw [waiting]; rfl
          obtain ⟨queued, others, recipients⟩ := alone delivery found free empty notification first run begun
          apply begin_orderly orderly slot queued
          · rintro current member ⟨other, inHand, same⟩
            obtain ⟨holder, present, rfl⟩ := List.mem_map.mp member
            exact others holder present other inHand same
          · unfold Knows
            rcases beginRun_stage begun with stage | ⟨names, stage⟩
            · rw [stage]
              exact queued
            · rw [stage] at recipients ⊢
              exact ⟨queued, recipients⟩
      · simp only [free, set_found slot]
        exact orderly

theorem sent_markResult (status : DeliveryStatus) (details : DeliveryDetails)
    (queued : standing history.notifications notification.id = some (.queued, notification.deliveryAttempts))
    (sent : standing history.notifications id = some (.sent, attempts)) :
    standing (markResult moment history notification status details).notifications id = some (.sent, attempts) := by
  rw [markResult, standing_mark, if_neg]
  · exact sent
  · rintro rfl
    cases queued.symm.trans sent

theorem advanceRun_sent (knows : Knows history run) (sent : standing history.notifications id = some (.sent, attempts)) :
    standing (advanceRun config moment history run).1.notifications id = some (.sent, attempts) := by
  unfold advanceRun
  split
  · unfold send
    split
    · exact sent
    · exact sent
  · next stage =>
    simp only [Knows, stage] at knows
    exact sent_markResult _ _ knows.1 sent
  · next stage =>
    simp only [Knows, stage] at knows
    exact sent_markResult _ _ knows sent
  · next stage =>
    simp only [Knows, stage] at knows
    simp only [markRetryableFailure]
    split
    · exact sent_markResult _ _ knows sent
    · exact sent_markResult _ _ knows sent
  · split
    · next inserted =>
      obtain ⟨fresh, rfl⟩ := (KeyedTable.tryInsert_eq_some _).mp inserted
      exact standing_insert_of_some fresh sent
    · exact sent

theorem advance_sent (knows : ∀ run ∈ delivery.run, Knows history run)
    (sent : standing history.notifications id = some (.sent, attempts)) :
    standing (advance config moment history delivery).1.notifications id = some (.sent, attempts) := by
  unfold advance
  split
  · next run inHand => exact advanceRun_sent (knows run inHand) sent
  · split
    · simp only [createNext]
      split
      · next inserted =>
        obtain ⟨fresh, rfl⟩ := (KeyedTable.tryInsert_eq_some _).mp inserted
        exact standing_insert_of_some fresh sent
      · exact sent
    · split
      · exact sent
      · exact sent

theorem step_keepsSent
    (orderly : Orderly maxAttempts server.history (server.deliveries.map (·.run))) (event : DeliveryEvent) :
    KeepsSent config server event := by
  intro row member sent
  have before : standing server.history.notifications row.id = some (.sent, row.deliveryAttempts) := by
    rw [standing_of_mem member, sent]
  have after : standing (step config server event).history.notifications row.id =
      some (.sent, row.deliveryAttempts) := by
    cases event with
    | create _ _ => exact before
    | processDueQueuedEmailNotifications _ _ _ => exact (sameAt_claim ..).standing.trans before
    | advance index moment =>
      simp only [step]
      split
      · exact before
      · next delivery found =>
        apply advance_sent _ before
        intro run inHand
        exact orderly.knows delivery.run (List.mem_map_of_mem (List.mem_of_getElem? found)) run inHand
  exact mem_of_standing after

theorem step_orderly {event : DeliveryEvent} (positive : 0 < getMaxAttempts config)
    (orderly : Orderly (getMaxAttempts config) server.history (server.deliveries.map (·.run)))
    (alone : BeginsAlone config server event) :
    Orderly (getMaxAttempts config) (step config server event).history
      ((step config server event).deliveries.map (·.run)) := by
  cases event with
  | create inTransaction inputs =>
    simp only [step, List.map_append]
    exact orderly.idle
  | processDueQueuedEmailNotifications limit locked now =>
    simp only [step, List.map_append]
    apply Orderly.idle
    apply orderly.congr
    · intro id
      exact sameAt_claim ..
    · rfl
  | advance index moment =>
    simp only [step]
    split
    · exact orderly
    · next delivery found => exact advance_orderly orderly found positive alone

theorem Orderly.deliveredOnce
    (orderly : Orderly maxAttempts server.history (server.deliveries.map (·.run))) :
    DeliveredOnce maxAttempts server := by
  refine ⟨orderly.once, fun row member => ?_⟩
  have account := orderly.accounts row.id _ _ (standing_of_mem member)
  refine ⟨account.counted, account.bounded, ?_⟩
  split
  · next failed =>
    rcases account.alerted failed with one | ⟨none', current, listed, run, inHand, alerting⟩
    · exact .inl one
    · obtain ⟨delivery, present, rfl⟩ := List.mem_map.mp listed
      exact .inr ⟨none', delivery, present, run, inHand, alerting⟩
  · next calm => exact account.unalerted calm

theorem start_orderly (maxAttempts : Nat) : Orderly maxAttempts start.history (start.deliveries.map (·.run)) where
  once := List.Pairwise.nil
  accounts _ _ _ known := nomatch known
  alone _ := .nil
  knows _ member := nomatch member
  known _ _ := ⟨rfl, rfl⟩

end DeliveryRuns

/-- Delivery runs that begin alone deliver every notification once, count every run and leave one alert for each
notification that has failed. A maximum between zero and one is rounded down to none. -/
theorem notifications_delivered_once (config : DeliveryConfig) (positive : 0 < getMaxAttempts config)
    (events : List DeliveryEvent) (alone : Meets (step config) (BeginsAlone config) start events) :
    Along (step config) (DeliveredOnce (getMaxAttempts config)) start events ∧
      Meets (step config) (KeepsSent config) start events := by
  have initial := start_orderly (getMaxAttempts config)
  have preserved (server : DeliveryServer) (event : DeliveryEvent)
      (orderly : Orderly (getMaxAttempts config) server.history (server.deliveries.map (·.run)))
      (begins : BeginsAlone config server event) :=
    step_orderly positive orderly begins
  constructor
  · apply along_of_meets preserved _ initial alone
    intro server orderly
    exact orderly.deliveredOnce
  · apply meets_of_meets _ preserved initial alone
    intro server event orderly _
    exact step_keepsSent orderly event

def twoAddresses : DeliveryConfig where
  lower text := text
  notificationEmails := ["desk@example.org", "lead@example.org"]
  notificationSmsRecipients := []
  notificationMaxAttempts := none
  notificationRetryLeaseMs := none

def ticketNotification : RequestedNotification where
  tenantId := "lakeside"
  ticketId := some "ticket-1"
  recipientUserId := none
  recipientType := .support
  channel := .email
  title := "Critical support ticket raised: SUP-1"
  body := "Lakeside reported No login in Auth."
  metadata := [("ticket_number", .str "SUP-1")]
  plain := rfl

def momentAt (now : Int) (provider : Except String Unit) : DeliveryMoment where
  now := now
  randomUuid := "notification-1"
  findUserEmail _ := none
  provider := provider

def accepted (index : Nat) (now : Int) : DeliveryEvent := .advance index (momentAt now (.ok ()))

def rejected (index : Nat) (now : Int) : DeliveryEvent := .advance index (momentAt now (.error "timeout"))

/-- The first delivery run fails before it has sent anything, the worker's run succeeds. -/
def retriedDelivery : List DeliveryEvent :=
  [.create false [ticketNotification], accepted 0 0, accepted 0 1, rejected 0 2, rejected 0 3,
    .processDueQueuedEmailNotifications 50 (fun _ => false) 60003, accepted 1 60004, accepted 1 60005, accepted 1 60006,
    accepted 1 60007]

theorem notifications_delivered_once_retried :
    Along (step twoAddresses) (DeliveredOnce (getMaxAttempts twoAddresses)) start retriedDelivery ∧
      Meets (step twoAddresses) (KeepsSent twoAddresses) start retriedDelivery :=
  notifications_delivered_once twoAddresses (by decide) retriedDelivery (by decide +kernel)

/-- The second of two recipients fails, and the retry sends to the first one again. -/
theorem partial_failure_sends_again :
    ¬ Along (step twoAddresses) (DeliveredOnce (getMaxAttempts twoAddresses)) start
      [.create false [ticketNotification], accepted 0 0, accepted 0 1, accepted 0 2, rejected 0 3, rejected 0 4,
        .processDueQueuedEmailNotifications 50 (fun _ => false) 60004, accepted 1 60005, accepted 1 60006] := by
  decide +kernel

end ShuleHub.Support.NotificationDelivery
