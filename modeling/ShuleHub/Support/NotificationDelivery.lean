import ShuleHub.Lib.Runs
import ShuleHub.Support.Notifications

/-! How support notifications are delivered: by the service that creates them, and by the workers that claim what is
queued and due. Every statement commits on its own, but for the requests of the support service, whose statements
are one transaction: what they insert is seen by others at their end. -/

namespace ShuleHub.Support

open Numeric SupportNotifications

/-- The configuration under `support`, with a text of recipients as the list of its entries, and the lower case that
addresses are compared in. -/
structure DeliveryConfig where
  lower : String → String
  notificationEmails : List String
  notificationSmsRecipients : List String
  notificationMaxAttempts : Option Double
  notificationRetryLeaseMs : Option Double

def getMaxAttempts (config : DeliveryConfig) : Nat :=
  match config.notificationMaxAttempts with
  | some (.finite parsed) => if 0 < parsed then ⌊parsed⌋.toNat else 3
  | some .notFinite => 3
  | none => 3

def getRetryLeaseMs (config : DeliveryConfig) : Int :=
  getPositiveInteger config.notificationRetryLeaseMs 300000 30000 900000

section Recipients

variable (config : DeliveryConfig)

def metadataRecipients (normalize : String → String) (single many : String) (metadata : Metadata) : List String :=
  let first := match metadata.get? single with
    | some (.str text) => [Json.str text]
    | _ => []
  let others := match metadata.get? many with
    | some (.arr items) => items
    | _ => []
  let texts := (first ++ others).filterMap fun
    | .str text => some (normalize text)
    | _ => none
  texts.filter (· ≠ "")

def extractMetadataRecipients : Metadata → List String :=
  metadataRecipients (fun entry => config.lower (JsText.trim entry)) "recipient_email" "recipient_emails"

def extractMetadataSmsRecipients : Metadata → List String :=
  metadataRecipients JsText.trim "recipient_phone" "recipient_phones"

def getConfiguredSupportRecipients : List String :=
  (config.notificationEmails.map fun entry => config.lower (JsText.trim entry)).filter (· ≠ "")

def getConfiguredSupportSmsRecipients : List String :=
  (config.notificationSmsRecipients.map JsText.trim).filter (· ≠ "")

def resolveRecipients (findUserEmail : String → Option String) (notification : SupportNotificationRecord) :
    List String :=
  let recipients := extractMetadataRecipients config notification.metadata
  if recipients ≠ [] then recipients
  else if notification.recipientType = .support then getConfiguredSupportRecipients config
  else ((notification.recipientUserId.bind findUserEmail).filter (· ≠ "")).toList

def resolveSmsRecipients (notification : SupportNotificationRecord) : List String :=
  let recipients := extractMetadataSmsRecipients notification.metadata
  if recipients ≠ [] then recipients
  else if notification.recipientType = .support then getConfiguredSupportSmsRecipients config
  else []

def recipientsOf (findUserEmail : String → Option String) (notification : SupportNotificationRecord) : List String :=
  match notification.channel with
  | .email => resolveRecipients config findUserEmail notification
  | .sms => resolveSmsRecipients config notification
  | .inApp => []

end Recipients

def nextAttemptCount (notification : SupportNotificationRecord) : Nat := notification.deliveryAttempts + 1

def nextRetryAt (deliveryAttempts : Nat) (now : Int) : Int :=
  now + min (60000 * 2 ^ (deliveryAttempts - 1)) (15 * 60000)

def capitalizeChannel : NotificationChannel → String
  | .inApp => "In_app"
  | .email => "Email"
  | .sms => "Sms"

def extractAlertMetadata (metadata : Metadata) : Metadata :=
  match metadata.get? "ticket_number" with
  | some (.str ticketNumber) =>
    if JsText.trim ticketNumber ≠ "" then [("ticket_number", .str ticketNumber)] else []
  | _ => []

def deliveryFailureAlert (notification : SupportNotificationRecord) (deliveryAttempts : Nat) (lastError : String) :
    CreateNotificationInput where
  tenantId := notification.tenantId
  ticketId := notification.ticketId
  recipientUserId := none
  recipientType := .support
  channel := .inApp
  title := "Support notification delivery failed"
  body := capitalizeChannel notification.channel ++ " delivery failed for \"" ++ notification.title ++ "\" after " ++
    toString deliveryAttempts ++ " attempts."
  metadata :=
    [("failed_notification_id", .str notification.id), ("failed_channel", .str notification.channel.text),
      ("failed_delivery_status", .str "failed"), ("delivery_attempts", .num (.ofNat deliveryAttempts)),
      ("last_delivery_error", .str lastError)] ++ extractAlertMetadata notification.metadata

/-- What a service asks to be created. None of them writes the key that names a failed notification. -/
structure RequestedNotification extends CreateNotificationInput where
  plain : toCreateNotificationInput.metadata.get? "failed_notification_id" = none

inductive DeliveryStage where
  | sending (recipients : List String)
  | unresolved
  | failing (error : String)
  | alerting (deliveryAttempts : Nat) (lastError : String)
deriving DecidableEq

structure DeliveryRun where
  notification : SupportNotificationRecord
  stage : DeliveryStage

structure Delivery where
  inTransaction : Bool
  inputs : List RequestedNotification
  notifications : List SupportNotificationRecord
  run : Option DeliveryRun
  uncommitted : List String

structure SendAttempt where
  notificationId : String
  recipient : String
  delivered : Bool

/-- The table and what has happened so far: what the providers were asked to send, and which notifications a
delivery run has written a result for. -/
structure DeliveryHistory where
  notifications : SupportNotifications
  sends : List SendAttempt
  results : List String

structure DeliveryServer where
  history : DeliveryHistory
  deliveries : List Delivery

structure DeliveryMoment where
  now : Int
  randomUuid : String
  findUserEmail : String → Option String
  provider : Except String Unit

inductive DeliveryEvent where
  /-- A service creates notifications and delivers them. -/
  | create (inTransaction : Bool) (inputs : List RequestedNotification)
  /-- A tick of a worker. -/
  | processDueQueuedEmailNotifications (limit : ℚ) (locked : String → Bool) (now : Int)
  | advance (index : Nat) (moment : DeliveryMoment)

namespace NotificationDelivery

section Steps

variable (config : DeliveryConfig) (moment : DeliveryMoment)
  (history : DeliveryHistory) (notification : SupportNotificationRecord)

/-- The head of the loop of `deliverCreatedNotifications`, up to the first call of a provider. -/
def beginRun : Option DeliveryRun :=
  if (notification.channel = .email ∨ notification.channel = .sms) ∧ notification.deliveryStatus = .queued ∧
      IsDue moment.now notification then
    let recipients := recipientsOf config moment.findUserEmail notification
    some ⟨notification, if recipients = [] then .unresolved else .sending recipients⟩
  else none

def noRecipients (channel : NotificationChannel) : String :=
  match channel with
  | .sms => "No SMS recipients resolved"
  | _ => "No email recipients resolved"

def markResult (status : DeliveryStatus)
    (details : DeliveryDetails) : DeliveryHistory :=
  { history with
    notifications := history.notifications.markNotificationDelivery notification.id status details moment.now
    results := history.results ++ [notification.id] }

def markSent : DeliveryHistory :=
  markResult moment history notification .sent ⟨nextAttemptCount notification, none, none, some moment.now⟩

def markRetryableFailure (error : String) :
    DeliveryHistory × Option DeliveryRun :=
  let deliveryAttempts := nextAttemptCount notification
  if getMaxAttempts config ≤ deliveryAttempts then
    (markResult moment history notification .failed ⟨deliveryAttempts, some error, none, none⟩,
      some ⟨notification, .alerting deliveryAttempts error⟩)
  else
    (markResult moment history notification .queued
      ⟨deliveryAttempts, some error, some (nextRetryAt deliveryAttempts moment.now), none⟩, none)

def markTerminalFailure (lastError : String) :
    DeliveryHistory × Option DeliveryRun :=
  let deliveryAttempts := nextAttemptCount notification
  (markResult moment history notification .failed ⟨deliveryAttempts, some lastError, none, none⟩,
    some ⟨notification, .alerting deliveryAttempts lastError⟩)

def send (recipient : String)
    (recipients : List String) : DeliveryHistory × Option DeliveryRun :=
  match moment.provider with
  | .ok () =>
    ({ history with sends := history.sends ++ [⟨notification.id, recipient, true⟩] },
      some ⟨notification, .sending recipients⟩)
  | .error error =>
    ({ history with sends := history.sends ++ [⟨notification.id, recipient, false⟩] },
      some ⟨notification, .failing error⟩)

def advanceRun (run : DeliveryRun) : DeliveryHistory × Option DeliveryRun :=
  match run.stage with
  | .sending (recipient :: recipients) => send moment history run.notification recipient recipients
  | .sending [] => (markSent moment history run.notification, none)
  | .unresolved => markTerminalFailure moment history run.notification (noRecipients run.notification.channel)
  | .failing error => markRetryableFailure config moment history run.notification error
  | .alerting deliveryAttempts lastError =>
    match history.notifications.tryInsert (newNotification moment.randomUuid moment.now
      (deliveryFailureAlert run.notification deliveryAttempts lastError)) with
    | some notifications => ({ history with notifications }, none)
    | none => (history, some run)

def createNext (delivery : Delivery) (input : RequestedNotification)
    (inputs : List RequestedNotification) : DeliveryHistory × Delivery :=
  let notification := newNotification moment.randomUuid moment.now input.toCreateNotificationInput
  match history.notifications.tryInsert notification with
  | some notifications =>
    ({ history with notifications },
      { delivery with
        inputs
        notifications := delivery.notifications ++ [notification]
        uncommitted := if delivery.inTransaction then notification.id :: delivery.uncommitted else [] })
  | none => (history, delivery)

def advance (delivery : Delivery) : DeliveryHistory × Delivery :=
  match delivery.run with
  | some run => ((advanceRun config moment history run).1, { delivery with run := (advanceRun config moment history run).2 })
  | none =>
    match delivery.inputs with
    | input :: inputs => createNext moment history delivery input inputs
    | [] =>
      match delivery.notifications with
      | notification :: notifications => (history, { delivery with notifications, run := beginRun config moment notification })
      | [] => (history, { delivery with uncommitted := [] })

def isCommitted (deliveries : List Delivery) (id : String) : Bool :=
  deliveries.all fun delivery => id ∉ delivery.uncommitted

@[grind =] def step (server : DeliveryServer) : DeliveryEvent → DeliveryServer
  | .create inTransaction inputs =>
    { server with deliveries := server.deliveries ++ [⟨inTransaction, inputs, [], none, []⟩] }
  | .processDueQueuedEmailNotifications limit locked now =>
    let usable id := isCommitted server.deliveries id && !locked id
    let claimed := server.history.notifications.claimDueQueuedNotifications usable limit (getRetryLeaseMs config)
      [.email, .sms] now
    ⟨{ server.history with notifications := claimed.2 }, server.deliveries ++ [⟨false, [], claimed.1, none, []⟩]⟩
  | .advance index moment =>
    match server.deliveries[index]? with
    | none => server
    | some delivery =>
      ⟨(advance config moment server.history delivery).1,
        server.deliveries.set index (advance config moment server.history delivery).2⟩

end Steps

def start : DeliveryServer := ⟨⟨.empty, [], []⟩, []⟩

end NotificationDelivery

end ShuleHub.Support
