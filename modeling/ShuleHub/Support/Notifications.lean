import ShuleHub.Lib.KeyedTable
import ShuleHub.Lib.JsValue
import ShuleHub.Runtime

/-! The table `support_notifications` and the statements that the support services send to it. -/

namespace ShuleHub.Support

open Numeric

inductive RecipientType where
  | school
  | support
deriving DecidableEq

inductive NotificationChannel where
  | inApp
  | email
  | sms
deriving DecidableEq

def NotificationChannel.text : NotificationChannel → String
  | .inApp => "in_app"
  | .email => "email"
  | .sms => "sms"

inductive DeliveryStatus where
  | queued
  | sent
  | failed
  | read
deriving DecidableEq

structure SupportNotificationRecord where
  id : String
  tenantId : String
  ticketId : Option String
  recipientUserId : Option String
  recipientType : RecipientType
  channel : NotificationChannel
  title : String
  body : String
  deliveryStatus : DeliveryStatus
  deliveryAttempts : Nat
  lastDeliveryError : Option String
  nextDeliveryAttemptAt : Option Int
  deliveredAt : Option Int
  metadata : Metadata
  createdAt : Int

structure CreateNotificationInput where
  tenantId : String
  ticketId : Option String
  recipientUserId : Option String
  recipientType : RecipientType
  channel : NotificationChannel
  title : String
  body : String
  metadata : Metadata

structure DeliveryDetails where
  deliveryAttempts : Nat
  lastError : Option String
  nextAttemptAt : Option Int
  deliveredAt : Option Int

def getPositiveInteger (configured : Option Double) (fallback minimum maximum : Int) : Int :=
  match configured with
  | none => min (max fallback minimum) maximum
  | some .notFinite => fallback
  | some (.finite parsed) => min (max ⌊parsed⌋ minimum) maximum

def safeLimit (limit : ℚ) : Nat := (min (max ⌊limit⌋ 1) 500).toNat

abbrev SupportNotifications := KeyedTable SupportNotificationRecord String SupportNotificationRecord.id

namespace SupportNotifications

variable (notifications : SupportNotifications)

def newNotification (id : String) (now : Int) (input : CreateNotificationInput) : SupportNotificationRecord where
  id := id
  tenantId := input.tenantId
  ticketId := input.ticketId
  recipientUserId := input.recipientUserId
  recipientType := input.recipientType
  channel := input.channel
  title := input.title
  body := input.body
  deliveryStatus := .queued
  deliveryAttempts := 0
  lastDeliveryError := none
  nextDeliveryAttemptAt := none
  deliveredAt := none
  metadata := input.metadata
  createdAt := now

def markDelivery (deliveryStatus : DeliveryStatus) (details : DeliveryDetails) (now : Int)
    (row : SupportNotificationRecord) : SupportNotificationRecord :=
  { row with
    deliveryStatus
    deliveryAttempts := details.deliveryAttempts
    lastDeliveryError := details.lastError
    nextDeliveryAttemptAt := details.nextAttemptAt
    deliveredAt := if deliveryStatus = .sent then some (details.deliveredAt.getD now) else row.deliveredAt }

theorem markDelivery_id (deliveryStatus : DeliveryStatus) (details : DeliveryDetails) (now : Int)
    (row : SupportNotificationRecord) : (markDelivery deliveryStatus details now row).id = row.id := rfl

/-- The statement names the row only: it writes whatever the status of the row is. -/
def markNotificationDelivery (notificationId : String)
    (deliveryStatus : DeliveryStatus) (details : DeliveryDetails) (now : Int) : SupportNotifications :=
  notifications.update notificationId (markDelivery deliveryStatus details now)
    (markDelivery_id deliveryStatus details now)

def IsDue (now : Int) (row : SupportNotificationRecord) : Prop := ∀ next ∈ row.nextDeliveryAttemptAt, next ≤ now
deriving Decidable

def Before (first second : SupportNotificationRecord) : Prop :=
  first.nextDeliveryAttemptAt.getD first.createdAt < second.nextDeliveryAttemptAt.getD second.createdAt ∨
    first.nextDeliveryAttemptAt.getD first.createdAt = second.nextDeliveryAttemptAt.getD second.createdAt ∧
      first.createdAt ≤ second.createdAt
deriving Decidable

def due (usable : String → Bool) (limit : ℚ)
    (channels : List NotificationChannel) (now : Int) : List SupportNotificationRecord :=
  let candidates := notifications.rows.filter fun row =>
    usable row.id = true ∧ row.deliveryStatus = .queued ∧ row.channel ∈ channels ∧ IsDue now row
  (candidates.insertionSort Before).take (safeLimit limit)

def safeLeaseMs (leaseMs : ℚ) : Int := min (max ⌊leaseMs⌋ 30000) 900000

def lease (claimed : List SupportNotificationRecord) (leasedUntil : Int) (row : SupportNotificationRecord) :
    SupportNotificationRecord :=
  if row.id ∈ claimed.map (·.id) then { row with nextDeliveryAttemptAt := some leasedUntil } else row

theorem lease_id (claimed : List SupportNotificationRecord) (leasedUntil : Int) (row : SupportNotificationRecord) :
    (lease claimed leasedUntil row).id = row.id := by
  unfold lease
  split <;> rfl

def claimDueQueuedNotifications (usable : String → Bool) (limit leaseMs : ℚ)
    (channels : List NotificationChannel) (now : Int) : List SupportNotificationRecord × SupportNotifications :=
  let safeChannels := channels.filter fun channel => channel = .email ∨ channel = .sms
  let claimed := notifications.due usable limit (if safeChannels = [] then [.email] else safeChannels) now
  let leasedUntil := now + safeLeaseMs leaseMs
  (claimed, notifications.modify (lease claimed leasedUntil) (lease_id claimed leasedUntil))

end SupportNotifications

end ShuleHub.Support
