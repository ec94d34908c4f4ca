import ShuleHub.Sync.Delivery
import ShuleHub.Payments.IntentLedgers
import ShuleHub.Billing.AccessCache
import ShuleHub.Billing.UsageLimits
import ShuleHub.Billing.RenewalRuns
import ShuleHub.Payments.MpesaC2bReceipts
import ShuleHub.Integrations.ParentOtpAttempts
import ShuleHub.Auth.Revocations
import ShuleHub.Auth.InvitationRuns
import ShuleHub.Auth.RotationRaces
import ShuleHub.Auth.LoginFactors
import ShuleHub.Database.ScopedSessions
import ShuleHub.Inventory.StockConcurrency
import ShuleHub.Inventory.Submissions
import ShuleHub.Inventory.ReservationRuns
import ShuleHub.Admissions.TimetableRuns
import ShuleHub.Students.ActiveLimitRuns
import ShuleHub.TenantFinance.ShortcodeRuns
import ShuleHub.Exams.AssessmentRuns
import ShuleHub.Exams.AuditChainRuns
import ShuleHub.Timetable.PublishedRuns
import ShuleHub.Support.DeliveryRuns
import ShuleHub.Support.SlaRuns
import ShuleHub.Support.MergeRuns
import ShuleHub.Discipline.ActionRuns
import ShuleHub.Discipline.Confidentiality
import ShuleHub.Hr.LeaveRuns
import ShuleHub.Reports.ExportRuns
import ShuleHub.MalwareScan.EndToEnd
import ShuleHub.Payments.CallbackTenants
import ShuleHub.Payments.IntentAttempts
import ShuleHub.Payments.DuplicateReceipts
import ShuleHub.Payments.LedgerAccounts
import ShuleHub.Billing.Statements
import ShuleHub.Payments.CallbackMismatches
import ShuleHub.Payments.CallbackSignatures
import ShuleHub.Payments.GatewayTimestamps
import ShuleHub.Events.FailedDeliveries
import ShuleHub.Auth.MonitoringRuns
import ShuleHub.Payments.PaymentAllocation
import ShuleHub.Billing.ReconciliationDays
import ShuleHub.Auth.EmailDeliveries
import ShuleHub.Integrations.AccountDisclosure
import ShuleHub.Uploads.UploadPolicy
import ShuleHub.Integrations.SmsDeliveries
import ShuleHub.Resilience.CircuitBreaker
import ShuleHub.Inventory.DocumentNumbers
import ShuleHub.Inventory.LocationTexts
import ShuleHub.Library.OverdueFines
import ShuleHub.Uploads.SignedReads
import ShuleHub.Payments.AmountTexts
import ShuleHub.Reports.ExportQueue
import ShuleHub.Observability.SloPercentiles
import ShuleHub.Reports.CsvArtifacts
import ShuleHub.Support.StatusSubscriptions
import ShuleHub.Security.PaymentVelocity
import ShuleHub.Security.RateLimits
import ShuleHub.TenantFinance.PaymentChannelRuns
