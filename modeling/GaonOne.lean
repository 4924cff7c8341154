import GaonOne.AdminAuthority
import GaonOne.ApprovedBanners
import GaonOne.ApprovedImages
import GaonOne.AutoDispatch
import GaonOne.CancelledCaptures
import GaonOne.CartQuotes
import GaonOne.CheckoutLosses
import GaonOne.CommittedHistories
import GaonOne.CurrentRider
import GaonOne.DefaultAddresses
import GaonOne.DeliveredEvidence
import GaonOne.DeliveryTasks
import GaonOne.DeviceRegistrations
import GaonOne.EligibleRiders
import GaonOne.FailedDeliveries
import GaonOne.IdempotentCheckout
import GaonOne.JointInvariant
import GaonOne.Library.Changes
import GaonOne.Library.ExpiringCounters
import GaonOne.Library.Files
import GaonOne.Library.Queries
import GaonOne.Library.RankedLocks
import GaonOne.Library.Requests
import GaonOne.ListingDecisions
import GaonOne.ListingImages
import GaonOne.ListingLocks
import GaonOne.ListingPrices
import GaonOne.Logins
import GaonOne.LoneServices
import GaonOne.MediaFiles
import GaonOne.MediaLeases
import GaonOne.MediaPublication
import GaonOne.MediaUploads
import GaonOne.OrderHistory
import GaonOne.OutboxAccounting
import GaonOne.PaymentStatements
import GaonOne.Phones
import GaonOne.RateLimits
import GaonOne.RefundOnce
import GaonOne.RefundRetries
import GaonOne.RefundWebhooks
import GaonOne.Reorders
import GaonOne.ReportIsolation
import GaonOne.RequestLocks
import GaonOne.RestartSafety
import GaonOne.RiderLoad
import GaonOne.RollbackBranches
import GaonOne.RouteDecoding
import GaonOne.Serviceability
import GaonOne.SettlementLedger
import GaonOne.SingleStoreCarts
import GaonOne.StockConservation
import GaonOne.SuperAdmin
import GaonOne.SupportCoherence
import GaonOne.SupportRetries
import GaonOne.SupportVersions
import GaonOne.UniqueValues
import GaonOne.WebhookDeliveries
import GaonOne.WidgetLogin
