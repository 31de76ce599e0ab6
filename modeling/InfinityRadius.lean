import InfinityRadius.Alembic.MoneyState
import InfinityRadius.Alembic.TenantIsolation
import InfinityRadius.Api.Webhooks
import InfinityRadius.Core.Amounts
import InfinityRadius.Core.CanonicalPhone
import InfinityRadius.Core.Context
import InfinityRadius.Core.Endings
import InfinityRadius.Core.Failures
import InfinityRadius.Core.Frames
import InfinityRadius.Core.InternalAuth
import InfinityRadius.Core.Notes
import InfinityRadius.Core.Payload
import InfinityRadius.Core.Replacing
import InfinityRadius.Core.SerialOrders
import InfinityRadius.Core.Sql
import InfinityRadius.Core.UniqueIndexes
import InfinityRadius.Core.Versions
import InfinityRadius.Integrations.CollectionAnswers
import InfinityRadius.Integrations.NetworkAgentClient
import InfinityRadius.Integrations.WebhookSigning
import InfinityRadius.NetworkAgent.RadiusProvisioning
import InfinityRadius.Repositories.Paging
import InfinityRadius.Repositories.TenantScope
import InfinityRadius.Services.ActiveAccess
import InfinityRadius.Services.Authorisation
import InfinityRadius.Services.CaptiveRateLimit
import InfinityRadius.Services.ClosedPayments
import InfinityRadius.Services.CollectionGate
import InfinityRadius.Services.CommissionSplit
import InfinityRadius.Services.ConcurrentActivations
import InfinityRadius.Services.ConcurrentCredits
import InfinityRadius.Services.ConcurrentDecisions
import InfinityRadius.Services.ConcurrentRequests
import InfinityRadius.Services.ConcurrentVersions
import InfinityRadius.Services.ConcurrentWallets
import InfinityRadius.Services.ConfirmedAddresses
import InfinityRadius.Services.ContradictedAnswers
import InfinityRadius.Services.Credentials
import InfinityRadius.Services.CreditedOnce
import InfinityRadius.Services.Crediting
import InfinityRadius.Services.EventLog
import InfinityRadius.Services.Finishing
import InfinityRadius.Services.GuessLimit
import InfinityRadius.Services.HalfCents
import InfinityRadius.Services.HotspotPool
import InfinityRadius.Services.MakerChecker
import InfinityRadius.Services.OrderStatus
import InfinityRadius.Services.PackageReport
import InfinityRadius.Services.PaidAccess
import InfinityRadius.Services.PaidTime
import InfinityRadius.Services.PaymentFlows
import InfinityRadius.Services.PaymentLocks
import InfinityRadius.Services.PaymentTokens
import InfinityRadius.Services.PromptOutcome
import InfinityRadius.Services.RadiusIsolation
import InfinityRadius.Services.RadiusTransports
import InfinityRadius.Services.Reconstruction
import InfinityRadius.Services.Recovery
import InfinityRadius.Services.RefusedConfirmations
import InfinityRadius.Services.Registration
import InfinityRadius.Services.RepeatedPayments
import InfinityRadius.Services.ReportedFailure
import InfinityRadius.Services.Reservations
import InfinityRadius.Services.ServerBlocks
import InfinityRadius.Services.SoldPackages
import InfinityRadius.Services.Statements
import InfinityRadius.Services.TotalDisbursed
import InfinityRadius.Services.TunnelAddresses
import InfinityRadius.Services.VoucherBatches
import InfinityRadius.Services.WithdrawalHistory
import InfinityRadius.Tasks.SweepRules
import InfinityRadius.Web.CaptivePortal
import InfinityRadius.Web.Phone
