import InfinityRadius.Core.Amounts
import InfinityRadius.Core.Database
import InfinityRadius.Core.IpAddress
import InfinityRadius.Core.Payload
import InfinityRadius.Models.Enums

/-!
# Tables

The rows of `models/finance.py` and of the tables its services read, and the
part of the migrations' schema that can refuse a statement: text columns hold no
NUL character, `NUMERIC(14,2)` columns stay below `10^12`, unique indexes.
Columns no modelled function reads or writes are left out.
-/

namespace InfinityRadius.Models

open Amounts Database IpAddress Payload

/-- A timestamp with time zone, in microseconds. -/
abbrev Timestamp := ℤ

structure Withdrawal where
  id : ℕ
  tenantId : ℕ
  walletId : ℕ
  destinationId : ℕ
  amount : Numeric
  currency : String
  status : WithdrawalStatus
  idempotencyKey : String
  providerReference : Option String := none
  failureReason : Option String := none
  submittedAt : Option Timestamp := none
  completedAt : Option Timestamp := none
  approvalRequired : Bool
  verifiedRecipientName : Option String := none
  providerCharge : Option Numeric := none
  providerResultCode : Option String := none
  providerMessage : Option String := none
  requestedBy : Option ℕ
  reviewedBy : Option ℕ := none
  reviewedAt : Option Timestamp := none
  reviewNotes : Option String := none
  twoFactorCodeHash : Option String := none
  twoFactorExpiresAt : Option Timestamp := none
  twoFactorAttempts : ℕ := 0
  twoFactorConfirmedAt : Option Timestamp := none
  otpLastSentAt : Option Timestamp := none
  otpSendCount : ℕ := 0
  otpSentToEmail : Option String := none
  createdAt : Timestamp

structure WithdrawalEvent where
  id : ℕ
  tenantId : ℕ
  withdrawalId : ℕ
  fromStatus : Option WithdrawalStatus
  toStatus : WithdrawalStatus
  actorId : Option ℕ
  reason : Option String

structure WithdrawalDestination where
  id : ℕ
  tenantId : ℕ
  channel : String
  destinationCode : Option String
  accountNumber : Option String

structure TenantWallet where
  id : ℕ
  tenantId : ℕ
  currency : String
  availableBalanceTzs : Numeric := 0
  pendingBalanceTzs : Numeric := 0
  reservedBalanceTzs : Numeric := 0
  frozenBalanceTzs : Numeric := 0
  totalDisbursedTzs : Numeric := 0
deriving DecidableEq

structure LedgerEntry where
  id : ℕ
  tenantId : ℕ
  walletId : ℕ
  entryType : LedgerEntryType
  direction : LedgerDirection
  walletBucket : Option WalletBucket
  amount : Numeric
  balanceAfter : Option Numeric
  referenceType : Option String
  referenceId : Option ℕ
  description : Option String
  actorId : Option ℕ := none

structure SettlementLog where
  id : ℕ
  tenantId : ℕ
  batchReference : String
  transactionCount : ℕ
  grossAmount : Numeric
  feeAmount : Numeric
  netAmount : Numeric
  status : String

/-- `commissionRatePercent` is `NUMERIC(5,2)`, in hundredths of a percent. -/
structure TenantCommercialTerms where
  id : ℕ
  tenantId : ℕ
  commissionRatePercent : Numeric
  isActive : Bool
  notes : Option String
  createdBy : Option ℕ

structure TenantSettlementConfig where
  id : ℕ
  tenantId : ℕ
  mode : SettlementMode
  isActive : Bool

structure Tenant where
  id : ℕ
  status : TenantStatus

structure TenantFeatureFlags where
  id : ℕ
  tenantId : ℕ
  collectionEnabled : Bool := false
  payoutEnabled : Bool := false

structure TenantVerification where
  id : ℕ
  tenantId : ℕ
  status : TenantVerificationStatus := .pendingVerification
  emailVerifiedAt : Option Timestamp := none
  reviewedAt : Option Timestamp := none
  reviewedBy : Option ℕ := none
  approvedAt : Option Timestamp := none
  rejectedAt : Option Timestamp := none
  rejectionReason : Option String := none
  moreInformationMessage : Option String := none

structure Profile where
  id : ℕ
  tenantId : Option ℕ
  email : Option String

structure Transaction where
  id : ℕ
  tenantId : ℕ
  customerId : Option ℕ
  subscriptionId : Option ℕ := none
  transactionType : Option TransactionType
  reference : String
  providerReference : Option String := none
  collectionTransid : Option String := none
  payerPhone : Option String
  channel : Option String := none
  amount : Numeric
  currency : String
  status : CollectionStatus
  providerResultcode : Option String := none
  providerMessage : Option String := none
  stkRequestedAt : Option Timestamp := none
  completedAt : Option Timestamp := none
  failedAt : Option Timestamp := none
  paymentProvider : Option PaymentProvider
  packageId : Option ℕ := none
  routerId : Option ℕ := none
  deviceMac : Option String := none
  captiveSessionId : Option ℕ := none
  activationStatus : Option ActivationStatus := none
  activatedAt : Option Timestamp := none

structure PaymentWebhook where
  id : ℕ
  tenantId : Option ℕ
  provider : String
  payload : Json
  signatureVerified : Bool
  processed : Bool
  processedAt : Option Timestamp := none

structure Customer where
  id : ℕ
  tenantId : ℕ
  customerNumber : String
  firstName : Option String
  lastName : Option String
  phone : String
  email : Option String
  username : Option String

structure Package where
  id : ℕ
  tenantId : ℕ
  priceTzs : Numeric
  status : PackageStatus
  activationType : PackageActivationType := .immediate
  durationMinutes : Option ℤ := none
  downloadSpeedKbps : Option ℤ := none
  uploadSpeedKbps : Option ℤ := none
  simultaneousSessions : ℤ := 1

structure Subscription where
  id : ℕ
  tenantId : ℕ
  customerId : ℕ
  packageId : ℕ
  voucherId : Option ℕ := none
  status : SubscriptionStatus
  activatedAt : Option Timestamp := none
  expiresAt : Option Timestamp := none

structure VoucherBatch where
  id : ℕ
  tenantId : ℕ
  packageId : ℕ
  quantity : ℤ
  codePrefix : Option String := none
  createdBy : Option ℕ := none

structure OfflineVoucher where
  id : ℕ
  tenantId : ℕ
  batchId : ℕ
  code : String
  status : VoucherStatus := .unused
  redeemedByCustomerId : Option ℕ := none
  redeemedSubscriptionId : Option ℕ := none
  redeemedAt : Option Timestamp := none

structure Router where
  id : ℕ
  tenantId : ℕ
  name : String
  hotspotNetworkCidr : Option Network := none
  hotspotGatewayIp : Option Address := none
  hotspotDnsServers : Option (List Address) := none
  wireguardPublicKey : Option String := none
  wireguardTunnelIp : Option Address := none
  wireguardPrivateKeyEncrypted : Option String := none
  radiusSecretEncrypted : Option String := none

structure CaptiveSession where
  id : ℕ
  tenantId : ℕ
  routerId : ℕ
  macAddress : Option String
  nonce : String
  expiresAt : Timestamp
  consumedAt : Option Timestamp

inductive Table
  | withdrawals | withdrawalEvents | withdrawalDestinations | tenantWallets
  | ledgerEntries | settlementLogs | tenantCommercialTerms | tenantSettlementConfig
  | tenants | tenantFeatureFlags | tenantVerifications | profiles | transactions
  | paymentWebhooks | customers | packages | subscriptions | voucherBatches
  | offlineVouchers | routers | captiveSessions
deriving DecidableEq

abbrev Row : Table → Type
  | .withdrawals => Withdrawal
  | .withdrawalEvents => WithdrawalEvent
  | .withdrawalDestinations => WithdrawalDestination
  | .tenantWallets => TenantWallet
  | .ledgerEntries => LedgerEntry
  | .settlementLogs => SettlementLog
  | .tenantCommercialTerms => TenantCommercialTerms
  | .tenantSettlementConfig => TenantSettlementConfig
  | .tenants => Tenant
  | .tenantFeatureFlags => TenantFeatureFlags
  | .tenantVerifications => TenantVerification
  | .profiles => Profile
  | .transactions => Transaction
  | .paymentWebhooks => PaymentWebhook
  | .customers => Customer
  | .packages => Package
  | .subscriptions => Subscription
  | .voucherBatches => VoucherBatch
  | .offlineVouchers => OfflineVoucher
  | .routers => Router
  | .captiveSessions => CaptiveSession

def rowId : (t : Table) → Row t → ℕ
  | .withdrawals, row => row.id
  | .withdrawalEvents, row => row.id
  | .withdrawalDestinations, row => row.id
  | .tenantWallets, row => row.id
  | .ledgerEntries, row => row.id
  | .settlementLogs, row => row.id
  | .tenantCommercialTerms, row => row.id
  | .tenantSettlementConfig, row => row.id
  | .tenants, row => row.id
  | .tenantFeatureFlags, row => row.id
  | .tenantVerifications, row => row.id
  | .profiles, row => row.id
  | .transactions, row => row.id
  | .paymentWebhooks, row => row.id
  | .customers, row => row.id
  | .packages, row => row.id
  | .subscriptions, row => row.id
  | .voucherBatches, row => row.id
  | .offlineVouchers, row => row.id
  | .routers, row => row.id
  | .captiveSessions, row => row.id

/-- Every text of the list can be stored. -/
def textsStorable (texts : List (Option String)) : Bool := texts.all storableOpt

/-- Every amount of the list fits its column. -/
def amountsFit (amounts : List Numeric) : Bool := amounts.all Numeric.fits

def rowValid : (t : Table) → Row t → Bool
  | .withdrawals, row =>
    amountsFit (row.amount :: row.providerCharge.toList) &&
      decide (row.currency.length ≤ 3) &&
      textsStorable [some row.currency, some row.idempotencyKey, row.providerReference,
        row.failureReason, row.verifiedRecipientName, row.providerResultCode,
        row.providerMessage, row.reviewNotes, row.twoFactorCodeHash, row.otpSentToEmail]
  | .withdrawalEvents, row => textsStorable [row.reason]
  | .withdrawalDestinations, row =>
    textsStorable [some row.channel, row.destinationCode, row.accountNumber]
  | .tenantWallets, row =>
    amountsFit [row.availableBalanceTzs, row.pendingBalanceTzs, row.reservedBalanceTzs,
      row.frozenBalanceTzs, row.totalDisbursedTzs] &&
      decide (row.currency.length ≤ 3) && textsStorable [some row.currency]
  | .ledgerEntries, row =>
    amountsFit (row.amount :: row.balanceAfter.toList) &&
      textsStorable [row.referenceType, row.description]
  | .settlementLogs, row =>
    amountsFit [row.grossAmount, row.feeAmount, row.netAmount] &&
      textsStorable [some row.batchReference, some row.status]
  | .tenantCommercialTerms, row =>
    decide (0 ≤ row.commissionRatePercent ∧ row.commissionRatePercent ≤ 10000) &&
      textsStorable [row.notes]
  | .profiles, row => textsStorable [row.email]
  | .transactions, row =>
    amountsFit [row.amount] && decide (row.currency.length ≤ 3) &&
      textsStorable [some row.reference, row.providerReference, row.collectionTransid,
        row.payerPhone, row.channel, some row.currency, row.providerResultcode,
        row.providerMessage, row.deviceMac]
  | .paymentWebhooks, row => textsStorable [some row.provider] && row.payload.storable
  | .customers, row =>
    textsStorable [some row.customerNumber, row.firstName, row.lastName, some row.phone,
      row.email, row.username]
  | .packages, row => amountsFit [row.priceTzs]
  | .captiveSessions, row => textsStorable [row.macAddress, some row.nonce]
  | .tenantVerifications, row =>
    textsStorable [row.rejectionReason, row.moreInformationMessage]
  | .voucherBatches, row => textsStorable [row.codePrefix]
  | .offlineVouchers, row => textsStorable [some row.code]
  | .routers, row =>
    textsStorable [some row.name, row.wireguardPublicKey, row.wireguardPrivateKeyEncrypted,
      row.radiusSecretEncrypted]
  | .tenantSettlementConfig, _ => true
  | .tenants, _ => true
  | .tenantFeatureFlags, _ => true
  | .subscriptions, _ => true

/-- The unique constraints and unique indexes beside the primary keys. -/
def rowConflict : (t : Table) → Row t → Row t → Bool
  | .withdrawals, left, right => left.idempotencyKey == right.idempotencyKey
  | .tenantWallets, left, right => left.tenantId == right.tenantId
  | .tenantCommercialTerms, left, right =>
    left.tenantId == right.tenantId && (left.isActive && right.isActive)
  | .tenantSettlementConfig, left, right =>
    left.tenantId == right.tenantId && (left.isActive && right.isActive)
  | .tenantFeatureFlags, left, right => left.tenantId == right.tenantId
  | .tenantVerifications, left, right => left.tenantId == right.tenantId
  | .transactions, left, right =>
    left.tenantId == right.tenantId && left.reference == right.reference
  | .customers, left, right =>
    left.tenantId == right.tenantId &&
      (left.phone == right.phone || left.customerNumber == right.customerNumber ||
        (left.username.isSome && left.username == right.username))
  | .offlineVouchers, left, right =>
    left.tenantId == right.tenantId && left.code == right.code
  | .routers, left, right =>
    left.wireguardTunnelIp.isSome && left.wireguardTunnelIp == right.wireguardTunnelIp
  | .captiveSessions, left, right => left.nonce == right.nonce
  | _, _, _ => false

theorem rowConflict_comm (t : Table) (left right : Row t) :
    rowConflict t left right = rowConflict t right left := by
  cases t <;> simp only [rowConflict]
  all_goals
    rw [Bool.eq_iff_iff]
    simp only [Bool.and_eq_true, Bool.or_eq_true, beq_iff_eq]
    grind

/-- The schema the migrations create, on the modelled columns. -/
abbrev schema : Schema Table Row where
  id := rowId
  valid := rowValid
  conflict := rowConflict
  conflict_comm := rowConflict_comm

end InfinityRadius.Models
