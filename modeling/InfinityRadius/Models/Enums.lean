import Mathlib.Tactic.Common

/-!
# Status vocabularies

The string enumerations of `core/enums.py` that decide control flow.  `value`
is the text stored in the column and shown in error messages.
-/

namespace InfinityRadius.Models

inductive WithdrawalStatus
  | draft | pendingApproval | approved | processing | ambiguous
  | success | failed | rejected | cancelled | reversed
deriving DecidableEq

def WithdrawalStatus.value : WithdrawalStatus → String
  | draft => "DRAFT"
  | pendingApproval => "PENDING_APPROVAL"
  | approved => "APPROVED"
  | processing => "PROCESSING"
  | ambiguous => "AMBIGUOUS"
  | success => "SUCCESS"
  | failed => "FAILED"
  | rejected => "REJECTED"
  | cancelled => "CANCELLED"
  | reversed => "REVERSED"

/-- The statuses before the transfer is requested. -/
def WithdrawalStatus.early : WithdrawalStatus → Bool
  | draft | pendingApproval | approved => true
  | _ => false

/-- The statuses a result of the provider can still change. -/
def WithdrawalStatus.pending : WithdrawalStatus → Bool
  | processing | ambiguous => true
  | _ => false

/-- The statuses whose amount is reserved. -/
def WithdrawalStatus.held : WithdrawalStatus → Bool
  | draft | pendingApproval | approved | processing | ambiguous => true
  | _ => false

/-- The statuses whose amount went back to the available balance before any payout. -/
def WithdrawalStatus.closed : WithdrawalStatus → Bool
  | failed | cancelled | rejected => true
  | _ => false

inductive LedgerEntryType
  | collection | tenantShare | platformFee | refund | reversal
  | disbursement | disbursementReversal | adjustment
deriving DecidableEq

inductive LedgerDirection
  | credit | debit
deriving DecidableEq

inductive WalletBucket
  | available | pending | reserved | frozen | totalDisbursed
deriving DecidableEq

def WalletBucket.value : WalletBucket → String
  | available => "available"
  | pending => "pending"
  | reserved => "reserved"
  | frozen => "frozen"
  | totalDisbursed => "total_disbursed"

inductive SettlementMode
  | directMerchantSettlement | platformManagedWallet
deriving DecidableEq

inductive TransactionType
  | collection | captivePortal
deriving DecidableEq

def TransactionType.value : TransactionType → String
  | collection => "COLLECTION"
  | captivePortal => "CAPTIVE_PORTAL"

inductive PaymentProvider
  | selcomCollection
deriving DecidableEq

inductive ActivationStatus
  | pending | activating | active | failed | requiresReview
deriving DecidableEq

inductive CollectionStatus
  | created | stkSent | pending | inprogress | completed | failed | cancelled
  | userCancelled | declined | rejected | ambiguous | expired | requiresReview
deriving DecidableEq

def CollectionStatus.value : CollectionStatus → String
  | created => "CREATED"
  | stkSent => "STK_SENT"
  | pending => "PENDING"
  | inprogress => "INPROGRESS"
  | completed => "COMPLETED"
  | failed => "FAILED"
  | cancelled => "CANCELLED"
  | userCancelled => "USERCANCELLED"
  | declined => "DECLINED"
  | rejected => "REJECTED"
  | ambiguous => "AMBIGUOUS"
  | expired => "EXPIRED"
  | requiresReview => "REQUIRES_REVIEW"

/-- `COLLECTION_TERMINAL_STATUSES`. -/
def CollectionStatus.terminal : CollectionStatus → Bool
  | completed | failed | cancelled | userCancelled | declined | rejected | expired => true
  | _ => false

inductive ProviderAmountMatch
  | principalExact | principalPlusStoredProviderCharge
deriving DecidableEq

inductive PackageStatus
  | draft | active | archived
deriving DecidableEq

inductive SubscriptionStatus
  | pending | active | expired | suspended | cancelled | quotaExceeded
deriving DecidableEq

def SubscriptionStatus.value : SubscriptionStatus → String
  | pending => "PENDING"
  | active => "ACTIVE"
  | expired => "EXPIRED"
  | suspended => "SUSPENDED"
  | cancelled => "CANCELLED"
  | quotaExceeded => "QUOTA_EXCEEDED"

inductive PackageActivationType
  | immediate | firstUse
deriving DecidableEq

inductive VoucherStatus
  | unused | used | expired | void
deriving DecidableEq

inductive TenantStatus
  | pendingVerification | active | moreInformationRequired | rejected | suspended
deriving DecidableEq

def TenantStatus.value : TenantStatus → String
  | pendingVerification => "PENDING_VERIFICATION"
  | active => "ACTIVE"
  | moreInformationRequired => "MORE_INFORMATION_REQUIRED"
  | rejected => "REJECTED"
  | suspended => "SUSPENDED"

inductive TenantVerificationStatus
  | pendingVerification | approved | moreInformationRequired | rejected
deriving DecidableEq

end InfinityRadius.Models
