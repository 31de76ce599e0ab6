import InfinityRadius.Services.Collections
import InfinityRadius.Services.CaptivePortal
import InfinityRadius.Services.Payouts

/-!
# The statements of payments and payouts

What a payment or a payout issues once it is under way: anything but a statement on the
callbacks, and no write to the columns that verification codes and reviews are kept in.  Every
property of statements that lets that much through holds of all these operations.
-/

namespace InfinityRadius.Services

open Amounts Payload Program Sql Models

/-- The columns a verification code or a review is kept in. -/
def guarded (w : Withdrawal) : Option String × Option Timestamp × ℕ × Option Timestamp ×
    Option Timestamp × ℕ × Option String × Option ℕ :=
  (w.twoFactorCodeHash, w.twoFactorExpiresAt, w.twoFactorAttempts, w.twoFactorConfirmedAt,
    w.otpLastSentAt, w.otpSendCount, w.otpSentToEmail, w.reviewedBy)

/-- The property lets an operation read and write what it needs. -/
structure Lets (P : Stmt Table Row Ask Request → Prop) : Prop where
  select : ∀ t p, t ≠ .paymentWebhooks → P (.select t p)
  selectForUpdate : ∀ t p, t ≠ .paymentWebhooks → P (.selectForUpdate t p)
  scan : ∀ t p, t ≠ .paymentWebhooks → P (.scan t p)
  insert : ∀ t build, t ∉ [.paymentWebhooks, .withdrawals] → P (.insert t build)
  update : ∀ t id write, t ∉ [.paymentWebhooks, .withdrawals] → P (.update t id write)
  rewrite : ∀ (w : Withdrawal) (set : Withdrawal → Withdrawal), guarded (set w) = guarded w →
    P (.update .withdrawals w.id (w.flush (set w)))
  ask : ∀ question, P (.ask question)
  send : ∀ request, P (.send request)

section Statements

variable {P : Stmt Table Row Ask Request → Prop} (hP : Lets P)

include hP

/-! ## The repository -/

namespace Lets

theorem selectOne {t : Table} (ht : t ≠ .paymentWebhooks) (p : Row t → Bool) :
    (Models.selectOne t p).All P := ⟨hP.select t p ht, fun _ => all_scalarOneOrNone _⟩

theorem selectFirst {t : Table} (ht : t ≠ .paymentWebhooks) (p : Row t → Bool) :
    (Models.selectFirst t p).All P := ⟨hP.select t p ht, fun _ => trivial⟩

theorem getById {t : Table} (ht : t ≠ .paymentWebhooks) (tenantId : Option ℕ) (id : ℕ) :
    (Models.getById t tenantId id).All P := hP.selectOne ht _

theorem getByIdForUpdate {t : Table} (ht : t ≠ .paymentWebhooks) (tenantId : Option ℕ) (id : ℕ) :
    (Models.getByIdForUpdate t tenantId id).All P :=
  ⟨hP.selectForUpdate t _ ht, fun _ => all_scalarOneOrNone _⟩

theorem create {t : Table} (ht : t ∉ [.paymentWebhooks, .withdrawals]) (build : ℕ → Row t) :
    (Models.create t build).All P := ⟨hP.insert t build ht, fun _ => Prog.all_orRaise _ _⟩

theorem updateRow {t : Table} (ht : t ∉ [.paymentWebhooks, .withdrawals]) (id : ℕ)
    (write : Row t → Row t) : (Models.updateRow t id write).All P :=
  ⟨hP.update t id write ht, fun _ => Prog.all_orRaise _ _⟩

theorem updateTransaction (transaction : Transaction) (set : Transaction → Transaction) :
    (Models.updateTransaction transaction set).All P := hP.updateRow (by decide) _ _

theorem updateWithdrawal {w : Withdrawal} {set : Withdrawal → Withdrawal}
    (h : guarded (set w) = guarded w) : (Models.updateWithdrawal w set).All P :=
  ⟨hP.rewrite w set h, fun _ => Prog.all_orRaise _ _⟩

theorem now : Models.now.All P := ⟨hP.ask _, fun _ => trivial⟩

theorem sendRequest (request : Request) : (Models.sendRequest request).All P :=
  ⟨hP.send request, fun _ => trivial⟩

end Lets

/-! ## Balances -/

namespace WalletService

theorem lets_lockedWallet (tenantId : ℕ) : (lockedWallet tenantId).All P :=
  all_lockedWallet (fun p => hP.select _ p (by decide)) (fun p => hP.selectForUpdate _ p (by decide))
    (fun build => hP.insert _ build (by decide)) _

theorem lets_moveBucket (wallet : TenantWallet) (bucket : WalletBucket) (delta : Decimal) :
    (moveBucket wallet bucket delta).All P :=
  all_moveBucket (fun id write => hP.update _ id write (by decide)) _ _ _

theorem lets_reserveForWithdrawal (tenantId : ℕ) (amount : Decimal) :
    (reserveForWithdrawal tenantId amount).All P :=
  .bind (Prog.all_require _ _) fun _ => .bind (lets_lockedWallet hP _) fun _ =>
    .bind (lets_moveBucket hP _ _ _) fun _ => .bind (lets_moveBucket hP _ _ _) fun _ => trivial

theorem lets_releaseReservation (tenantId : ℕ) (amount : Decimal) :
    (releaseReservation tenantId amount).All P :=
  .bind (Prog.all_require _ _) fun _ => .bind (lets_lockedWallet hP _) fun _ =>
    .bind (lets_moveBucket hP _ _ _) fun _ => .bind (lets_moveBucket hP _ _ _) fun _ => trivial

theorem lets_completeDisbursement (tenantId : ℕ) (amount : Decimal) (referenceId : Option ℕ)
    (description : Option String) :
    (completeDisbursement tenantId amount referenceId description).All P :=
  .bind (Prog.all_require _ _) fun _ => .bind (lets_lockedWallet hP _) fun _ =>
    .bind (lets_moveBucket hP _ _ _) fun _ => .bind (lets_moveBucket hP _ _ _) fun _ =>
      hP.create (by decide) _

theorem lets_reverseDisbursement (tenantId : ℕ) (amount : Decimal) (referenceId : Option ℕ)
    (description : Option String) :
    (reverseDisbursement tenantId amount referenceId description).All P :=
  .bind (Prog.all_require _ _) fun _ => .bind (lets_lockedWallet hP _) fun _ =>
    .bind (lets_moveBucket hP _ _ _) fun _ => .bind (lets_moveBucket hP _ _ _) fun _ =>
      hP.create (by decide) _

theorem lets_processCollection (tenantId : ℕ) (grossAmount : Decimal) (referenceType : String)
    (referenceId : Option ℕ) (description : Option String) :
    (processCollection tenantId grossAmount referenceType referenceId description).All P :=
  .bind (Prog.all_require _ _) fun _ =>
    .bind (.bind (hP.selectFirst (by decide) _) fun _ => Prog.all_orRaise _ _) fun _ =>
      .bind (Prog.all_orRaise _ _) fun _ => .bind (lets_lockedWallet hP _) fun _ =>
        .bind (lets_moveBucket hP _ _ _) fun _ => .bind (hP.create (by decide) _) fun _ =>
          .bind (hP.create (by decide) _) fun _ => .bind (hP.create (by decide) _) fun _ => trivial

end WalletService

/-! ## Calls of the providers -/

namespace PayoutService

open Integrations.SelcomBusiness

theorem lets_call {α : Type} (settings : Settings) (model : Validator α) (request : Request) :
    (call settings model request).All P := by
  refine .bind (.bind (Prog.all_require _ _) fun _ => Prog.all_require _ _) fun _ =>
    .bind ?_ fun _ => .bind (hP.sendRequest request) fun answer => ?_
  · rw [signRequest]
    split <;> trivial
  · cases validated model answer <;> trivial

omit hP in
theorem lets_attempt {α : Type} {request : Tx α} (h : request.All P) :
    (attempt request).All P := by
  apply Prog.All.tryCatch
  · exact .bind h fun _ => trivial
  · intro failure
    cases failure <;> trivial

/-! ## Payouts -/

variable {w : Withdrawal}

theorem lets_transition (toStatus : WithdrawalStatus) (actorId : Option ℕ)
    (reason : Option String) : (transition w toStatus actorId reason).All P :=
  .bind (hP.updateWithdrawal rfl) fun _ => .bind (hP.create (by decide) _) fun _ => trivial

theorem lets_failWithdrawal (reason : String) (actorId : Option ℕ) :
    (failWithdrawal w reason actorId).All P :=
  .bind (WalletService.lets_releaseReservation hP _ _) fun _ => .bind hP.now fun _ =>
    .bind (hP.updateWithdrawal rfl) fun _ => lets_transition hP _ _ _

theorem lets_applyProviderResult (result : ProviderResult) (actorId : Option ℕ) :
    (applyProviderResult w result actorId).All P := by
  rw [applyProviderResult]
  apply Prog.All.ite
  · exact fun _ => trivial
  · intro _
    dsimp only
    cases (interpretResultcode result.resultcode result.message).outcome with
    | success =>
      cases resultMismatch w result with
      | some mismatch =>
        exact .bind (hP.updateWithdrawal rfl) fun _ => lets_transition hP _ _ _
      | none =>
        exact .bind (WalletService.lets_completeDisbursement hP _ _ _ _) fun _ =>
          .bind hP.now fun _ => .bind (hP.updateWithdrawal rfl) fun _ => lets_transition hP _ _ _
    | inprogress => exact hP.updateWithdrawal rfl
    | ambiguous => exact .bind (hP.updateWithdrawal rfl) fun _ => lets_transition hP _ _ _
    | fail => exact .bind (hP.updateWithdrawal rfl) fun _ => lets_failWithdrawal hP _ _

theorem lets_reconcileLocked (settings : Settings) (actorId : Option ℕ) :
    (reconcileLocked settings w actorId).All P := by
  refine .bind (Prog.all_require _ _) fun _ =>
    .bind (lets_attempt (lets_call hP _ _ _)) fun query => ?_
  cases query with
  | error _ => trivial
  | ok query => exact lets_applyProviderResult hP _ _

theorem lets_applyProcessAnswer (settings : Settings)
    (answer : Except SelcomBusinessError TransactionProcessResponse) (actorId : Option ℕ) :
    (applyProcessAnswer settings w answer actorId).All P := by
  cases answer with
  | error error =>
    cases error with
    | transport _ => exact lets_reconcileLocked hP _ _
    | api _ _ => exact lets_failWithdrawal hP _ _
    | _ => trivial
  | ok response =>
    exact .bind (hP.updateWithdrawal rfl) fun _ => lets_applyProviderResult hP _ _

theorem lets_submitTransfer (settings : Settings)
    (destinationCode accountNumber verifiedName : String) (actorId : Option ℕ) :
    (submitTransfer settings w destinationCode accountNumber verifiedName actorId).All P :=
  .bind (lets_transition hP _ _ _) fun _ => .bind hP.now fun _ =>
    .bind (hP.updateWithdrawal rfl) fun _ => .bind (lets_attempt (lets_call hP _ _ _)) fun _ =>
      lets_applyProcessAnswer hP _ _ _

theorem lets_submitToSelcom (settings : Settings) (actorId : Option ℕ) :
    (submitToSelcom settings w actorId).All P := by
  refine .ite (fun _ => trivial) fun _ => .ite (fun _ => lets_failWithdrawal hP _ _) fun _ =>
    .ite (fun _ => lets_failWithdrawal hP _ _) fun _ =>
      .bind (hP.getById (by decide) _ _) fun destination =>
        .ite (fun _ => lets_failWithdrawal hP _ _) fun _ => .bind (Prog.all_require _ _) fun _ =>
          .bind (lets_attempt (lets_call hP _ _ _)) fun lookup => ?_
  cases lookup with
  | error error =>
    cases error with
    | transport _ => trivial
    | _ => exact lets_failWithdrawal hP _ _
  | ok lookup =>
    exact .ite (fun _ => lets_failWithdrawal hP _ _) fun _ =>
      .bind (hP.updateWithdrawal rfl) fun _ => lets_submitTransfer hP _ _ _ _ _

theorem lets_sendSuperAdminReviewEmail (settings : Settings) :
    (sendSuperAdminReviewEmail settings).All P := by
  rw [sendSuperAdminReviewEmail]
  split
  · trivial
  · exact .ite (fun _ => trivial) fun _ => .bind ⟨hP.ask _, fun _ => trivial⟩ fun _ => trivial

theorem lets_enforceWithdrawalLimits (settings : Settings) (tenantId : ℕ) (amount : Decimal) :
    (enforceWithdrawalLimits settings tenantId amount).All P := by
  refine .bind (Prog.all_require _ _) fun _ => .bind (Prog.all_require _ _) fun _ =>
    .ite (fun _ => trivial) fun _ => .bind hP.now fun _ => .bind ?_ fun _ =>
      .bind (Prog.all_require _ _) fun _ => Prog.all_require _ _
  exact ⟨hP.scan _ _ (by decide), fun _ => trivial⟩

theorem lets_resolveVerifiedEmail (tenantId actorId : ℕ) :
    (resolveVerifiedEmail tenantId actorId).All P := by
  refine .bind (hP.getById (by decide) _ _) fun profile =>
    .bind (hP.selectOne (by decide) _) fun verification => ?_
  split
  · exact .ite (fun _ => trivial) fun _ => trivial
  · trivial

theorem lets_cancelWithdrawal (tenantId withdrawalId actorId : ℕ) (reason : Option String) :
    (cancelWithdrawal tenantId withdrawalId actorId reason).All P :=
  .bind (hP.getByIdForUpdate (by decide) _ _) fun _ => .bind (Prog.all_orRaise _ _) fun _ =>
    .bind (Prog.all_require _ _) fun _ => .bind (Prog.all_require _ _) fun _ =>
      .bind (WalletService.lets_releaseReservation hP _ _) fun _ => .bind hP.now fun _ =>
        .bind (hP.updateWithdrawal rfl) fun _ => lets_transition hP _ _ _

theorem lets_reverseWithdrawal (tenantId withdrawalId : ℕ) (actorId : Option ℕ)
    (reason : String) : (reverseWithdrawal tenantId withdrawalId actorId reason).All P :=
  .bind (Prog.all_require _ _) fun _ => .bind (hP.getByIdForUpdate (by decide) _ _) fun _ =>
    .bind (Prog.all_orRaise _ _) fun _ => .bind (Prog.all_require _ _) fun _ =>
      .bind (WalletService.lets_reverseDisbursement hP _ _ _ _) fun _ => lets_transition hP _ _ _

theorem lets_reconcileWithdrawal (runtime : Runtime) (withdrawalId : ℕ) :
    (reconcileWithdrawal runtime withdrawalId).All P :=
  .bind (hP.getByIdForUpdate (by decide) _ _) fun _ => .bind (Prog.all_orRaise _ _) fun _ =>
    lets_reconcileLocked hP _ _

theorem lets_reconcileIfPending (runtime : Runtime) (withdrawalId : ℕ) :
    (reconcileIfPending runtime withdrawalId).All P :=
  .bind (hP.getByIdForUpdate (by decide) _ _) fun _ => .bind (Prog.all_orRaise _ _) fun _ =>
    .ite (fun _ => trivial) fun _ => .bind (lets_reconcileLocked hP _ _) fun _ => trivial

theorem lets_applyDisbursementResult (withdrawalId : ℕ) (providerSucceeded : Bool)
    (providerReference : String) (detail : Option String) :
    (applyDisbursementResult withdrawalId providerSucceeded providerReference detail).All P :=
  .bind (hP.getByIdForUpdate (by decide) _ _) fun _ => .bind (Prog.all_orRaise _ _) fun _ =>
    .ite (fun _ => trivial) fun _ => .ite (fun _ =>
      .bind (WalletService.lets_completeDisbursement hP _ _ _ _) fun _ => .bind hP.now fun _ =>
        .bind (hP.updateWithdrawal rfl) fun _ => lets_transition hP _ _ _) fun _ =>
      lets_failWithdrawal hP _ _

end PayoutService

/-! ## Payments -/

namespace SelcomPaymentProvider

open Integrations.SelcomCollection

theorem lets_call {α : Type} (settings : Settings) (model : Validator α) (request : Request) :
    (call settings model request).All P := by
  refine .bind ?_ fun _ => .bind (hP.sendRequest request) fun answer => ?_
  · rw [signRequest]
    split
    · split <;> trivial
    · trivial
  · cases validated model answer <;> trivial

omit hP in
theorem lets_attempt {α : Type} {request : Tx α} (h : request.All P) :
    (attempt request).All P := by
  apply Prog.All.tryCatch
  · exact .bind h fun _ => trivial
  · intro failure
    cases failure <;> trivial

variable {t : Transaction}

theorem lets_transition (toStatus : CollectionStatus) (metadata : List (Option String))
    (extraColumns : Transaction → Transaction) :
    (transition t toStatus metadata extraColumns).All P :=
  .bind (hP.updateTransaction _ _) fun _ => .bind (Prog.all_require _ _) fun _ => trivial

/-- What a flow does with a verified payment is one of these operations. -/
def LetsFinalise (P : Stmt Table Row Ask Request → Prop) (provider : SelcomPaymentProvider) :
    Prop :=
  ∀ transaction statusData, (provider.finalizePayment transaction statusData).All P

theorem lets_applyOrderStatus (settings : Settings) {provider : SelcomPaymentProvider}
    (hfinalise : LetsFinalise P provider) (statusData : OrderStatusData)
    (providerResultcode : Option String) :
    (applyOrderStatus settings provider t statusData providerResultcode).All P := by
  refine .bind (Prog.all_require _ _) fun _ => .ite (fun _ => trivial) fun _ =>
    .ite (fun _ => ?_) fun _ => ?_
  · rw [applyCompleted]
    split
    · exact lets_transition hP _ _ _
    · exact .bind (hfinalise _ _) fun _ => .bind hP.now fun _ => lets_transition hP _ _ _
  · rw [applyMapped]
    split
    · exact lets_transition hP _ _ _
    · refine .ite (fun _ => .bind hP.now fun _ => lets_transition hP _ _ _) fun _ =>
        .ite (fun _ => trivial) fun _ => .bind ?_ fun _ =>
          .ite (fun _ => lets_transition hP _ _ _) fun _ => lets_transition hP _ _ _
      rw [isStalePending]
      split
      · trivial
      · exact .ite (fun _ => trivial) fun _ => .bind hP.now fun _ => trivial

theorem lets_queryAndApply (settings : Settings) {provider : SelcomPaymentProvider}
    (hfinalise : LetsFinalise P provider) : (queryAndApply settings provider t).All P := by
  refine .bind (.bind (Prog.all_require _ _) fun _ =>
    .bind (Prog.all_require _ _) fun _ => Prog.all_require _ _) fun _ =>
      .bind (lets_attempt (lets_call hP _ _ _)) fun answer => ?_
  cases answer with
  | error _ => trivial
  | ok response =>
    dsimp only
    split
    · trivial
    · exact lets_applyOrderStatus hP _ hfinalise _ _

end SelcomPaymentProvider

theorem CollectionService.lets_finalise :
    SelcomPaymentProvider.LetsFinalise P CollectionService.provider :=
  fun _ _ => .bind (WalletService.lets_processCollection hP _ _ _ _ _) fun _ => trivial

theorem CaptivePortalService.lets_finalise :
    SelcomPaymentProvider.LetsFinalise P CaptivePortalService.provider :=
  fun _ _ => .bind (WalletService.lets_processCollection hP _ _ _ _ _) fun _ =>
    hP.updateTransaction _ _

end Statements

/-! ## Codes -/

/-- The property lets an operation write verification codes as well. -/
structure LetsCodes (P : Stmt Table Row Ask Request → Prop) : Prop extends Lets P where
  code : ∀ (w : Withdrawal) (set : Withdrawal → Withdrawal), (set w).reviewedBy = w.reviewedBy →
    P (.update .withdrawals w.id (w.flush (set w)))

section Codes

variable {P : Stmt Table Row Ask Request → Prop} (hP : LetsCodes P) {w : Withdrawal}

include hP

theorem LetsCodes.writeCode {set : Withdrawal → Withdrawal}
    (h : (set w).reviewedBy = w.reviewedBy) : (Models.updateWithdrawal w set).All P :=
  ⟨hP.code w set h, fun _ => Prog.all_orRaise _ _⟩

namespace TwoFactorService

omit hP in
theorem all_hashCode (runtime : Runtime) (withdrawalId : ℕ) (code : String) :
    (hashCode runtime withdrawalId code).All P := by
  refine .bind ?_ fun _ => trivial
  rw [otpSecret]
  split
  · trivial
  · split <;> trivial

theorem lets_issueChallenge (runtime : Runtime) (email : String) :
    (issueChallenge runtime w email).All P :=
  .bind ⟨hP.ask _, fun _ => trivial⟩ fun _ => .bind (all_hashCode _ _ _) fun _ =>
    .bind hP.now fun _ => .bind (hP.writeCode rfl) fun _ => trivial

theorem lets_isExhausted (runtime : Runtime) : (isExhausted runtime w).All P := by
  apply Prog.All.ite
  · exact fun _ => trivial
  · intro _
    split
    · trivial
    · exact .bind hP.now fun _ => trivial

theorem lets_verify (runtime : Runtime) (code : String) (currentEmail : Option String) :
    (verify runtime w code currentEmail).All P := by
  rw [verify]
  split
  · trivial
  · exact .bind (lets_isExhausted hP _) fun _ => .ite (fun _ => trivial) fun _ =>
      .ite (fun _ => trivial) fun _ => .bind (all_hashCode _ _ _) fun _ =>
        .ite (fun _ => .bind hP.now fun _ => .bind (hP.writeCode rfl) fun _ => trivial)
          fun _ => .bind (hP.writeCode rfl) fun _ => trivial

end TwoFactorService

namespace PayoutService

theorem lets_issueAndSendOtp (runtime : Runtime) (email : String) :
    (issueAndSendOtp runtime w email).All P :=
  .bind (TwoFactorService.lets_issueChallenge hP _ _) fun _ => .bind hP.now fun _ =>
    .bind (hP.writeCode rfl) fun _ => .bind ⟨hP.ask _, fun _ => trivial⟩ fun _ => trivial

theorem lets_resendOtp (runtime : Runtime) (tenantId withdrawalId actorId : ℕ) :
    (resendOtp runtime tenantId withdrawalId actorId).All P := by
  refine .bind (hP.getByIdForUpdate (by decide) _ _) fun _ =>
    .bind (Prog.all_orRaise _ _) fun withdrawal =>
      .bind (Prog.all_require _ _) fun _ => .bind (Prog.all_require _ _) fun _ =>
        .bind (Prog.all_require _ _) fun _ => .bind ?_ fun _ =>
          .bind (lets_resolveVerifiedEmail hP.toLets _ _) fun _ =>
            .bind (lets_issueAndSendOtp hP _ _) fun _ => trivial
  rw [requireCooldown]
  split
  · trivial
  · exact .bind hP.now fun _ => Prog.all_require _ _

theorem lets_confirmTwoFactor (runtime : Runtime) (tenantId withdrawalId actorId : ℕ)
    (code : String) :
    (confirmTwoFactor runtime tenantId withdrawalId actorId code).All P := by
  have hlets := hP.toLets
  refine .bind (hP.getByIdForUpdate (by decide) _ _) fun _ =>
    .bind (Prog.all_orRaise _ _) fun withdrawal =>
      .bind (Prog.all_require _ _) fun _ => .bind (Prog.all_require _ _) fun _ =>
        .bind (hP.getById (by decide) _ _) fun _ =>
          .bind (TwoFactorService.lets_verify hP _ _ _) fun _ =>
            .ite (fun _ => .ite (fun _ => ?_) fun _ => ?_) fun _ => ?_
  · exact .bind (lets_transition hlets _ _ _) fun _ =>
      .bind (lets_sendSuperAdminReviewEmail hlets _) fun _ => trivial
  · exact .bind (lets_transition hlets _ _ _) fun _ =>
      .bind (lets_submitToSelcom hlets _ _) fun _ => trivial
  · exact .bind (TwoFactorService.lets_isExhausted hP _) fun _ => .ite (fun _ =>
      .bind (WalletService.lets_releaseReservation hlets _ _) fun _ =>
        .bind (lets_transition hlets _ _ _) fun _ => trivial) fun _ => trivial

end PayoutService

end Codes

end InfinityRadius.Services
