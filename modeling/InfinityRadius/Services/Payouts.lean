import InfinityRadius.Integrations.SelcomBusiness
import InfinityRadius.Services.TwoFactor
import InfinityRadius.Services.Wallet

/-!
# Payouts

`services/payouts.py`: a withdrawal is requested and its amount reserved, it is
confirmed with an emailed code, approved when it is large, submitted to Selcom,
and resolved by what Selcom answers then or to a later query.
-/

namespace InfinityRadius.Services

open Amounts Payload Program Models Integrations.SelcomBusiness

/-- `_mask_email`. -/
def maskEmail (email : String) : String :=
  let chars := email.toList
  let mailbox := chars.takeWhile (· ≠ '@')
  let domain := (chars.dropWhile (· ≠ '@')).drop 1
  if domain = [] then "***"
  else
    match mailbox with
    | [] => "***@" ++ String.ofList domain
    | first :: _ => String.ofList [first] ++ "***@" ++ String.ofList domain

/-- `match_provider_amount`. -/
def matchProviderAmount (providerAmount withdrawalAmount : Decimal)
    (storedProviderCharge : Option Decimal) : Option ProviderAmountMatch :=
  if providerAmount = withdrawalAmount then some .principalExact
  else
    match storedProviderCharge with
    | none => none
    | some charge =>
      if 0 ≤ charge ∧ providerAmount = context (withdrawalAmount + charge) then
        some .principalPlusStoredProviderCharge
      else none

namespace SettlementConfigService

def getMode (tenantId : ℕ) : Tx SettlementMode := do
  let config ← selectFirst .tenantSettlementConfig fun config =>
    config.tenantId == tenantId && config.isActive
  pure ((config.map TenantSettlementConfig.mode).getD .directMerchantSettlement)

end SettlementConfigService

namespace PayoutService

/-! ## The state machine -/

def transition (withdrawal : Withdrawal) (toStatus : WithdrawalStatus) (actorId : Option ℕ)
    (reason : Option String) : Tx Withdrawal := do
  let fromStatus := withdrawal.status
  let withdrawal ← updateWithdrawal withdrawal fun w => { w with status := toStatus }
  let _ ← create .withdrawalEvents fun id =>
    { id, tenantId := withdrawal.tenantId, withdrawalId := withdrawal.id,
      fromStatus := some fromStatus, toStatus, actorId, reason }
  pure withdrawal

def failWithdrawal (withdrawal : Withdrawal) (reason : String) (actorId : Option ℕ) :
    Tx Withdrawal := do
  let _ ← WalletService.releaseReservation withdrawal.tenantId (ofNumeric withdrawal.amount)
  let time ← now
  let withdrawal ← updateWithdrawal withdrawal fun w =>
    { w with failureReason := some reason, completedAt := some time }
  transition withdrawal .failed actorId (some reason)

/-! ## Limits -/

def microsPerDay : ℤ := 86400 * microsPerSecond

/-- `_DAILY_LIMIT_EXCLUDED_STATUSES`. -/
def dailyLimitExcluded : WithdrawalStatus → Bool
  | .cancelled | .rejected | .failed => true
  | _ => false

def dailyTotals (tenantId : ℕ) (since : Timestamp) : Tx (Decimal × ℕ) := do
  let rows ← issue (.scan .withdrawals fun w =>
    w.tenantId == tenantId && decide (since ≤ w.createdAt) && !dailyLimitExcluded w.status)
  pure (ofNumeric (rows.map Withdrawal.amount).sum, rows.length)

def enforceWithdrawalLimits (settings : Settings) (tenantId : ℕ) (amount : Decimal) :
    Tx Unit := do
  Prog.require (settings.withdrawalMinAmountTzs.all fun least => decide (least ≤ amount))
    (.domainValidation ("Withdrawal amount is below the minimum of "
      ++ decimalText (settings.withdrawalMinAmountTzs.getD 0) ++ " " ++ defaultCurrency))
  Prog.require (settings.withdrawalMaxSingleAmountTzs.all fun most => decide (amount ≤ most))
    (.domainValidation ("Withdrawal amount exceeds the maximum single withdrawal of "
      ++ decimalText (settings.withdrawalMaxSingleAmountTzs.getD 0) ++ " " ++ defaultCurrency))
  if settings.withdrawalDailyLimitTzs = none ∧ settings.withdrawalDailyCountLimit = none then
    pure ()
  else do
    let time ← now
    let (dailyTotal, dailyCount) ← dailyTotals tenantId (time - time % microsPerDay)
    Prog.require (settings.withdrawalDailyLimitTzs.all fun limit =>
        decide (context (dailyTotal + amount) ≤ limit))
      (.domainValidation ("This withdrawal would exceed today's withdrawal limit of "
        ++ decimalText (settings.withdrawalDailyLimitTzs.getD 0) ++ " " ++ defaultCurrency
        ++ " for this tenant"))
    Prog.require (settings.withdrawalDailyCountLimit.all fun limit =>
        decide ((dailyCount : ℤ) + 1 ≤ limit))
      (.domainValidation ("This tenant has reached today's limit of "
        ++ toString (settings.withdrawalDailyCountLimit.getD 0) ++ " withdrawal(s)"))

/-! ## Verification codes -/

def resolveVerifiedEmail (tenantId actorId : ℕ) : Tx String := do
  let profile ← getById .profiles (some tenantId) actorId
  let verification ← selectOne .tenantVerifications fun v => v.tenantId == tenantId
  match profile.bind Profile.email, verification.bind TenantVerification.emailVerifiedAt with
  | some email, some _ => if email.isEmpty then throw refusal else pure email
  | _, _ => throw refusal
where
  refusal : Failure := .domainValidation "Email verification is required before withdrawals."

/-- A mail that could not be delivered is reported, never raised. -/
def issueAndSendOtp (runtime : Runtime) (withdrawal : Withdrawal) (email : String) :
    Tx (Withdrawal × Bool × ℤ) := do
  let (withdrawal, _) ← TwoFactorService.issueChallenge runtime withdrawal email
  let time ← now
  let withdrawal ← updateWithdrawal withdrawal fun w =>
    { w with otpLastSentAt := some time, otpSendCount := w.otpSendCount + 1 }
  let sent ← issue (.ask (.sendEmail email))
  pure (withdrawal, sent, runtime.settings.withdrawalOtpTtlSeconds)

/-- The OTP was sent less than the cooldown ago. -/
def requireCooldown (settings : Settings) (withdrawal : Withdrawal) : Tx Unit :=
  match withdrawal.otpLastSentAt with
  | none => pure ()
  | some lastSent => do
    let time ← now
    let remaining :=
      settings.withdrawalOtpResendCooldownSeconds * microsPerSecond - (time - lastSent)
    let retryAfter := remaining / microsPerSecond + 1
    Prog.require (remaining ≤ 0) (.rateLimited
      ("Please wait " ++ toString retryAfter ++ " seconds before requesting a new code.")
      retryAfter)

structure OtpResult where
  withdrawal : Withdrawal
  otpSent : Bool
  maskedEmail : String
  expiresIn : ℤ

def resendOtp (runtime : Runtime) (tenantId withdrawalId actorId : ℕ) : Tx OtpResult := do
  let found ← getByIdForUpdate .withdrawals (some tenantId) withdrawalId
  let withdrawal ← Prog.orRaise found (.notFound "Withdrawal not found")
  Prog.require (withdrawal.requestedBy = some actorId) (.domainValidation
    "Only the requester can resend this withdrawal's verification code")
  Prog.require (withdrawal.status = .draft) (.domainValidation
    ("Withdrawal is not awaiting a verification code (status: "
      ++ withdrawal.status.value ++ ")"))
  Prog.require ((withdrawal.otpSendCount : ℤ) < runtime.settings.withdrawalOtpMaxSends)
    (.domainValidation
      "Maximum number of verification code sends reached for this withdrawal — cancel it and start a new withdrawal, or contact support.")
  requireCooldown runtime.settings withdrawal
  let email ← resolveVerifiedEmail tenantId actorId
  let (withdrawal, otpSent, expiresIn) ← issueAndSendOtp runtime withdrawal email
  pure { withdrawal, otpSent, maskedEmail := maskEmail email, expiresIn }

/-! ## Requests -/

def requestWithdrawal (runtime : Runtime) (tenantId actorId destinationId : ℕ)
    (amount : Decimal) : Tx OtpResult := do
  Prog.require (0 < amount) (.domainValidation "amount must be greater than zero")
  let destination ← getById .withdrawalDestinations (some tenantId) destinationId
  let destination ← Prog.orRaise destination
    (.domainValidation "destination_id does not belong to this tenant")
  let mode ← SettlementConfigService.getMode tenantId
  Prog.require (mode = .platformManagedWallet) (.domainValidation
    "This tenant is configured for direct merchant settlement — Infinity Radius does not hold or disburse funds on this tenant's behalf. A super admin must switch this tenant to platform-managed wallet mode before withdrawals can be requested here.")
  Prog.require (runtime.settings.selcomDisbursementEnabled = true) (.domainValidation
    "Selcom disbursement is disabled on this platform pending explicit business/legal approval and credentials.")
  let flags ← selectOne .tenantFeatureFlags fun flags => flags.tenantId == tenantId
  Prog.require ((flags.any TenantFeatureFlags.payoutEnabled) = true) (.domainValidation
    "Payouts are not enabled for this tenant — a super admin must enable the payout feature flag before withdrawals can be requested.")
  let email ← resolveVerifiedEmail tenantId actorId
  enforceWithdrawalLimits runtime.settings tenantId amount
  let approvalRequired :=
    decide (runtime.settings.selcomWithdrawalApprovalThresholdTzs < amount)
  let wallet ← tryCatch (WalletService.reserveForWithdrawal tenantId amount) fun failure =>
    match failure with
    | .domainValidation _ =>
      throw (.domainValidation "Requested amount exceeds available wallet balance")
    | other => throw other
  let idempotencyKey ← uuidHex
  let withdrawal ← create .withdrawals fun id =>
    { id, tenantId, walletId := wallet.id, destinationId := destination.id,
      amount := toNumeric amount, currency := defaultCurrency, status := .draft,
      requestedBy := some actorId, idempotencyKey, approvalRequired,
      createdAt := runtime.transactionTime }
  let _ ← create .withdrawalEvents fun id =>
    { id, tenantId, withdrawalId := withdrawal.id, fromStatus := none, toStatus := .draft,
      actorId := some actorId, reason := none }
  let (withdrawal, otpSent, expiresIn) ← issueAndSendOtp runtime withdrawal email
  pure { withdrawal, otpSent, maskedEmail := maskEmail email, expiresIn }

/-! ## Results of the provider -/

/-- What a direct answer or a query reports about a transfer. -/
structure ProviderResult where
  resultcode : Option String
  message : Option String
  amount : Option Decimal
  currency : Option String
  transId : Option String
  reference : String

/-- The text stored and the reason given where a success does not match the
withdrawal it is reported for. -/
structure Mismatch where
  message : String
  reason : String

def resultMismatch (withdrawal : Withdrawal) (result : ProviderResult) : Option Mismatch :=
  if result.transId.isSome ∧ result.transId ≠ some withdrawal.idempotencyKey then
    some
      { message := "transId mismatch: provider reported " ++ result.transId.getD ""
        reason := "Provider-reported transId does not match this withdrawal's own" }
  else if result.currency.isSome ∧ result.currency ≠ some withdrawal.currency then
    some
      { message := "Currency mismatch: provider reported " ++ result.currency.getD ""
        reason := "Provider-reported currency does not match the withdrawal currency" }
  else
    match result.amount with
    | none => none
    | some amount =>
      match matchProviderAmount amount (ofNumeric withdrawal.amount)
          (withdrawal.providerCharge.map ofNumeric) with
      | some _ => none
      | none =>
        some
          { message := "Amount mismatch: provider reported " ++ decimalText amount
            reason := "Provider-reported amount does not match the withdrawal amount" }

/-- `_apply_provider_result`. -/
def applyProviderResult (withdrawal : Withdrawal) (result : ProviderResult)
    (actorId : Option ℕ) : Tx Withdrawal := do
  if withdrawal.status.pending = false then pure withdrawal
  else do
    let parsed := interpretResultcode result.resultcode result.message
    match parsed.outcome with
    | .success =>
      match resultMismatch withdrawal result with
      | some mismatch => do
        let withdrawal ← updateWithdrawal withdrawal fun w =>
          { w with
            providerResultCode := some parsed.resultcode
            providerMessage := some mismatch.message }
        transition withdrawal .ambiguous actorId (some mismatch.reason)
      | none => do
        let _ ← WalletService.completeDisbursement withdrawal.tenantId
          (ofNumeric withdrawal.amount) (some withdrawal.id)
          (some ("Selcom disbursement " ++ result.reference))
        let time ← now
        let withdrawal ← updateWithdrawal withdrawal fun w =>
          { w with
            providerReference := some result.reference
            providerResultCode := some parsed.resultcode
            providerMessage := result.message
            completedAt := some time }
        transition withdrawal .success actorId result.message
    | .inprogress =>
      updateWithdrawal withdrawal fun w =>
        { w with
          providerResultCode := some parsed.resultcode
          providerMessage := result.message }
    | .ambiguous => do
      let withdrawal ← updateWithdrawal withdrawal fun w =>
        { w with
          providerResultCode := some parsed.resultcode
          providerMessage := result.message }
      transition withdrawal .ambiguous actorId (orElse result.message
        (some "Selcom resultcode 999 — status unknown, never retried"))
    | .fail => do
      let withdrawal ← updateWithdrawal withdrawal fun w =>
        { w with
          providerResultCode := some parsed.resultcode
          providerMessage := result.message }
      let reported := "Selcom reported failure (resultcode " ++ parsed.resultcode ++ ")"
      failWithdrawal withdrawal ((orElse result.message (some reported)).getD reported) actorId

/-- `data.selcom_receipt or withdrawal.idempotency_key`. -/
def receiptOr (receipt : Option String) (withdrawal : Withdrawal) : String :=
  (orElse receipt (some withdrawal.idempotencyKey)).getD withdrawal.idempotencyKey

def processResult (withdrawal : Withdrawal) (response : TransactionProcessResponse) :
    ProviderResult where
  resultcode := response.resultcode
  message := response.message
  amount := response.data.bind fun data => moneyFromProvider data.amount
  currency := response.data.bind TransactionProcessData.currency
  transId := response.data.bind TransactionProcessData.transId
  reference := receiptOr (response.data.bind TransactionProcessData.selcomReceipt) withdrawal

/-- `query.resultcode`, or the code its `data.status` stands for. -/
def queryResultcode (query : TransactionQueryResponse) : Option String :=
  let status := (query.data.bind TransactionQueryData.status).getD ""
  if given query.resultcode then query.resultcode
  else if status = "COMPLETED" then some "000"
  else if status = "ACCEPTED" then some "111"
  else if status = "FAILED" then some "900"
  else query.resultcode

def queryResult (withdrawal : Withdrawal) (query : TransactionQueryResponse) :
    ProviderResult where
  resultcode := queryResultcode query
  message := query.message
  amount := query.data.bind fun data => moneyFromProvider data.amount
  currency := query.data.bind TransactionQueryData.currency
  transId := query.data.bind TransactionQueryData.transId
  reference := receiptOr (query.data.bind TransactionQueryData.selcomReceipt) withdrawal

/-- `_reconcile_locked`: a query that is not answered changes nothing. -/
def reconcileLocked (settings : Settings) (withdrawal : Withdrawal) (actorId : Option ℕ) :
    Tx Withdrawal := do
  configFromSettings settings
  let query ← attempt (transactionQuery settings withdrawal.idempotencyKey)
  match query with
  | .error _ => pure withdrawal
  | .ok query => applyProviderResult withdrawal (queryResult withdrawal query) actorId

/-! ## Submission -/

/-- What follows the answer of `transaction_process`. -/
def applyProcessAnswer (settings : Settings) (withdrawal : Withdrawal)
    (answer : Except SelcomBusinessError TransactionProcessResponse)
    (actorId : Option ℕ) : Tx Withdrawal :=
  match answer with
  | .error (.transport _) => reconcileLocked settings withdrawal actorId
  | .error (.api message _) => failWithdrawal withdrawal message actorId
  | .error error => throw (.selcomBusiness error)
  | .ok response => do
    let withdrawal ← updateWithdrawal withdrawal fun w =>
      { w with
        providerReference := some w.idempotencyKey
        providerResultCode := response.resultcode
        providerMessage := response.message }
    applyProviderResult withdrawal (processResult withdrawal response) actorId

/-- The transfer itself, once the recipient's name is verified. -/
def submitTransfer (settings : Settings) (withdrawal : Withdrawal)
    (destinationCode accountNumber verifiedName : String) (actorId : Option ℕ) :
    Tx Withdrawal := do
  let withdrawal ← transition withdrawal .processing actorId none
  let time ← now
  let withdrawal ← updateWithdrawal withdrawal fun w => { w with submittedAt := some time }
  let answer ← attempt (transactionProcess settings withdrawal.idempotencyKey
    destinationCode accountNumber verifiedName (ofNumeric withdrawal.amount) "FT"
    (some ("Infinity Radius withdrawal " ++ withdrawal.idempotencyKey)))
  applyProcessAnswer settings withdrawal answer actorId

/-- `_submit_to_selcom`. -/
def submitToSelcom (settings : Settings) (withdrawal : Withdrawal) (actorId : Option ℕ) :
    Tx Withdrawal := do
  if withdrawal.status ≠ .approved then pure withdrawal
  else if settings.selcomDisbursementEnabled = false then
    failWithdrawal withdrawal
      "Selcom disbursement is disabled on this platform pending explicit approval and credentials."
      actorId
  else if settings.selcomBusinessEnvironment = .production ∧
      settings.selcomProductionPayoutsEnabled = false then
    failWithdrawal withdrawal
      "Production Selcom payouts are not enabled on this platform (SELCOM_PRODUCTION_PAYOUTS_ENABLED is not set)."
      actorId
  else do
    let destination ← getById .withdrawalDestinations (some withdrawal.tenantId)
      withdrawal.destinationId
    let destinationCode := (destination.bind WithdrawalDestination.destinationCode).getD ""
    let accountNumber := (destination.bind WithdrawalDestination.accountNumber).getD ""
    if destinationCode = "" ∨ accountNumber = "" then
      failWithdrawal withdrawal "Withdrawal destination is missing or incomplete" actorId
    else do
      configFromSettings settings
      let lookup ← attempt (accountLookup settings destinationCode accountNumber
        (withdrawal.idempotencyKey ++ "-lookup") (some (ofNumeric withdrawal.amount)))
      match lookup with
      | .error (.transport _) => pure withdrawal
      | .error error => failWithdrawal withdrawal error.message actorId
      | .ok lookup => do
        let verifiedName := (lookup.data.bind AccountLookupData.accountName).getD ""
        if verifiedName = "" then
          failWithdrawal withdrawal
            "Selcom could not verify a recipient name for this destination" actorId
        else do
          let providerCharge :=
            lookup.data.bind fun data => moneyFromProvider data.totalCharges
          let withdrawal ← updateWithdrawal withdrawal fun w =>
            { w with
              verifiedRecipientName := some verifiedName
              providerCharge := providerCharge.map toNumeric }
          submitTransfer settings withdrawal destinationCode accountNumber verifiedName actorId

/-! ## Confirmation and review -/

def sendSuperAdminReviewEmail (settings : Settings) : Tx Unit :=
  match settings.superAdminReviewEmail with
  | none => pure ()
  | some recipient =>
    if recipient.isEmpty then pure ()
    else do
      let _ ← issue (.ask (.sendEmail recipient))
      pure ()

structure TwoFactorConfirmationResult where
  withdrawal : Withdrawal
  verified : Bool
  cancelled : Bool

def confirmTwoFactor (runtime : Runtime) (tenantId withdrawalId actorId : ℕ)
    (code : String) : Tx TwoFactorConfirmationResult := do
  let found ← getByIdForUpdate .withdrawals (some tenantId) withdrawalId
  let withdrawal ← Prog.orRaise found (.notFound "Withdrawal not found")
  Prog.require (withdrawal.requestedBy = some actorId) (.domainValidation
    "Only the requester can confirm this withdrawal's 2FA code")
  Prog.require (withdrawal.status = .draft) (.domainValidation
    ("Withdrawal is not awaiting 2FA confirmation (status: "
      ++ withdrawal.status.value ++ ")"))
  let profile ← getById .profiles (some tenantId) actorId
  let (withdrawal, verified) ← TwoFactorService.verify runtime withdrawal code
    (profile.bind Profile.email)
  if verified = true then
    if withdrawal.approvalRequired = true then do
      let withdrawal ← transition withdrawal .pendingApproval (some actorId) none
      sendSuperAdminReviewEmail runtime.settings
      pure { withdrawal, verified := true, cancelled := false }
    else do
      let withdrawal ← transition withdrawal .approved (some actorId) none
      let withdrawal ← submitToSelcom runtime.settings withdrawal (some actorId)
      pure { withdrawal, verified := true, cancelled := false }
  else do
    let exhausted ← TwoFactorService.isExhausted runtime withdrawal
    if exhausted = true then do
      let _ ← WalletService.releaseReservation tenantId (ofNumeric withdrawal.amount)
      let withdrawal ← transition withdrawal .cancelled (some actorId)
        (some "2FA confirmation failed too many times or the code expired")
      pure { withdrawal, verified := false, cancelled := true }
    else pure { withdrawal, verified := false, cancelled := false }

def approveWithdrawal (runtime : Runtime) (withdrawalId actorId : ℕ)
    (notes : Option String) : Tx Withdrawal := do
  let found ← getByIdForUpdate .withdrawals none withdrawalId
  let withdrawal ← Prog.orRaise found (.notFound "Withdrawal not found")
  Prog.require (withdrawal.status = .pendingApproval) (.domainValidation
    ("Withdrawal is not pending approval (status: " ++ withdrawal.status.value ++ ")"))
  let time ← now
  let withdrawal ← updateWithdrawal withdrawal fun w =>
    { w with reviewedBy := some actorId, reviewedAt := some time, reviewNotes := notes }
  let withdrawal ← transition withdrawal .approved (some actorId) notes
  submitToSelcom runtime.settings withdrawal (some actorId)

def rejectWithdrawal (withdrawalId actorId : ℕ) (reason : String) : Tx Withdrawal := do
  Prog.require (strip reason ≠ "") (.domainValidation "A rejection requires a reason")
  let found ← getByIdForUpdate .withdrawals none withdrawalId
  let withdrawal ← Prog.orRaise found (.notFound "Withdrawal not found")
  Prog.require (withdrawal.status = .pendingApproval) (.domainValidation
    ("Withdrawal is not pending approval (status: " ++ withdrawal.status.value ++ ")"))
  let _ ← WalletService.releaseReservation withdrawal.tenantId (ofNumeric withdrawal.amount)
  let reviewedAt ← now
  let completedAt ← now
  let withdrawal ← updateWithdrawal withdrawal fun w =>
    { w with
      reviewedBy := some actorId
      reviewedAt := some reviewedAt
      reviewNotes := some reason
      completedAt := some completedAt }
  transition withdrawal .rejected (some actorId) (some reason)

def cancelWithdrawal (tenantId withdrawalId actorId : ℕ) (reason : Option String) :
    Tx Withdrawal := do
  let found ← getByIdForUpdate .withdrawals (some tenantId) withdrawalId
  let withdrawal ← Prog.orRaise found (.notFound "Withdrawal not found")
  Prog.require (withdrawal.requestedBy = some actorId) (.domainValidation
    "Only the requester can cancel this withdrawal")
  Prog.require (withdrawal.status = .draft ∨ withdrawal.status = .pendingApproval)
    (.domainValidation
      ("Withdrawal can no longer be cancelled (status: " ++ withdrawal.status.value ++ ")"))
  let _ ← WalletService.releaseReservation tenantId (ofNumeric withdrawal.amount)
  let time ← now
  let withdrawal ← updateWithdrawal withdrawal fun w => { w with completedAt := some time }
  transition withdrawal .cancelled (some actorId) reason

def reverseWithdrawal (tenantId withdrawalId : ℕ) (actorId : Option ℕ) (reason : String) :
    Tx Withdrawal := do
  Prog.require (strip reason ≠ "") (.domainValidation "A reversal requires a reason")
  let found ← getByIdForUpdate .withdrawals (some tenantId) withdrawalId
  let withdrawal ← Prog.orRaise found (.notFound "Withdrawal not found")
  Prog.require (withdrawal.status = .success) (.domainValidation
    ("Only a successfully disbursed withdrawal can be reversed (status: "
      ++ withdrawal.status.value ++ ")"))
  let _ ← WalletService.reverseDisbursement tenantId (ofNumeric withdrawal.amount)
    (some withdrawal.id) (some reason)
  transition withdrawal .reversed actorId (some reason)

def reconcileWithdrawal (runtime : Runtime) (withdrawalId : ℕ) : Tx Withdrawal := do
  let found ← getByIdForUpdate .withdrawals none withdrawalId
  let withdrawal ← Prog.orRaise found (.notFound "Withdrawal not found")
  reconcileLocked runtime.settings withdrawal none

def reconcileIfPending (runtime : Runtime) (withdrawalId : ℕ) : Tx (Withdrawal × Bool) := do
  let found ← getByIdForUpdate .withdrawals none withdrawalId
  let withdrawal ← Prog.orRaise found (.notFound "Withdrawal not found")
  if withdrawal.status.pending = false then pure (withdrawal, false)
  else do
    let withdrawal ← reconcileLocked runtime.settings withdrawal none
    pure (withdrawal, true)

/-- Called once a disbursement callback is verified. -/
def applyDisbursementResult (withdrawalId : ℕ) (providerSucceeded : Bool)
    (providerReference : String) (detail : Option String) : Tx Withdrawal := do
  let found ← getByIdForUpdate .withdrawals none withdrawalId
  let withdrawal ← Prog.orRaise found (.notFound "Withdrawal not found")
  if withdrawal.status ≠ .processing then pure withdrawal
  else if providerSucceeded = true then do
    let _ ← WalletService.completeDisbursement withdrawal.tenantId
      (ofNumeric withdrawal.amount) (some withdrawal.id)
      (some ("Selcom disbursement " ++ providerReference))
    let time ← now
    let withdrawal ← updateWithdrawal withdrawal fun w =>
      { w with providerReference := some providerReference, completedAt := some time }
    transition withdrawal .success none detail
  else
    let reported := "Selcom reported disbursement failure"
    failWithdrawal withdrawal ((orElse detail (some reported)).getD reported) none

end PayoutService

end InfinityRadius.Services
