import InfinityRadius.Services.Collections
import InfinityRadius.Services.RadiusSync
import InfinityRadius.Services.Subscriptions

/-!
# The captive portal

`services/captive_session.py` and `services/captive_portal.py`: a visitor exchanges the
token of a router for a single-use session, pays for a package with it, and polls the
payment until the credentials of the access are shown.
-/

namespace InfinityRadius.Services

open Amounts Payload Phone Program Models Integrations.SelcomCollection

def invalidFernetKey : Failure :=
  .valueError "Fernet key must be 32 url-safe base64-encoded bytes."

/-! ## Sessions -/

namespace CaptivePortalSessionService

variable (runtime : Runtime)

def createIntentToken (sessionId : ℕ) : Tx String :=
  match runtime.settings.captiveIntentTokenSigningKey with
  | .unset => throw (.captiveSession
      "CAPTIVE_INTENT_TOKEN_SIGNING_KEY is not set — captive payment sessions cannot be issued.")
  | .notFernet => throw invalidFernetKey
  | .fernet => issue (.ask (.intentToken sessionId))

/-- `resolve_captive_intent_token`, which answers `None` where there is no key. -/
def resolveIntentToken (intentToken : String) : Option ℕ :=
  if runtime.settings.captiveIntentTokenSigningKey = .fernet then
    runtime.intentSession intentToken
  else none

/-- `issue`. -/
def issueSession (routerId : ℕ) (macAddress : Option String) : Tx (String × CaptiveSession) := do
  let router ← getById .routers none routerId
  let router ← Prog.orRaise router (.captiveSession "Router not found")
  let time ← now
  let nonce ← issue (.ask .nonce)
  let session ← create .captiveSessions fun id =>
    { id, tenantId := router.tenantId, routerId := router.id, macAddress, nonce,
      expiresAt := time + runtime.settings.captiveIntentTokenTtlSeconds * microsPerSecond,
      consumedAt := none }
  let token ← createIntentToken runtime session.id
  pure (token, session)

def invalid : Failure := .captiveSession "Invalid or expired captive session"

def resolve (intentToken : String) : Tx CaptiveSession := do
  let sessionId ← Prog.orRaise (resolveIntentToken runtime intentToken) invalid
  let session ← selectOne .captiveSessions fun session => session.id == sessionId
  let session ← Prog.orRaise session invalid
  Prog.require (session.consumedAt = none) invalid
  let time ← now
  Prog.require (time < session.expiresAt) invalid
  pure session

def consume (session : CaptiveSession) : Tx CaptiveSession := do
  let time ← now
  updateRow .captiveSessions session.id fun stored => { stored with consumedAt := some time }

end CaptivePortalSessionService

/-! ## Payments -/

/-- `CaptivePortalPaymentInitiateResult`. -/
structure PaymentInitiateResult where
  transactionToken : Option String := none
  status : String
  amount : Option Decimal := none
  currency : Option String := none
  message : String

/-- `CaptivePortalPaymentStatusResult`, without the fields that only repeat columns of the
transaction and its package. -/
structure PaymentStatusResult where
  status : String
  underReview : Bool := false
  activationStatus : Option String := none
  message : Option String := none
  loginUsername : Option String := none
  loginPassword : Option String := none

/-- `_PUBLIC_ACTIVATION`. -/
def publicActivation : Option ActivationStatus → String
  | none => "pending"
  | some .pending => "pending"
  | some .activating => "activating"
  | some .active => "active"
  | some .failed => "failed"
  | some .requiresReview => "failed"

namespace CaptivePortalService

/-- `CAPTIVE_PORTAL_SELCOM_FLOW`. -/
def flow : SelcomPaymentFlow where
  transactionType := .captivePortal
  paymentProvider := .selcomCollection
  referencePrefix := "CP-"
  logNamespace := "captive_portal"

/-- `_finalize_captive_payment`. -/
def finalizeCaptivePayment (transaction : Transaction) (_statusData : OrderStatusData) :
    Tx Transaction := do
  let _ ← WalletService.processCollection transaction.tenantId (ofNumeric transaction.amount)
    "selcom_collection" (some transaction.id)
    (some ("Captive portal payment " ++ transaction.reference))
  updateTransaction transaction fun t => { t with activationStatus := some .pending }

def provider : SelcomPaymentProvider where
  flow
  finalizePayment := finalizeCaptivePayment

section Initiation

variable (runtime : Runtime)

def createTransactionToken (transactionId : ℕ) : Tx String :=
  if runtime.settings.transactionTokenKeyIsFernet then issue (.ask (.fernetToken transactionId))
  else throw invalidFernetKey

/-- `try: session_service.resolve except CaptiveSessionError`. -/
def requireSession (intentToken : String) : Tx CaptiveSession :=
  tryCatch (CaptivePortalSessionService.resolve runtime intentToken) fun failure =>
    match failure with
    | .captiveSession _ => throw (.domainValidation
        "This payment session has expired. Please start again.")
    | other => throw other

/-- A package of the session's tenant that is on sale. -/
def requirePackage (session : CaptiveSession) (packageId : ℕ) : Tx Package := do
  let package ← getById .packages (some session.tenantId) packageId
  let package ← Prog.orRaise package notOwned
  Prog.require (package.tenantId = session.tenantId) notOwned
  Prog.require (package.status = .active)
    (.domainValidation "This package is no longer available")
  pure package
where
  notOwned : Failure := .domainValidation "package_id does not belong to this router's tenant"

/-- `find_active_captive_attempt`. -/
def findActiveCaptiveAttempt (sessionId packageId : ℕ) (payerPhone : String) :
    Tx (Option Transaction) :=
  selectFirst .transactions fun t =>
    t.captiveSessionId == some sessionId && t.packageId == some packageId &&
      t.payerPhone == some payerPhone && !t.status.terminal

/-- The second half of `initiate_payment`, which starts an attempt of its own. -/
def startAttempt (session : CaptiveSession) (package : Package) (phone : String) :
    Tx PaymentInitiateResult := do
  let amount := ofNumeric package.priceTzs
  let customer ← CustomerService.getOrCreateByPhone session.tenantId phone
  let subscription ← SubscriptionService.createAwaitingPayment session.tenantId customer.id
    package.id
  let hex ← uuidHex
  let transaction ← create .transactions fun id =>
    { id, tenantId := session.tenantId, customerId := some customer.id,
      subscriptionId := some subscription.id, transactionType := some flow.transactionType,
      reference := flow.referencePrefix ++ hex, payerPhone := some phone,
      channel := some "captive_portal", amount := toNumeric amount,
      currency := defaultCurrency, status := .created,
      paymentProvider := some flow.paymentProvider, packageId := some package.id,
      routerId := some session.routerId, deviceMac := session.macAddress,
      captiveSessionId := some session.id }
  let _ ← CaptivePortalSessionService.consume session
  let transaction ← SelcomPaymentProvider.createOrderAndSendStk runtime.settings transaction
    (buyerName (some customer) phone) (buyerEmail (some customer) phone) phone amount
    defaultCurrency none
  let token ← createTransactionToken runtime transaction.id
  if transaction.status = .stkSent then
    pure
      { transactionToken := some token, status := "pending", amount := some amount,
        currency := some defaultCurrency,
        message := "Check your phone and approve the payment prompt." }
  else
    pure
      { transactionToken := some token, status := "failed", amount := some amount,
        currency := some defaultCurrency,
        message := "We could not start this payment. Please try again in a moment." }

def initiatePayment (intentToken : String) (packageId : ℕ) (phone : String) :
    Tx PaymentInitiateResult := do
  if !runtime.settings.selcomCollectionEnabled ||
      !runtime.settings.selcomCollectionProductionEnabled then
    pure
      { status := "unavailable"
        message := "Online payment is not available on this network yet. Please contact your network administrator." }
  else do
    let session ← requireSession runtime intentToken
    let package ← requirePackage session packageId
    let normalizedPhone ← CustomerService.requirePhone phone
    let dimension ← issue (.ask (.captiveLimiter session.id normalizedPhone session.routerId))
    match dimension with
    | some _ =>
      pure
        { status := "rate_limited"
          message := "Too many payment attempts. Please wait a few minutes and try again." }
    | none => do
      let existing ← findActiveCaptiveAttempt session.id package.id normalizedPhone
      match existing with
      | some attempt => do
        let token ← createTransactionToken runtime attempt.id
        pure
          { transactionToken := some token, status := "duplicate",
            amount := some (ofNumeric package.priceTzs), currency := some defaultCurrency,
            message := "We are already processing a payment request for this package. Check your phone for the payment prompt." }
      | none => startAttempt runtime session package normalizedPhone

end Initiation

/-- `finalize_payment`. -/
def finalizePayment (transactionId : ℕ) : Tx Unit := do
  let transaction ← getByIdForUpdate .transactions none transactionId
  let transaction ← Prog.orRaise transaction (.notFound "Transaction not found")
  if transaction.status = .completed then pure ()
  else do
    Prog.require (transaction.status.terminal = false) (.domainValidation
      ("Cannot finalize a payment already terminal in status " ++ transaction.status.value))
    Prog.require (transaction.subscriptionId.isSome ∧ transaction.customerId.isSome)
      (.domainValidation "Transaction has no associated subscription/customer")
    let time ← now
    let transaction ← updateTransaction transaction fun t =>
      { t with
        status := .completed, completedAt := some time, activationStatus := some .pending }
    let _ ← WalletService.processCollection transaction.tenantId (ofNumeric transaction.amount)
      "transaction" (some transaction.id)
      (some ("Captive portal payment " ++ transaction.reference))
    pure ()

/-! ## Payment status -/

/-- The answer for a payment that is completed and whose access is active. -/
def connected (runtime : Runtime) (transaction : Transaction) : Tx PaymentStatusResult := do
  let completed : PaymentStatusResult :=
    { status := "completed", activationStatus := some "active" }
  match transaction.subscriptionId, transaction.customerId with
  | some subscriptionId, some customerId => do
    let customer ← selectOne .customers fun customer => customer.id == customerId
    match customer with
    | none => pure completed
    | some customer =>
      pure
        { completed with
          message := some "You are connected. Enjoy your internet."
          loginUsername := some customer.phone
          loginPassword := some (deriveRadiusPassword runtime subscriptionId) }
  | _, _ => pure completed

/-- `get_payment_status`. -/
def getPaymentStatus (runtime : Runtime) (token : String) : Tx PaymentStatusResult := do
  let transactionId :=
    if runtime.settings.transactionTokenKeyIsFernet then runtime.tokenTransaction token else none
  match transactionId with
  | none => pure { status := "not_found" }
  | some id => do
    let transaction ← getById .transactions none id
    match transaction with
    | none => pure { status := "not_found" }
    | some transaction =>
      if transaction.status = .requiresReview ∨ transaction.status = .ambiguous then
        pure
          { status := "pending", underReview := true,
            message := some "We are still confirming your payment with your mobile money provider. Please do NOT pay again — if money left your account it will be applied to this purchase." }
      else if transaction.status.terminal = true ∧ transaction.status ≠ .completed then
        pure
          { status := "failed",
            message := some "The payment was not completed. You have not been charged for a plan you did not get. You can try again." }
      else if transaction.status ≠ .completed then
        pure
          { status := "pending",
            message := some "Check your phone and approve the payment prompt." }
      else
        let activation := publicActivation transaction.activationStatus
        if activation = "active" then connected runtime transaction
        else
          pure
            { status := "completed", activationStatus := some activation,
              message := some
                (if activation = "failed" then "Payment confirmed. We could not finish setting up your access automatically — our team has been notified and you have NOT been charged twice."
                else "Payment confirmed. We are setting up your internet access — this only takes a moment.") }

end CaptivePortalService

/-- The providers of both flows. -/
def paymentProviders : PaymentProviders := ⟨CollectionService.provider, CaptivePortalService.provider⟩

end InfinityRadius.Services
