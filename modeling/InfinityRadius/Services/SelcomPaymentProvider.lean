import InfinityRadius.Integrations.SelcomCollection
import InfinityRadius.Services.TwoFactor

/-!
# The payment provider

`services/selcom_payment_provider.py`: what every payment through Selcom Mobile Checkout
shares.  An order is created and a prompt sent to a phone; afterwards only the answer
to an order-status query changes the payment, and a payment reported as completed is
finalised by the flow it belongs to.
-/

namespace InfinityRadius.Services

open Amounts Payload Program Models Integrations.SelcomCollection

/-- `_PAYMENT_STATUS_TO_COLLECTION_STATUS`. -/
def paymentStatusToCollectionStatus : List (String × CollectionStatus) :=
  [("PENDING", .pending), ("INPROGRESS", .inprogress), ("CANCELLED", .cancelled),
    ("USERCANCELLED", .userCancelled), ("REJECTED", .rejected),
    ("USERCANCELED", .userCancelled), ("DECLINED", .declined), ("FAILED", .failed),
    ("EXPIRED", .expired)]

/-- `_NON_TERMINAL_MAPPED_TARGETS`. -/
def nonTerminalMappedTargets : List CollectionStatus := [.pending, .inprogress]

structure SelcomPaymentFlow where
  transactionType : TransactionType
  paymentProvider : PaymentProvider
  referencePrefix : String
  logNamespace : String

/-- A flow, and what it does once a payment was verified. -/
structure SelcomPaymentProvider where
  flow : SelcomPaymentFlow
  finalizePayment : Transaction → OrderStatusData → Tx Transaction

/-- The providers `_provider_for` imports. -/
structure PaymentProviders where
  collection : SelcomPaymentProvider
  captivePortal : SelcomPaymentProvider

/-- `repr` of the `transaction_type` column. -/
def reprTransactionType : Option TransactionType → String
  | some transactionType => reprText transactionType.value
  | none => "None"

namespace SelcomPaymentProvider

/-- `metadata` are the texts the audit row carries. -/
def transition (transaction : Transaction) (toStatus : CollectionStatus)
    (metadata : List (Option String)) (extraColumns : Transaction → Transaction) :
    Tx Transaction := do
  let transaction ← updateTransaction transaction fun t =>
    { extraColumns t with status := toStatus }
  writeAuditLog metadata
  pure transaction

def fail (transaction : Transaction) (reason : String) : Tx Transaction := do
  let time ← now
  transition transaction .failed [some reason] fun t => { t with failedAt := some time }

/-! ## Initiation -/

section Initiation

variable (settings : Settings)

/-- The callback URL sent with an order. -/
def webhookB64 : Option String :=
  if given settings.publicApiDomain then
    some (base64 ("https://" ++ settings.publicApiDomain.getD "" ++ settings.apiV1Prefix
      ++ "/webhooks/selcom-collection/checkout"))
  else none

/-- The prompt for an order that was created. -/
def sendStk (transaction : Transaction) (msisdn : String) : Tx Transaction := do
  let hex ← uuidHex
  let transid := "txn-" ++ hex
  let answer ← attempt (walletPayment settings transid transaction.reference msisdn)
  match answer with
  | .error error => fail transaction ("STK request failed: " ++ error.message)
  | .ok response => do
    let time ← now
    transition transaction .stkSent [response.message] fun t =>
      { t with
        collectionTransid := some transid
        stkRequestedAt := some time
        providerResultcode := response.resultcode
        providerMessage := response.message }

def createOrderAndSendStk (transaction : Transaction) (buyerName buyerEmail msisdn : String)
    (amount : Decimal) (currency : String) (description : Option String) : Tx Transaction := do
  newClient settings
  let order ← attempt (createOrderMinimal settings transaction.reference buyerEmail buyerName
    msisdn amount currency 1 (webhookB64 settings) description)
  match order with
  | .error error => fail transaction ("Order creation failed: " ++ error.message)
  | .ok _ => sendStk settings transaction msisdn

end Initiation

/-! ## Finalisation -/

section Finalisation

variable (settings : Settings) (provider : SelcomPaymentProvider)

def isStalePending (transaction : Transaction) : Tx Bool :=
  match transaction.stkRequestedAt with
  | none => pure false
  | some requestedAt =>
    if settings.selcomCollectionPendingReviewMinutes ≤ 0 then pure false
    else do
      let time ← now
      pure (decide (settings.selcomCollectionPendingReviewMinutes * 60 * microsPerSecond ≤
        time - requestedAt))

/-- `str` of the amount an answer reports. -/
def reportedAmount : Option Decimal → String
  | some amount => decimalText amount
  | none => "None"

/-- What an answer that says `COMPLETED` has to match before anything is credited; the
reason it does not. -/
def mismatchReason (transaction : Transaction) (statusData : OrderStatusData) : Option String :=
  if given statusData.orderId ∧ statusData.orderId ≠ some transaction.reference then
    some ("order_id mismatch: provider reported " ++ statusData.orderId.getD "")
  else if statusData.amount ≠ some (ofNumeric transaction.amount) then
    some ("Amount mismatch: provider reported " ++ reportedAmount statusData.amount)
  else if given statusData.currency ∧ statusData.currency ≠ some transaction.currency then
    some ("Currency mismatch: provider reported " ++ statusData.currency.getD "")
  else none

/-- An answer that says `COMPLETED`. -/
def applyCompleted (transaction : Transaction) (statusData : OrderStatusData)
    (providerResultcode : Option String) : Tx Transaction :=
  match mismatchReason transaction statusData with
  | some reason => transition transaction .ambiguous [some reason] id
  | none => do
    let transaction ← provider.finalizePayment transaction statusData
    let time ← now
    transition transaction .completed
      [statusData.transid, statusData.reference, transaction.collectionTransid] fun t =>
        { t with
          providerReference :=
            orElse (orElse statusData.transid statusData.reference) t.providerReference
          channel := statusData.channel
          providerResultcode := orElse providerResultcode (some "000")
          providerMessage := some "COMPLETED"
          completedAt := some time }

/-- An answer that says anything else. -/
def applyMapped (transaction : Transaction) (statusData : OrderStatusData)
    (paymentStatus : String) (providerResultcode : Option String) : Tx Transaction :=
  match paymentStatusToCollectionStatus.lookup paymentStatus with
  | none =>
    transition transaction .ambiguous
      [some ("Unrecognized payment_status: "
        ++ (statusData.paymentStatus.map reprText).getD "None")] fun t =>
        { t with providerResultcode }
  | some mapped =>
    if mapped ∉ nonTerminalMappedTargets then do
      let time ← now
      transition transaction mapped [some ("Selcom order-status: " ++ paymentStatus)] fun t =>
        { t with providerMessage := some paymentStatus, providerResultcode,
                 failedAt := some time }
    else if transaction.status = .requiresReview then pure transaction
    else do
      let stale ← isStalePending settings transaction
      if stale then
        transition transaction .requiresReview
          [some ("Provider order-status has remained " ++ reprText paymentStatus
            ++ " past the local SELCOM_COLLECTION_PENDING_REVIEW_MINUTES threshold — an Infinity Radius operational flag for Super Admin/support visibility, never a Selcom-reported status. Still fully reconcilable; a later genuine COMPLETED or terminal result finalizes normally.")]
          fun t => { t with providerMessage := some paymentStatus, providerResultcode }
      else
        transition transaction mapped [some ("Selcom order-status: " ++ paymentStatus)] fun t =>
          { t with providerMessage := some paymentStatus, providerResultcode }

/-- `(payment_status or "").strip().upper()`. -/
def normalizedStatus (statusData : OrderStatusData) : String :=
  upper (strip (statusData.paymentStatus.getD ""))

def applyOrderStatus (transaction : Transaction) (statusData : OrderStatusData)
    (providerResultcode : Option String) : Tx Transaction := do
  Prog.require (transaction.transactionType = some provider.flow.transactionType)
    (.selcomPaymentFlowMismatch (provider.flow.logNamespace ++ " cannot finalize transaction "
      ++ toString transaction.id ++ " (transaction_type="
      ++ reprTransactionType transaction.transactionType ++ ", expected "
      ++ reprTransactionType (some provider.flow.transactionType) ++ ")"))
  if transaction.status.terminal then pure transaction
  else if normalizedStatus statusData = "COMPLETED" then
    applyCompleted provider transaction statusData providerResultcode
  else
    applyMapped settings transaction statusData (normalizedStatus statusData) providerResultcode

def queryAndApply (transaction : Transaction) : Tx Transaction := do
  newClient settings
  let answer ← attempt (orderStatus settings transaction.reference)
  match answer with
  | .error _ => pure transaction
  | .ok response =>
    match response.first with
    | none => pure transaction
    | some statusData =>
      applyOrderStatus settings provider transaction statusData response.resultcode

end Finalisation

/-! ## Reconciliation and webhooks -/

section Dispatch

variable (settings : Settings) (providers : PaymentProviders) (provider : SelcomPaymentProvider)

/-- `_provider_for`. -/
def providerFor (transaction : Transaction) : Tx SelcomPaymentProvider :=
  if transaction.transactionType = some provider.flow.transactionType then pure provider
  else
    match transaction.transactionType with
    | some .collection => pure providers.collection
    | some .captivePortal => pure providers.captivePortal
    | none => throw (.selcomPaymentFlowMismatch
        ("No Selcom payment flow is registered for transaction_type="
          ++ reprTransactionType transaction.transactionType ++ " (transaction "
          ++ toString transaction.id ++ ")"))

def reconcile (transactionId : ℕ) : Tx Transaction := do
  let found ← getByIdForUpdate .transactions none transactionId
  let transaction ← Prog.orRaise found (.notFound "Collection transaction not found")
  let target ← providerFor providers provider transaction
  queryAndApply settings target transaction

/-- `list_reconcilable`. -/
def listReconcilable : Tx (List Transaction) :=
  issue (.select .transactions fun t =>
    t.paymentProvider == some provider.flow.paymentProvider && !t.status.terminal)

/-- A request body: its text, and the value `json.loads` reads in it, `{}` for an empty
body. -/
structure WebhookBody where
  text : String
  json : Option Json

/-- `raw_payload`. -/
def rawPayload (body : WebhookBody) : Json :=
  match body.json with
  | some (.obj fields) => .obj fields
  | _ => .obj [("_unparsable_body", .str body.text)]

/-- Whether the signature of a callback was verified. -/
def verifySignature (headers : List (String × String)) (payload : Json) : Tx Bool := do
  configFromSettings settings
  if isConfigured settings then do
    let check ← issue (.ask (.verifyWebhook headers payload))
    match check with
    | .verified => pure true
    | .refused => pure false
    | .raised => throw (.valueError "comparing strings with non-ASCII characters is not supported")
  else pure false

def markProcessed (webhook : PaymentWebhook) : Tx PaymentWebhook := do
  let time ← now
  updateRow .paymentWebhooks webhook.id fun stored =>
    { stored with processed := true, processedAt := some time }

/-- A callback whose signature was verified. -/
def acknowledge (webhook : PaymentWebhook) (payload : Json) : Tx String := do
  let parsed ← Prog.orRaise (webhookPayload payload) .pydanticValidation
  if !given parsed.orderId then do
    let _ ← markProcessed webhook
    pure "malformed"
  else do
    let found ← selectOneForUpdate .transactions fun t =>
      some t.reference == parsed.orderId
    match found with
    | none => do
      let _ ← markProcessed webhook
      pure "unknown_reference"
    | some transaction => do
      let webhook ← updateRow .paymentWebhooks webhook.id fun stored =>
        { stored with tenantId := some transaction.tenantId }
      let target ← providerFor providers provider transaction
      let _ ← queryAndApply settings target transaction
      let _ ← markProcessed webhook
      pure "acknowledged"

def processWebhook (headers : List (String × String)) (body : WebhookBody) : Tx String := do
  let payload := rawPayload body
  let signatureVerified ← verifySignature settings headers payload
  let webhook ← create .paymentWebhooks fun id =>
    { id, tenantId := none, provider := "selcom_collection", payload, signatureVerified,
      processed := false }
  if signatureVerified then acknowledge settings providers provider webhook payload
  else do
    let _ ← markProcessed webhook
    pure "rejected"

end Dispatch

end SelcomPaymentProvider

end InfinityRadius.Services
