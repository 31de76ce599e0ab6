import InfinityRadius.Services.RadiusSync
import InfinityRadius.Services.Subscriptions

/-!
# Access activation

`services/captive_activation.py`: the access a completed payment paid for is granted in a
transaction of its own, and a failure to grant it is recorded in another one.
-/

namespace InfinityRadius.Services.CaptivePortalActivationService

open Program Sql Models

/-- `str` of the exceptions provisioning ends with. -/
def failureText : Failure → String
  | .radiusUnavailable message => message
  | .valueError message => message
  | _ => ""

/-- `try: provision_access except Exception`. -/
def requireAccess (settings : Settings) (access : Access) : Tx String :=
  tryCatch (provisionAccess settings access) fun failure =>
    throw (.activationFailed ("RADIUS provisioning failed: " ++ failureText failure))

/-- `package.duration_minutes * 60`, where there is a duration. -/
def sessionTimeoutSeconds (package : Package) : Option ℤ :=
  (RadiusDb.nonzero package.durationMinutes).map (· * 60)

def accessOf (runtime : Runtime) (subscription : Subscription) (customer : Customer)
    (package : Package) : Access where
  customerPhone := customer.phone
  packageId := package.id
  radiusPassword := deriveRadiusPassword runtime subscription.id
  downloadSpeedKbps := package.downloadSpeedKbps
  uploadSpeedKbps := package.uploadSpeedKbps
  sessionTimeoutSeconds := sessionTimeoutSeconds package
  simultaneousSessions := package.simultaneousSessions

/-- A retry finds the subscription active already. -/
def startPending (tenantId : ℕ) (subscription : Subscription) : Tx Subscription :=
  if subscription.status = .pending then SubscriptionService.activate tenantId subscription.id
  else pure subscription

/-- The last step of `activate`, the one that fails in production. -/
def provision (runtime : Runtime) (transaction : Transaction) (subscription : Subscription)
    (customer : Customer) (package : Package) : Tx ActivationStatus := do
  let _ ← requireAccess runtime.settings (accessOf runtime subscription customer package)
  let time ← now
  let _ ← updateTransaction transaction fun t =>
    { t with activationStatus := some .active, activatedAt := some time }
  pure .active

/-- The second half of `activate`, on the rows it loaded. -/
def grant (runtime : Runtime) (transaction : Transaction) (subscription : Subscription)
    (customer : Customer) (package : Package) : Tx ActivationStatus := do
  let transaction ← updateTransaction transaction fun t =>
    { t with activationStatus := some .activating }
  let subscription ← startPending transaction.tenantId subscription
  provision runtime transaction subscription customer package

/-- The rows behind a transaction, as `activate` loads them. -/
def loadPurchase (subscriptionId customerId : ℕ) : Tx (Subscription × Customer × Package) := do
  let subscription ← selectOne .subscriptions fun row => row.id == subscriptionId
  let subscription ← Prog.orRaise subscription (.notFound "Subscription not found")
  let customer ← selectOne .customers fun row => row.id == customerId
  let customer ← Prog.orRaise customer .noResultFound
  let package ← selectOne .packages fun row => row.id == subscription.packageId
  let package ← Prog.orRaise package .noResultFound
  pure (subscription, customer, package)

def activate (runtime : Runtime) (transactionId : ℕ) : Tx ActivationStatus := do
  let transaction ← getByIdForUpdate .transactions none transactionId
  let transaction ← Prog.orRaise transaction (.notFound "Transaction not found")
  Prog.require (transaction.status = .completed) (.domainValidation
    ("Cannot activate access for a payment in status " ++ transaction.status.value))
  if transaction.activationStatus = some .active then pure .active
  else
    match transaction.subscriptionId, transaction.customerId with
    | some subscriptionId, some customerId => do
      let (subscription, customer, package) ← loadPurchase subscriptionId customerId
      grant runtime transaction subscription customer package
    | _, _ =>
      throw (.domainValidation "Transaction has no associated subscription/customer")

def recordFailure (transactionId : ℕ) (reason : String) : Tx ActivationStatus := do
  let transaction ← getByIdForUpdate .transactions none transactionId
  let transaction ← Prog.orRaise transaction (.notFound "Transaction not found")
  let _ ← updateTransaction transaction fun t => { t with activationStatus := some .failed }
  writeAuditLog [some reason]
  pure .failed

/-- `list_retryable`: paid, and not yet granted. -/
def retryable (t : Transaction) : Bool :=
  t.status == .completed &&
    (t.activationStatus == some .pending || t.activationStatus == some .failed)

def listRetryable : Tx (List ℕ) := do
  let rows ← issue (.scan .transactions retryable)
  pure ((rows.map Transaction.id).take 100)

/-- `run_activation`: two transactions, the second only where the first one could not
provision the access. -/
def runActivation (runtime : Runtime) (transactionId : ℕ) (first second : Outside)
    (world : PlatformWorld) : Except Failure ActivationStatus × PlatformWorld :=
  match transact first (activate runtime transactionId) world with
  | (.error (.activationFailed reason), world') =>
    transact second (recordFailure transactionId reason) world'
  | ended => ended

end InfinityRadius.Services.CaptivePortalActivationService
