import InfinityRadius.Core.Phone
import InfinityRadius.Services.SelcomPaymentProvider

/-!
# Collections

`services/collections.py`: a member of a tenant asks a customer for a mobile money
payment, and the tenant's wallet is credited once it is verified.
-/

namespace InfinityRadius.Services

open Amounts Payload Phone Program Models Integrations.SelcomCollection

/-! ## Tenant context -/

/-- `require_tenant_role` on a verified user: the tenant the user acts for. -/
def requireTenantRole (allowedRoles : List String) (userId : ℕ) : Tx ℕ := do
  let profile ← getById .profiles none userId
  let profile ← Prog.orRaise profile (.http 403 "No profile found for this account")
  let roles ← issue (.ask (.roleCodes userId))
  match profile.tenantId with
  | none => throw (.http 403 "This account is not scoped to a tenant")
  | some tenantId => do
    let tenant ← getById .tenants none tenantId
    let tenantStatus := tenant.map Tenant.status
    Prog.require (tenantStatus = some .active) (.http 403
      ("Tenant account is not active (status: "
        ++ (tenantStatus.map TenantStatus.value).getD "None" ++ ")"))
    Prog.require (roles.any allowedRoles.contains = true) (.http 403 "Insufficient permissions")
    pure tenantId

def frontlineRoles : List String := ["TENANT_OWNER", "TENANT_ADMIN", "CUSTOMER_CARE", "CASHIER"]

/-! ## Buyers -/

/-- `" ".join(part for part in (first_name, last_name) if part).strip()`. -/
def fullName (firstName lastName : Option String) : String :=
  strip (" ".intercalate ([firstName, lastName].filterMap fun part =>
    if given part then part else none))

def buyerName (customer : Option Customer) (phone : String) : String :=
  let name := customer.elim "" fun c => fullName c.firstName c.lastName
  if name.isEmpty then phone else name

def buyerEmail (customer : Option Customer) (phone : String) : String :=
  (orElse (customer.bind Customer.email) (some (phone ++ "@customer.invalid"))).getD ""

namespace CollectionService

/-- `COLLECTION_FLOW`. -/
def flow : SelcomPaymentFlow where
  transactionType := .collection
  paymentProvider := .selcomCollection
  referencePrefix := "col-"
  logNamespace := "collections"

/-- `_credit_tenant_wallet`. -/
def creditTenantWallet (transaction : Transaction) (statusData : OrderStatusData) :
    Tx Transaction := do
  let reference := (orElse statusData.reference (some transaction.reference)).getD ""
  let _ ← WalletService.processCollection transaction.tenantId (ofNumeric transaction.amount)
    "selcom_collection" (some transaction.id) (some ("Selcom Collection " ++ reference))
  pure transaction

def provider : SelcomPaymentProvider where
  flow
  finalizePayment := creditTenantWallet

variable (settings : Settings)

/-- The second half of `initiate_collection`, once everything given was checked. -/
def startCollection (tenantId : ℕ) (amount : Decimal) (currency normalizedPhone : String)
    (customerId : Option ℕ) (customer : Option Customer) (description : Option String) :
    Tx Transaction := do
  let hex ← uuidHex
  let transaction ← create .transactions fun id =>
    { id, tenantId, customerId, transactionType := some flow.transactionType,
      reference := flow.referencePrefix ++ hex, payerPhone := some normalizedPhone,
      amount := toNumeric amount, currency, status := .created,
      paymentProvider := some flow.paymentProvider }
  SelcomPaymentProvider.createOrderAndSendStk settings transaction
    (buyerName customer normalizedPhone) (buyerEmail customer normalizedPhone) normalizedPhone
    amount currency description

/-- The customer a collection names, who has to be the tenant's. -/
def requireCustomer (tenantId : ℕ) : Option ℕ → Tx (Option Customer)
  | none => pure none
  | some id => do
    let found ← getById .customers (some tenantId) id
    let customer ← Prog.orRaise found (.notFound "Customer not found")
    pure (some customer)

def initiateCollection (tenantId : ℕ) (amount : Decimal) (currency phone : String)
    (customerId : Option ℕ) (description : Option String) : Tx Transaction := do
  Prog.require (settings.selcomCollectionEnabled = true)
    (.domainValidation "Selcom Collection is not enabled")
  Prog.require (settings.selcomCollectionProductionEnabled = true) (.domainValidation
    "Selcom Collection production initiation is not enabled — the second kill switch (SELCOM_COLLECTION_PRODUCTION_ENABLED) is still off")
  Prog.require (currency = "TZS")
    (.domainValidation "Only TZS is supported for Collection at this time")
  Prog.require (0 < amount) (.domainValidation "amount must be positive")
  let normalizedPhone ← Prog.orRaise (normalizeTzPhone phone)
    (.domainValidation (invalidPhone phone))
  let customer ← requireCustomer tenantId customerId
  startCollection settings tenantId amount currency normalizedPhone customerId customer description

/-- `POST /collections` of a verified user. -/
def initiateRoute (userId : ℕ) (amount : Decimal) (currency phone : String)
    (customerId : Option ℕ) (description : Option String) : Tx Transaction := do
  let tenantId ← requireTenantRole frontlineRoles userId
  initiateCollection settings tenantId amount currency phone customerId description

end CollectionService

end InfinityRadius.Services
