import InfinityRadius.Repositories.Base
import Mathlib.Data.Multiset.Dedup

/-!
# The repositories of the tables

Each repository with its model and the columns that can be searched, filtered and sorted,
and the queries that transactions and withdrawals add.
-/

namespace InfinityRadius.Repositories

open Amounts Payload

/-! ## Audit -/

def auditLogRepository : Repository where
  model :=
    { tablename := "audit_logs",
      columns := [("id", .uuid), ("tenant_id", .uuid), ("actor_id", .uuid), ("action", .text),
        ("target_type", .text), ("created_at", .timestamp)] }
  searchFields := ["action", "target_type"]
  filterableFields := ["action", "target_type", "actor_id"]
  sortableFields := ["created_at"]

/-! ## Billing -/

def packageRepository : Repository where
  model :=
    { tablename := "packages",
      columns := [("id", .uuid), ("tenant_id", .uuid), ("name", .text), ("description", .text),
        ("price_tzs", .numeric), ("activation_type", .text), ("status", .text),
        ("created_at", .timestamp)] }
  searchFields := ["name", "description"]
  filterableFields := ["status", "activation_type"]
  sortableFields := ["created_at", "name", "price_tzs", "status"]

def subscriptionRepository : Repository where
  model :=
    { tablename := "subscriptions",
      columns := [("id", .uuid), ("tenant_id", .uuid), ("customer_id", .uuid),
        ("package_id", .uuid), ("status", .text), ("activated_at", .timestamp),
        ("expires_at", .timestamp), ("created_at", .timestamp)] }
  filterableFields := ["status", "customer_id", "package_id"]
  sortableFields := ["created_at", "activated_at", "expires_at", "status"]

def voucherBatchRepository : Repository where
  model :=
    { tablename := "voucher_batches",
      columns := [("id", .uuid), ("tenant_id", .uuid), ("package_id", .uuid),
        ("quantity", .integer), ("created_at", .timestamp)] }
  filterableFields := ["package_id"]
  sortableFields := ["created_at", "quantity"]

def offlineVoucherRepository : Repository where
  model :=
    { tablename := "offline_vouchers",
      columns := [("id", .uuid), ("tenant_id", .uuid), ("batch_id", .uuid), ("code", .text),
        ("status", .text), ("created_at", .timestamp)] }
  searchFields := ["code"]
  filterableFields := ["status", "batch_id"]
  sortableFields := ["created_at", "status"]

/-! ## Customers -/

def customerRepository : Repository where
  model :=
    { tablename := "customers",
      columns := [("id", .uuid), ("tenant_id", .uuid), ("customer_number", .text),
        ("first_name", .text), ("last_name", .text), ("phone", .text), ("email", .text),
        ("username", .text), ("status", .text), ("created_at", .timestamp)] }
  searchFields := ["first_name", "last_name", "phone", "email", "customer_number", "username"]
  filterableFields := ["status"]
  sortableFields := ["created_at", "first_name", "last_name", "customer_number", "status"]

def customerDeviceRepository : Repository where
  model :=
    { tablename := "customer_devices",
      columns := [("id", .uuid), ("tenant_id", .uuid), ("customer_id", .uuid),
        ("mac_address", .text), ("device_label", .text), ("created_at", .timestamp)] }
  searchFields := ["mac_address", "device_label"]
  filterableFields := ["customer_id"]
  sortableFields := ["created_at"]

/-! ## Finance -/

def transactionRepository : Repository where
  model :=
    { tablename := "transactions",
      columns := [("id", .uuid), ("tenant_id", .uuid), ("customer_id", .uuid),
        ("transaction_type", .text), ("reference", .text), ("channel", .text),
        ("amount", .numeric), ("status", .text), ("payment_provider", .text),
        ("created_at", .timestamp)] }
  searchFields := ["reference", "channel"]
  filterableFields := ["status", "channel", "customer_id", "transaction_type", "payment_provider"]
  sortableFields := ["created_at", "amount", "status"]

def paymentWebhookRepository : Repository where
  model :=
    { tablename := "payment_webhooks",
      columns := [("id", .uuid), ("tenant_id", .uuid), ("provider", .text),
        ("signature_verified", .boolean), ("processed", .boolean), ("received_at", .timestamp)] }
  filterableFields := ["provider", "processed", "signature_verified"]
  sortableFields := ["received_at"]
  defaultSort := "-received_at"

def tenantWalletRepository : Repository where
  model :=
    { tablename := "tenant_wallets",
      columns := [("id", .uuid), ("tenant_id", .uuid), ("created_at", .timestamp)] }
  sortableFields := ["created_at"]

def ledgerEntryRepository : Repository where
  model :=
    { tablename := "ledger_entries",
      columns := [("id", .uuid), ("tenant_id", .uuid), ("wallet_id", .uuid),
        ("entry_type", .text), ("amount", .numeric), ("reference_type", .text),
        ("created_at", .timestamp)] }
  filterableFields := ["entry_type", "reference_type", "wallet_id"]
  sortableFields := ["created_at", "amount"]

def withdrawalDestinationRepository : Repository where
  model :=
    { tablename := "withdrawal_destinations",
      columns := [("id", .uuid), ("tenant_id", .uuid), ("label", .text), ("channel", .text),
        ("account_name", .text), ("account_number", .text), ("is_default", .boolean),
        ("created_at", .timestamp)] }
  searchFields := ["label", "account_name", "account_number"]
  filterableFields := ["channel", "is_default"]
  sortableFields := ["created_at", "label"]

def withdrawalRepository : Repository where
  model :=
    { tablename := "withdrawals",
      columns := [("id", .uuid), ("tenant_id", .uuid), ("wallet_id", .uuid),
        ("destination_id", .uuid), ("amount", .numeric), ("status", .text),
        ("created_at", .timestamp)] }
  filterableFields := ["status", "wallet_id", "destination_id"]
  sortableFields := ["created_at", "amount", "status"]

def withdrawalEventRepository : Repository where
  model :=
    { tablename := "withdrawal_events",
      columns := [("id", .uuid), ("tenant_id", .uuid), ("withdrawal_id", .uuid),
        ("to_status", .text), ("created_at", .timestamp)] }
  filterableFields := ["withdrawal_id", "to_status"]
  sortableFields := ["created_at"]
  defaultSort := "created_at"

def settlementLogRepository : Repository where
  model :=
    { tablename := "settlement_logs",
      columns := [("id", .uuid), ("tenant_id", .uuid), ("channel", .text), ("status", .text),
        ("settled_at", .timestamp), ("created_at", .timestamp)] }
  filterableFields := ["status", "channel"]
  sortableFields := ["created_at", "settled_at"]

def tenantCommercialTermsRepository : Repository where
  model :=
    { tablename := "tenant_commercial_terms",
      columns := [("id", .uuid), ("tenant_id", .uuid), ("is_active", .boolean),
        ("effective_from", .timestamp), ("created_at", .timestamp)] }
  filterableFields := ["is_active"]
  sortableFields := ["created_at", "effective_from"]

def tenantSettlementConfigRepository : Repository where
  model :=
    { tablename := "tenant_settlement_config",
      columns := [("id", .uuid), ("tenant_id", .uuid), ("mode", .text), ("is_active", .boolean),
        ("effective_from", .timestamp), ("created_at", .timestamp)] }
  filterableFields := ["is_active", "mode"]
  sortableFields := ["created_at", "effective_from"]

/-! ## Network -/

def locationRepository : Repository where
  model :=
    { tablename := "locations",
      columns := [("id", .uuid), ("tenant_id", .uuid), ("name", .text), ("region", .text),
        ("city", .text), ("address", .text), ("status", .text), ("created_at", .timestamp)] }
  searchFields := ["name", "region", "city", "address"]
  filterableFields := ["status", "region", "city"]
  sortableFields := ["created_at", "name", "status"]

def routerRepository : Repository where
  model :=
    { tablename := "routers",
      columns := [("id", .uuid), ("tenant_id", .uuid), ("location_id", .uuid), ("name", .text),
        ("serial_number", .text), ("management_ip", .text), ("mac_address", .text),
        ("status", .text), ("last_seen_at", .timestamp), ("created_at", .timestamp)] }
  searchFields := ["name", "serial_number", "management_ip", "mac_address"]
  filterableFields := ["status", "location_id"]
  sortableFields := ["created_at", "name", "status", "last_seen_at"]

/-! ## Onboarding -/

def tenantSettingsRepository : Repository where
  model :=
    { tablename := "tenant_settings",
      columns := [("id", .uuid), ("tenant_id", .uuid), ("created_at", .timestamp)] }

def tenantFeatureFlagsRepository : Repository where
  model :=
    { tablename := "tenant_feature_flags",
      columns := [("id", .uuid), ("tenant_id", .uuid), ("created_at", .timestamp)] }

def tenantVerificationRepository : Repository where
  model :=
    { tablename := "tenant_verifications",
      columns := [("id", .uuid), ("tenant_id", .uuid), ("created_at", .timestamp)] }

def emailEventRepository : Repository where
  model :=
    { tablename := "email_events",
      columns := [("id", .uuid), ("tenant_id", .uuid), ("created_at", .timestamp)] }

/-! ## Sessions -/

def userSessionRepository : Repository where
  model :=
    { tablename := "user_sessions",
      columns := [("id", .uuid), ("tenant_id", .uuid), ("subscription_id", .uuid),
        ("customer_id", .uuid), ("router_id", .uuid), ("session_identifier", .text),
        ("ip_address", .text), ("started_at", .timestamp), ("ended_at", .timestamp),
        ("status", .text), ("created_at", .timestamp)] }
  searchFields := ["session_identifier", "ip_address"]
  filterableFields := ["status", "customer_id", "router_id", "subscription_id"]
  sortableFields := ["created_at", "started_at", "ended_at", "status"]

/-! ## Tenancy -/

/-- The tenants themselves, which no tenant owns. -/
def tenantRepository : Repository where
  model :=
    { tablename := "tenants",
      columns := [("id", .uuid), ("name", .text), ("slug", .text), ("country", .text),
        ("status", .text), ("created_at", .timestamp)] }
  searchFields := ["name", "slug"]
  filterableFields := ["status", "country"]
  sortableFields := ["created_at", "name", "status"]
  defaultSort := "name"

def profileRepository : Repository where
  model :=
    { tablename := "profiles",
      columns := [("id", .uuid), ("tenant_id", .uuid), ("email", .text), ("full_name", .text),
        ("phone", .text), ("status", .text), ("created_at", .timestamp)] }
  searchFields := ["full_name", "email", "phone"]
  filterableFields := ["status"]
  sortableFields := ["created_at", "full_name", "status"]
  defaultSort := "full_name"

def repositories : List Repository :=
  [auditLogRepository, packageRepository, subscriptionRepository, voucherBatchRepository,
    offlineVoucherRepository, customerRepository, customerDeviceRepository,
    transactionRepository, paymentWebhookRepository, tenantWalletRepository,
    ledgerEntryRepository, withdrawalDestinationRepository, withdrawalRepository,
    withdrawalEventRepository, settlementLogRepository, tenantCommercialTermsRepository,
    tenantSettlementConfigRepository, locationRepository, routerRepository,
    tenantSettingsRepository, tenantFeatureFlagsRepository, tenantVerificationRepository,
    emailEventRepository, userSessionRepository, tenantRepository, profileRepository]

/-- What a subclass declares is there: the fields it searches are texts, and the fields it
filters and sorts by, with the column of its default sort, are attributes of its model. -/
structure Declared (repository : Repository) : Prop where
  search : ∀ field ∈ repository.searchFields, repository.model.getattr field = some .text
  filterable : ∀ field ∈ repository.filterableFields, repository.model.hasattr field = true
  sortable : ∀ field ∈ repository.sortableFields, repository.model.hasattr field = true
  defaultSort : (sortColumn repository.defaultSort).1 ∈ repository.sortableFields

theorem declared_repositories : ∀ repository ∈ repositories, Declared repository := by
  have hsearch : ∀ repository ∈ repositories, ∀ field ∈ repository.searchFields,
      repository.model.getattr field = some .text := by decide +kernel
  have hfilterable : ∀ repository ∈ repositories, ∀ field ∈ repository.filterableFields,
      repository.model.hasattr field = true := by decide +kernel
  have hsortable : ∀ repository ∈ repositories, ∀ field ∈ repository.sortableFields,
      repository.model.hasattr field = true := by decide +kernel
  have hdefault : ∀ repository ∈ repositories,
      (sortColumn repository.defaultSort).1 ∈ repository.sortableFields := by decide +kernel
  exact fun repository h =>
    ⟨hsearch repository h, hfilterable repository h, hsortable repository h, hdefault repository h⟩

/-- Every table but the tenants' own is scoped by tenant. -/
theorem scoped_repositories : ∀ repository ∈ repositories,
    repository.model.hasattr "tenant_id" = true ∨ repository.model.tablename = "tenants" := by
  decide +kernel

/-! ## Queries of one table -/

/-- `list_by_type_paginated`: the type is one filter more. -/
def listByTypePaginated (engine : Engine) (tenantId : ℕ) (transactionType : String)
    (params : ListParams) (db : Database) : Except QueryFailure (List Row × ℕ) :=
  let typed : ListParams :=
    { params with filters := setItem params.filters "transaction_type" transactionType }
  listPaginated engine transactionRepository (some tenantId) typed db

/-- `str` of a status. -/
def statusText : Value → String
  | .text status => status
  | _ => "None"

def statusCounts (tenantId : ℕ) (transactionType : String) : Select where
  model := transactionRepository.model
  conditions :=
    [fun row => row "tenant_id" == .uuid tenantId,
      fun row => row "transaction_type" == .text transactionType]

/-- `count_by_status`: the statuses the tenant's transactions of a type have, and how many
have each, as the items of a dictionary. -/
def countByStatus (tenantId : ℕ) (transactionType : String) (db : Database) :
    Except QueryFailure (Multiset (String × ℕ)) :=
  if storable transactionType then
    let statuses := ((statusCounts tenantId transactionType).matching db).map fun row => row "status"
    .ok (statuses.dedup.map fun status => (statusText status, statuses.count status))
  else .error .database

def dailyLimitExcludedStatuses : List String := ["CANCELLED", "REJECTED", "FAILED"]

def countedTowardsLimit (tenantId : ℕ) (since : ℤ) : Select where
  model := withdrawalRepository.model
  conditions :=
    [fun row => row "tenant_id" == .uuid tenantId,
      fun row =>
        match row "created_at" with
        | .timestamp createdAt => decide (since ≤ createdAt)
        | _ => false,
      fun row =>
        match row "status" with
        | .text status => !dailyLimitExcludedStatuses.contains status
        | _ => false]

def amountOf (row : Row) : Numeric :=
  match row "amount" with
  | .numeric amount => amount
  | _ => 0

/-- `daily_totals`: the sum and the number of the withdrawals that count. -/
def dailyTotals (tenantId : ℕ) (since : ℤ) (db : Database) : Decimal × ℕ :=
  let rows := (countedTowardsLimit tenantId since).matching db
  (ofNumeric (rows.map amountOf).sum, rows.card)

end InfinityRadius.Repositories
