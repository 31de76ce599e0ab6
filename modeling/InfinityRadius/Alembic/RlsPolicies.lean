import InfinityRadius.Core.RowSecurity

/-!
# The tables and policies of the migrations

The tables in the schema `public`, their foreign keys and the row level security that the
migrations leave them with.
-/

namespace InfinityRadius.Alembic

open RowSecurity

inductive PublicTable
  | tenants | profiles | roles | permissions | rolePermissions | profileRoles
  | locations | routers | packages | customers | customerDevices | subscriptions
  | userSessions | voucherBatches | offlineVouchers | transactions | paymentWebhooks
  | tenantWallets | ledgerEntries | settlementLogs | withdrawalDestinations | withdrawals
  | auditLogs | tenantCommercialTerms | tenantSettings | tenantFeatureFlags
  | tenantVerifications | emailEvents | tenantSettlementConfig | withdrawalEvents
  | captiveSessions
deriving DecidableEq

/-- Of the other types of SQL only the literal is kept. -/
inductive Value
  | uuid (id : ℕ)
  | text (text : String)
  | other (literal : String)
deriving DecidableEq

abbrev Cells := Row String Value

abbrev PublicDb := Tables PublicTable String Value

/-- A condition of a policy, for the user that `auth.uid()` returns. -/
abbrev RowCondition := Condition ℕ PublicTable String Value

abbrev RowPolicy := Policy ℕ PublicTable String Value

/-- A row with the given cells; its other columns are NULL. -/
def cells (columns : List (String × Value)) : Cells := fun column => columns.lookup column

/-! ## Helpers -/

/-- `public.current_tenant_id()`. -/
def currentTenantId (uid : ℕ) (db : PublicDb) : Option Value :=
  ((db .profiles).find? fun profile => equal (profile "id") (some (.uuid uid))).bind
    fun profile => profile "tenant_id"

/-- `public.is_super_admin()`. -/
def isSuperAdmin (uid : ℕ) (db : PublicDb) : Bool :=
  (db .profileRoles).any fun pr => (db .roles).any fun r =>
    equal (r "id") (pr "role_id") && equal (pr "profile_id") (some (.uuid uid)) &&
      equal (r "code") (some (.text "SUPER_ADMIN"))

/-- `column = public.current_tenant_id() OR public.is_super_admin()`. -/
def ownTenantBy (column : String) : RowCondition := fun uid db row =>
  sqlOr (sqlEq (row column) (currentTenantId uid db)) (some (isSuperAdmin uid db))

def ownTenant : RowCondition := ownTenantBy "tenant_id"

/-- `column = auth.uid() OR` what `ownTenant` says. -/
def ownOrTenant (column : String) : RowCondition := fun uid db row =>
  sqlOr (sqlEq (row column) (some (.uuid uid))) (ownTenant uid db row)

def superAdmin : RowCondition := fun uid db _ => some (isSuperAdmin uid db)

/-! ## Policies -/

def fullCrudTables : List PublicTable :=
  [.locations, .routers, .packages, .customers, .customerDevices, .subscriptions,
    .voucherBatches, .offlineVouchers, .withdrawalDestinations]

def noDeleteTables : List PublicTable := [.transactions, .withdrawals]

def selectOnlyTables : List PublicTable :=
  [.userSessions, .paymentWebhooks, .tenantWallets, .ledgerEntries, .settlementLogs, .auditLogs]

def referenceTables : List PublicTable := [.roles, .permissions, .rolePermissions]

/-- `READ_ONLY_TENANT_TABLES` of the onboarding migration. -/
def readOnlyTenantTables : List PublicTable :=
  [.tenantSettings, .tenantFeatureFlags, .tenantVerifications]

def selectOnlyPolicies : List RowPolicy := [.select ownTenant]

def noDeletePolicies : List RowPolicy :=
  [.select ownTenant, .insert ownTenant, .update ownTenant (some ownTenant)]

def fullCrudPolicies : List RowPolicy := noDeletePolicies ++ [.delete ownTenant]

def tenantsPolicies : List RowPolicy :=
  [.select (ownTenantBy "id"), .insert superAdmin,
    .update (ownTenantBy "id") (some (ownTenantBy "id")), .delete superAdmin]

def profilesPolicies : List RowPolicy :=
  [.select (ownOrTenant "id"), .update (ownOrTenant "id") (some (ownOrTenant "id"))]

/-- The `UPDATE` policy has a `USING` clause only. -/
def profileRolesPolicies : List RowPolicy :=
  [.select (ownOrTenant "profile_id"), .insert ownTenant, .update ownTenant none,
    .delete ownTenant]

/-- No migration enables row level security on `tenant_commercial_terms`,
`tenant_settlement_config` and `withdrawal_events`. -/
def policies (table : PublicTable) : Option (List RowPolicy) :=
  if table ∈ referenceTables then some [.select fun _ _ _ => some true]
  else if table = .tenants then some tenantsPolicies
  else if table = .profiles then some profilesPolicies
  else if table = .profileRoles then some profileRolesPolicies
  else if table ∈ fullCrudTables then some fullCrudPolicies
  else if table ∈ noDeleteTables then some noDeletePolicies
  else if table ∈ selectOnlyTables then some selectOnlyPolicies
  else if table ∈ readOnlyTenantTables then some selectOnlyPolicies
  else if table = .emailEvents then some selectOnlyPolicies
  else if table = .captiveSessions then some selectOnlyPolicies
  else none

/-! ## Foreign keys -/

section Keys

open PublicTable OnDelete

/-- The tables with a `tenant_id`, and what the deletion of its tenant does to a row. -/
def tenantKeys : List (PublicTable × OnDelete) :=
  [(profiles, cascade), (profileRoles, cascade), (locations, cascade), (routers, cascade),
    (packages, cascade), (customers, cascade), (customerDevices, cascade),
    (subscriptions, cascade), (userSessions, cascade), (voucherBatches, cascade),
    (offlineVouchers, cascade), (transactions, cascade), (paymentWebhooks, setNull),
    (tenantWallets, cascade), (ledgerEntries, cascade), (settlementLogs, cascade),
    (withdrawalDestinations, cascade), (withdrawals, cascade), (auditLogs, setNull),
    (tenantCommercialTerms, cascade), (tenantSettings, cascade), (tenantFeatureFlags, cascade),
    (tenantVerifications, cascade), (emailEvents, setNull), (tenantSettlementConfig, cascade),
    (withdrawalEvents, cascade), (captiveSessions, cascade)]

/-- The foreign keys; all of them refer to `id`. -/
def foreignKeys : List (ForeignKey PublicTable String) :=
  tenantKeys.map (fun (child, onDelete) => ⟨child, "tenant_id", tenants, onDelete⟩) ++
  [⟨rolePermissions, "role_id", roles, cascade⟩,
    ⟨rolePermissions, "permission_id", permissions, cascade⟩,
    ⟨profileRoles, "profile_id", profiles, cascade⟩,
    ⟨profileRoles, "role_id", roles, cascade⟩,
    ⟨routers, "location_id", locations, setNull⟩,
    ⟨customerDevices, "customer_id", customers, cascade⟩,
    ⟨subscriptions, "customer_id", customers, cascade⟩,
    ⟨subscriptions, "package_id", packages, restrict⟩,
    ⟨subscriptions, "voucher_id", offlineVouchers, setNull⟩,
    ⟨userSessions, "subscription_id", subscriptions, setNull⟩,
    ⟨userSessions, "customer_id", customers, setNull⟩,
    ⟨userSessions, "router_id", routers, setNull⟩,
    ⟨userSessions, "device_id", customerDevices, setNull⟩,
    ⟨voucherBatches, "package_id", packages, restrict⟩,
    ⟨voucherBatches, "created_by", profiles, setNull⟩,
    ⟨offlineVouchers, "batch_id", voucherBatches, cascade⟩,
    ⟨offlineVouchers, "redeemed_by_customer_id", customers, setNull⟩,
    ⟨offlineVouchers, "redeemed_subscription_id", subscriptions, setNull⟩,
    ⟨transactions, "customer_id", customers, setNull⟩,
    ⟨transactions, "subscription_id", subscriptions, setNull⟩,
    ⟨transactions, "package_id", packages, setNull⟩,
    ⟨transactions, "router_id", routers, setNull⟩,
    ⟨transactions, "captive_session_id", captiveSessions, setNull⟩,
    ⟨ledgerEntries, "wallet_id", tenantWallets, cascade⟩,
    ⟨ledgerEntries, "actor_id", profiles, setNull⟩,
    ⟨withdrawals, "wallet_id", tenantWallets, restrict⟩,
    ⟨withdrawals, "destination_id", withdrawalDestinations, restrict⟩,
    ⟨withdrawals, "requested_by", profiles, setNull⟩,
    ⟨withdrawals, "reviewed_by", profiles, setNull⟩,
    ⟨auditLogs, "actor_id", profiles, setNull⟩,
    ⟨tenantCommercialTerms, "created_by", profiles, setNull⟩,
    ⟨tenantVerifications, "reviewed_by", profiles, setNull⟩,
    ⟨tenantSettlementConfig, "created_by", profiles, setNull⟩,
    ⟨withdrawalEvents, "withdrawal_id", withdrawals, cascade⟩,
    ⟨withdrawalEvents, "actor_id", profiles, setNull⟩,
    ⟨captiveSessions, "router_id", routers, cascade⟩]

end Keys

abbrev publicSchema : Schema ℕ PublicTable String Value where
  key := "id"
  foreignKeys := foreignKeys
  policies := policies

/-! ## Rows of a tenant -/

/-- The column that says whose row it is. -/
def tenantColumn : PublicTable → Option String
  | .tenants => some "id"
  | .roles | .permissions | .rolePermissions => none
  | _ => some "tenant_id"

/-- The row is another tenant's. -/
def Foreign (tenant : ℕ) (table : PublicTable) (row : Cells) : Prop :=
  ∃ owner, (tenantColumn table).bind row = some owner ∧ owner ≠ .uuid tenant

instance (tenant : ℕ) (table : PublicTable) (row : Cells) : Decidable (Foreign tenant table row) :=
  decidable_of_iff (((tenantColumn table).bind row).any (· ≠ .uuid tenant)) (by
    simp [Foreign, Option.any_eq_true])

end InfinityRadius.Alembic
