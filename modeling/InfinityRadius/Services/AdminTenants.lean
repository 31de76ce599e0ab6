import InfinityRadius.Core.Runs
import InfinityRadius.Services.Wallet

/-!
# Tenant review

`services/admin_tenants.py`, and the rows `services/onboarding.py` creates for a new
tenant.  The email each review sends after its commit touches none of these rows.
-/

namespace InfinityRadius.Services

open Database Program Sql Models

namespace OnboardingService

/-- `_create_local_records`.  `ownerRoleSeeded` is whether the `TENANT_OWNER` role exists. -/
def createLocalRecords (ownerId : ℕ) (ownerRoleSeeded : Bool) : Tx ℕ := do
  let tenant ← create .tenants fun id => { id, status := .pendingVerification }
  let profile ← getById .profiles none ownerId
  let profile ← Prog.orRaise profile (.domainValidation
    "Account provisioning did not complete — please contact support")
  let _ ← updateRow .profiles profile.id fun stored => { stored with tenantId := some tenant.id }
  Prog.require (ownerRoleSeeded = true)
    (.domainValidation "TENANT_OWNER role is not seeded — contact support")
  let _ ← create .tenantVerifications fun id =>
    { id, tenantId := tenant.id, status := .pendingVerification }
  let _ ← create .tenantFeatureFlags fun id => { id, tenantId := tenant.id }
  let _ ← WalletService.getOrCreateWallet tenant.id
  pure tenant.id

end OnboardingService

namespace AdminTenantService

def requireTenant (tenantId : ℕ) : Tx Tenant := do
  let tenant ← getById .tenants none tenantId
  Prog.orRaise tenant (.notFound "Tenant not found")

/-- `_get_tenant_and_owner`, without the owner, whom only the emails need. -/
def getTenantAndVerification (tenantId : ℕ) : Tx (Tenant × TenantVerification) := do
  let tenant ← requireTenant tenantId
  let verification ← selectOne .tenantVerifications fun v => v.tenantId == tenantId
  let verification ← Prog.orRaise verification
    (.domainValidation "Tenant has no verification record")
  pure (tenant, verification)

def setTenantStatus (tenant : Tenant) (status : TenantStatus) : Tx Tenant :=
  updateRow .tenants tenant.id fun stored => { stored with status }

def setVerification (verification : TenantVerification)
    (set : TenantVerification → TenantVerification) : Tx TenantVerification :=
  updateRow .tenantVerifications verification.id set

/-- What the three reviews share: both status columns are written. -/
def review (tenantId : ℕ) (status : TenantStatus)
    (set : Timestamp → TenantVerification → TenantVerification)
    (metadata : List (Option String)) : Tx Tenant := do
  let (tenant, verification) ← getTenantAndVerification tenantId
  let time ← now
  let tenant ← setTenantStatus tenant status
  let _ ← setVerification verification (set time)
  writeAuditLog metadata
  pure tenant

def approve (tenantId actorId : ℕ) : Tx Tenant :=
  review tenantId .active
    (fun time v =>
      { v with
        status := .approved, reviewedAt := some time, reviewedBy := some actorId,
        approvedAt := some time })
    []

def reject (tenantId actorId : ℕ) (reason : String) : Tx Tenant :=
  review tenantId .rejected
    (fun time v =>
      { v with
        status := .rejected, reviewedAt := some time, reviewedBy := some actorId,
        rejectedAt := some time, rejectionReason := some reason })
    [some reason]

def requestMoreInformation (tenantId actorId : ℕ) (message : String) : Tx Tenant :=
  review tenantId .moreInformationRequired
    (fun time v =>
      { v with
        status := .moreInformationRequired, reviewedAt := some time,
        reviewedBy := some actorId, moreInformationMessage := some message })
    [some message]

/-- What `suspend` and `reactivate` share: the tenant's own status is written, whatever it
was. -/
def setStatus (tenantId : ℕ) (status : TenantStatus) (metadata : List (Option String)) :
    Tx Tenant := do
  let tenant ← requireTenant tenantId
  let tenant ← setTenantStatus tenant status
  writeAuditLog metadata
  pure tenant

def suspend (tenantId : ℕ) (reason : Option String) : Tx Tenant :=
  setStatus tenantId .suspended [reason]

def reactivate (tenantId : ℕ) : Tx Tenant := setStatus tenantId .active []

/-- `_get_flags`. -/
def getFlags (tenantId : ℕ) : Tx TenantFeatureFlags := do
  let flags ← selectOne .tenantFeatureFlags fun flags => flags.tenantId == tenantId
  Prog.orRaise flags (.domainValidation "Tenant has no feature flags record")

def setCollectionEnabled (tenantId : ℕ) (enabled : Bool) : Tx TenantFeatureFlags := do
  let flags ← getFlags tenantId
  updateRow .tenantFeatureFlags flags.id fun stored => { stored with collectionEnabled := enabled }

def setPayoutEnabled (tenantId : ℕ) (enabled : Bool) : Tx TenantFeatureFlags := do
  let flags ← getFlags tenantId
  updateRow .tenantFeatureFlags flags.id fun stored => { stored with payoutEnabled := enabled }

end AdminTenantService

end InfinityRadius.Services
