import InfinityRadius.Services.Statements

/-!
# Settlement modes

`services/settlement_config.py` and the two routes of `api/v1/tenants.py` that set the mode a
tenant is settled in and the commission it pays.
-/

namespace InfinityRadius.Models

def SettlementMode.value : SettlementMode → String
  | directMerchantSettlement => "direct_merchant_settlement"
  | platformManagedWallet => "platform_managed_wallet"

end InfinityRadius.Models

namespace InfinityRadius.Services

open Amounts Database Models Payload Program Sql

namespace SettlementConfigService

def getActive (tenantId : ℕ) : Tx (Option TenantSettlementConfig) :=
  selectFirst .tenantSettlementConfig fun config => config.tenantId == tenantId && config.isActive

/-- The current row is deactivated and a new one inserted.  Nothing reads `notes` back, but a text
the database refuses fails the insert. -/
def setMode (tenantId : ℕ) (mode : SettlementMode) (notes : Option String) :
    Tx TenantSettlementConfig := do
  let current ← getActive tenantId
  Prog.require (current.all fun config => decide (config.mode ≠ mode))
    (.domainValidation ("Tenant is already in " ++ mode.value ++ " mode"))
  match current with
  | some config =>
    let _ ← updateRow .tenantSettlementConfig config.id fun stored =>
      { stored with isActive := false }
  | none => pure ()
  Prog.require (textsStorable [notes] = true) .database
  let created ← create .tenantSettlementConfig fun id => { id, tenantId, mode, isActive := true }
  writeAuditLog [some mode.value, current.map fun config => config.mode.value]
  pure created

end SettlementConfigService

namespace TenantRoutes

/-- `_require_existing_tenant`. -/
def requireExistingTenant (tenantId : ℕ) : Tx Unit := do
  let tenant ← getById .tenants none tenantId
  Prog.require (tenant.isSome = true) (.notFound "Tenant not found")

def setSettlementConfig (tenantId : ℕ) (mode : SettlementMode) (notes : Option String) :
    Tx TenantSettlementConfig := do
  requireExistingTenant tenantId
  SettlementConfigService.setMode tenantId mode notes

def setCommercialTerms (tenantId : ℕ) (commissionRatePercent : Decimal) (actorId : Option ℕ)
    (notes : Option String) : Tx TenantCommercialTerms := do
  requireExistingTenant tenantId
  CommercialTermsService.setCommissionRate tenantId commissionRatePercent actorId notes

end TenantRoutes

end InfinityRadius.Services
