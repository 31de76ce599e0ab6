import InfinityRadius.Core.Phone
import InfinityRadius.Services.TwoFactor

/-!
# Customers, subscriptions and vouchers

`services/customers.py`, `services/subscriptions.py` and the redemption of
`services/vouchers.py`: who buys access, and the one transition that makes a
subscription active.
-/

namespace InfinityRadius.Services

open Payload Phone Program Models

namespace CustomerService

/-- `get_by_phone`. -/
def getByPhone (tenantId : ℕ) (phone : String) : Tx (Option Customer) :=
  selectOne .customers fun customer => customer.tenantId == tenantId && customer.phone == phone

/-- `normalize_tz_phone`, its `ValueError` raised as a validation error. -/
def requirePhone (phone : String) : Tx String :=
  Prog.orRaise (normalizeTzPhone phone) (.domainValidation (invalidPhone phone))

def getOrCreateByPhone (tenantId : ℕ) (phone : String) : Tx Customer := do
  let normalizedPhone ← requirePhone phone
  let existing ← getByPhone tenantId normalizedPhone
  match existing with
  | some customer => pure customer
  | none => do
    let customerNumber ← issue (.ask .customerNumber)
    create .customers fun id =>
      { id, tenantId, customerNumber, firstName := none, lastName := none,
        phone := normalizedPhone, email := none, username := none }

end CustomerService

namespace SubscriptionService

variable (tenantId : ℕ)

/-- The checks `create` and `create_awaiting_payment` share. -/
def requireCustomerAndPackage (customerId packageId : ℕ) : Tx Package := do
  let customer ← getById .customers (some tenantId) customerId
  let _ ← Prog.orRaise customer (.domainValidation "customer_id does not belong to this tenant")
  let package ← getById .packages (some tenantId) packageId
  let package ← Prog.orRaise package
    (.domainValidation "package_id does not belong to this tenant")
  Prog.require (package.status = .active) (.domainValidation "This package is no longer active")
  pure package

def createAwaitingPayment (customerId packageId : ℕ) : Tx Subscription := do
  let package ← requireCustomerAndPackage tenantId customerId packageId
  create .subscriptions fun id =>
    { id, tenantId, customerId, packageId := package.id, status := .pending }

/-- The time access ends, counted from the activation. -/
def expiresAt (package : Package) (activatedAt : Timestamp) : Option Timestamp :=
  match package.durationMinutes with
  | none => none
  | some minutes =>
    if minutes = 0 then none else some (activatedAt + minutes * 60 * microsPerSecond)

def activate (subscriptionId : ℕ) : Tx Subscription := do
  let subscription ← getByIdForUpdate .subscriptions (some tenantId) subscriptionId
  let subscription ← Prog.orRaise subscription (.notFound "Subscription not found")
  Prog.require (subscription.status = .pending) (.domainValidation
    ("Subscription cannot be activated from status " ++ subscription.status.value))
  let package ← getById .packages (some tenantId) subscription.packageId
  let package ← Prog.orRaise package
    (.domainValidation "Subscription's package no longer exists")
  let activatedAt ← now
  updateRow .subscriptions subscription.id fun stored =>
    { stored with
      status := .active
      activatedAt := some activatedAt
      expiresAt := expiresAt package activatedAt }

/-- `_create`. -/
def createFor (customerId : ℕ) (package : Package) (voucherId : Option ℕ) :
    Tx Subscription := do
  let subscription ← create .subscriptions fun id =>
    { id, tenantId, customerId, packageId := package.id, voucherId, status := .pending }
  if package.activationType = .immediate then activate tenantId subscription.id
  else pure subscription

/-- A subscription a staff member assigns. -/
def create (customerId packageId : ℕ) : Tx Subscription := do
  let package ← requireCustomerAndPackage tenantId customerId packageId
  createFor tenantId customerId package none

end SubscriptionService

namespace VoucherService

def redeem (tenantId : ℕ) (code : String) (customerId : ℕ) :
    Tx (OfflineVoucher × Subscription) := do
  let voucher ← selectOneForUpdate .offlineVouchers fun voucher =>
    voucher.tenantId == tenantId && voucher.code == code
  let voucher ← Prog.orRaise voucher (.notFound "Voucher not found")
  Prog.require (voucher.status = .unused) (.conflict "This voucher has already been used")
  let customer ← getById .customers (some tenantId) customerId
  let _ ← Prog.orRaise customer (.domainValidation "customer_id does not belong to this tenant")
  let batch ← getById .voucherBatches (some tenantId) voucher.batchId
  let batch ← Prog.orRaise batch (.domainValidation "Voucher's batch no longer exists")
  let package ← getById .packages (some tenantId) batch.packageId
  let package ← Prog.orRaise package (.domainValidation "Voucher's package no longer exists")
  Prog.require (package.status = .active) (.domainValidation "This package is no longer active")
  let subscription ← SubscriptionService.createFor tenantId customerId package (some voucher.id)
  let time ← now
  let voucher ← updateRow .offlineVouchers voucher.id fun stored =>
    { stored with
      status := .used
      redeemedByCustomerId := some customerId
      redeemedSubscriptionId := some subscription.id
      redeemedAt := some time }
  pure (voucher, subscription)

end VoucherService

end InfinityRadius.Services
