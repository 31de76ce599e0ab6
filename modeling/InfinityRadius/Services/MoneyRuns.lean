import InfinityRadius.Services.PayoutChanges
import InfinityRadius.Services.WalletRules

/-!
# Runs that move money

A run mixes the operations of `PayoutService` with those of `WalletService` that other
services call, and lets every table outside the books change in between.
-/

namespace InfinityRadius.Services

open Amounts Database Payload Program Sql Models

/-! ## Wallet operations -/

namespace WalletService

/-- The operations other services call. -/
inductive WalletOperation
  | getOrCreateWallet (tenantId : ℕ)
  | processCollection (tenantId : ℕ) (grossAmount : Decimal) (referenceType : String)
      (referenceId : Option ℕ) (description : Option String)
  | createAdjustment (tenantId : ℕ) (walletBucket : WalletBucket)
      (direction : LedgerDirection) (amount : Decimal) (reason : String) (actorId : ℕ)
      (referenceType : Option String) (referenceId : Option ℕ)
  | settlePending (tenantId : ℕ) (amount : Option Decimal) (batchReference : String)
  | recordRefund (tenantId : ℕ) (amount : Decimal) (referenceType : String)
      (referenceId : Option ℕ) (description : Option String)
  | recordReversal (tenantId : ℕ) (amount : Decimal) (referenceType : String)
      (referenceId : Option ℕ) (description : Option String)

namespace WalletOperation

def tenantId : WalletOperation → ℕ
  | getOrCreateWallet tenantId => tenantId
  | processCollection tenantId _ _ _ _ => tenantId
  | createAdjustment tenantId _ _ _ _ _ _ _ => tenantId
  | settlePending tenantId _ _ => tenantId
  | recordRefund tenantId _ _ _ _ => tenantId
  | recordReversal tenantId _ _ _ _ => tenantId

def program : WalletOperation → Tx Unit
  | getOrCreateWallet tenantId => do
    let _ ← WalletService.getOrCreateWallet tenantId
    pure ()
  | processCollection tenantId grossAmount referenceType referenceId description => do
    let _ ← WalletService.processCollection tenantId grossAmount referenceType referenceId
      description
    pure ()
  | createAdjustment tenantId walletBucket direction amount reason actorId referenceType
      referenceId => do
    let _ ← WalletService.createAdjustment tenantId walletBucket direction amount reason actorId
      referenceType referenceId
    pure ()
  | settlePending tenantId amount batchReference => do
    let _ ← WalletService.settlePending tenantId amount batchReference
    pure ()
  | recordRefund tenantId amount referenceType referenceId description => do
    let _ ← WalletService.recordRefund tenantId amount referenceType referenceId description
    pure ()
  | recordReversal tenantId amount referenceType referenceId description => do
    let _ ← WalletService.recordReversal tenantId amount referenceType referenceId description
    pure ()

/-- Every amount the operation is given has at most two decimals. -/
def TwoDecimals : WalletOperation → Prop
  | getOrCreateWallet _ => True
  | processCollection _ grossAmount _ _ _ => Amounts.TwoDecimals grossAmount
  | createAdjustment _ _ _ amount _ _ _ _ => Amounts.TwoDecimals amount
  | settlePending _ amount _ => ∀ a, amount = some a → Amounts.TwoDecimals a
  | recordRefund _ amount _ _ _ => Amounts.TwoDecimals amount
  | recordReversal _ amount _ _ _ => Amounts.TwoDecimals amount

/-- What the operation adds to the bucket rounds to two decimals as its amount does. -/
def Exact (bucket : WalletBucket) (wallet : TenantWallet) : WalletOperation → Prop
  | createAdjustment _ walletBucket direction amount _ _ _ _ => bucket = walletBucket →
    Amounts.TwoDecimals amount ∨ RoundsAlike (balance wallet walletBucket) direction amount
  | processCollection _ grossAmount _ _ _ => bucket = .pending → Amounts.TwoDecimals grossAmount
  | settlePending _ amount _ => bucket ∈ [.pending, .available] →
    ∀ a, amount = some a → Amounts.TwoDecimals a
  | recordRefund _ amount _ _ _ => bucket = .available → Amounts.TwoDecimals amount
  | recordReversal _ amount _ _ _ => bucket = .pending → Amounts.TwoDecimals amount
  | getOrCreateWallet _ => True

theorem TwoDecimals.exact {operation : WalletOperation} (h : operation.TwoDecimals)
    (bucket : WalletBucket) (wallet : TenantWallet) : operation.Exact bucket wallet := by
  cases operation with
  | getOrCreateWallet _ => trivial
  | createAdjustment _ _ _ _ _ _ _ _ => exact fun _ => Or.inl h
  | processCollection _ _ _ _ _ => exact fun _ => h
  | settlePending _ _ _ => exact fun _ => h
  | recordRefund _ _ _ _ _ => exact fun _ => h
  | recordReversal _ _ _ _ _ => exact fun _ => h

end WalletOperation

section Rules

variable {world : PlatformWorld}

theorem posted_of_located {prior : PlatformDb} {tenantId : ℕ} {wallet : TenantWallet}
    (h : Located world.db prior tenantId wallet) :
    Posted world.db prior prior tenantId wallet wallet [] [] where
  located := h
  id := rfl
  tenant := h.tenant
  wallets := (prior.replaceRow_of_mem h.mem).symm
  ledger := by rw [h.rows_of_ne (by decide), List.append_nil]
  settlements := by rw [h.rows_of_ne (by decide), List.append_nil]
  others t ht := h.rows_of_ne fun heq => ht (by simp [heq])
  ofTenant := by simp
  settledFor := by simp
  nonneg := id
  balances := by simp
  adjusted := by simp

theorem always_getOrCreateWallet {tenantId : ℕ} :
    Always (fun _ => false)
      (fun _ world' => ∃ wallet, Located world.db world'.db tenantId wallet)
      (Refused world tenantId) (getOrCreateWallet tenantId) world := by
  refine always_bind.mpr (always_selectOne rfl ?_ (fun wallet hwallet htenant => ?_)
    (fun hnone => ?_))
  · intro left hleft right hright hl hr
    exact wallet_unique world.db hleft hright
      ((beq_iff_eq.mp hl).trans (beq_iff_eq.mp hr).symm)
  · exact ⟨wallet, .stored hwallet (beq_iff_eq.mp htenant) rfl⟩
  · refine always_create rfl (fun wallet db hbuild hid happended => ?_) (fun _ _ h => by cases h)
    have hid : wallet.id = freshId schema .tenantWallets (world.db.rows .tenantWallets) := hid
    refine ⟨wallet, .created (fun other hother => by simpa using hnone other hother) ?_
      happended⟩
    rw [hid]
    exact hbuild

/-- Whatever the operation, it returns with its entries posted, and refuses before any
move. -/
theorem WalletOperation.always (operation : WalletOperation)
    (hdb : ∀ wallet ∈ world.db.rows .tenantWallets, Nonneg wallet) :
    Always (fun _ => false)
      (fun _ world' => ∃ prior wallet wallet' entries logs,
        Posted world.db prior world'.db operation.tenantId wallet wallet' entries logs ∧
        ∀ bucket, operation.Exact bucket wallet → Explained wallet wallet' entries logs bucket)
      (Refused world operation.tenantId) operation.program world := by
  cases operation with
  | getOrCreateWallet tenantId =>
    refine always_bind.mpr (always_getOrCreateWallet.mono ?_ fun _ _ h => h)
    rintro _ world' ⟨wallet, h⟩
    refine ⟨world'.db, wallet, wallet, [], [], posted_of_located h, fun bucket _ => ?_⟩
    rw [Explained, net_nil, settledInto_nil, add_zero, add_zero]
  | processCollection tenantId grossAmount referenceType referenceId description =>
    refine always_bind.mpr (always_processCollection.mono ?_ fun _ _ h => h)
    rintro _ world' ⟨prior, wallet, wallet', entries, h, hexplained⟩
    exact ⟨prior, wallet, wallet', entries, [], h, hexplained⟩
  | createAdjustment tenantId walletBucket direction amount reason actorId referenceType
      referenceId =>
    refine always_bind.mpr (always_createAdjustment.mono ?_ fun _ _ h => h)
    rintro _ world' ⟨prior, wallet, wallet', entries, h, hexplained⟩
    exact ⟨prior, wallet, wallet', entries, [], h, hexplained⟩
  | settlePending tenantId amount batchReference =>
    refine always_bind.mpr ((always_settlePending hdb).mono ?_ fun _ _ h => h)
    rintro _ world' ⟨prior, wallet, wallet', logs, h, hexplained⟩
    exact ⟨prior, wallet, wallet', [], logs, h, hexplained⟩
  | recordRefund tenantId amount referenceType referenceId description =>
    refine always_bind.mpr ((always_recordDebit (by decide)).mono ?_ fun _ _ h => h)
    rintro _ world' ⟨prior, wallet, wallet', entries, h, hexplained⟩
    exact ⟨prior, wallet, wallet', entries, [], h, hexplained⟩
  | recordReversal tenantId amount referenceType referenceId description =>
    refine always_bind.mpr ((always_recordDebit (by decide)).mono ?_ fun _ _ h => h)
    rintro _ world' ⟨prior, wallet, wallet', entries, h, hexplained⟩
    exact ⟨prior, wallet, wallet', entries, [], h, hexplained⟩

end Rules

end WalletService

/-! ## Steps -/

open PayoutService

/-- The tables the reconstruction of a wallet reads. -/
def books : List Table :=
  [.withdrawals, .withdrawalEvents, .tenantWallets, .ledgerEntries, .settlementLogs]

/-- A step of the payout service, which leaves the books alone elsewhere, or of the wallet
service. -/
inductive MoneyStep
  | payout (step : PayoutStep books)
  | wallet (operation : WalletService.WalletOperation) (outside : Outside)

def MoneyStep.next : MoneyStep → PlatformWorld → PlatformWorld
  | payout step, world => step.next world
  | wallet operation outside, world => (transact outside operation.program world).2

/-- The world after a run. -/
def runMoney (steps : List MoneyStep) (world : PlatformWorld) : PlatformWorld :=
  Runs.run MoneyStep.next steps world

end InfinityRadius.Services
