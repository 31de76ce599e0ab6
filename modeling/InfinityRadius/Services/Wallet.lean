import InfinityRadius.Models.Repository

/-!
# Tenant wallets

`services/wallet.py` and `services/commercial_terms.py`: every operation that
moves a balance takes the wallet's row lock, moves one or two of its five
buckets, and writes the ledger or settlement rows that justify the move.
-/

namespace InfinityRadius.Services

open Amounts Database Payload Program Models

/-! ## Decimal operations -/

/-- `-amount`, which rounds like every other operation. -/
def negate (amount : Decimal) : Decimal := context (-amount)

/-- `str` of an amount, shown with two decimals. -/
def decimalText (amount : Decimal) : String :=
  let cents := roundHalfUp (100 * amount)
  let sign := if cents < 0 then "-" else ""
  let whole := toString (cents.natAbs / 100)
  let tens := toString (cents.natAbs % 100 / 10)
  let ones := toString (cents.natAbs % 10)
  sign ++ whole ++ "." ++ tens ++ ones

def defaultCurrency : String := "TZS"

/-! ## Commercial terms -/

namespace CommercialTermsService

def getActive (tenantId : ℕ) : Tx (Option TenantCommercialTerms) :=
  selectFirst .tenantCommercialTerms fun terms =>
    terms.tenantId == tenantId && terms.isActive

def requireActive (tenantId : ℕ) : Tx TenantCommercialTerms := do
  let terms ← getActive tenantId
  Prog.orRaise terms (.domainValidation
    "No active commercial terms are configured for this tenant — a platform commission rate must be set before collections can be processed.")

def setCommissionRate (tenantId : ℕ) (commissionRatePercent : Decimal) (actorId : Option ℕ)
    (notes : Option String) : Tx TenantCommercialTerms := do
  Prog.require (0 ≤ commissionRatePercent ∧ commissionRatePercent ≤ 100)
    (.domainValidation "commission_rate_percent must be between 0 and 100")
  let current ← getActive tenantId
  match current with
  | some terms =>
    let _ ← updateRow .tenantCommercialTerms terms.id fun stored =>
      { stored with isActive := false }
  | none => pure ()
  create .tenantCommercialTerms fun id =>
    { id, tenantId, commissionRatePercent := toNumeric commissionRatePercent,
      isActive := true, notes, createdBy := actorId }

end CommercialTermsService

/-! ## Wallet operations -/

/-- `_BUCKET_COLUMNS`, read. -/
def balance (wallet : TenantWallet) : WalletBucket → Numeric
  | .available => wallet.availableBalanceTzs
  | .pending => wallet.pendingBalanceTzs
  | .reserved => wallet.reservedBalanceTzs
  | .frozen => wallet.frozenBalanceTzs
  | .totalDisbursed => wallet.totalDisbursedTzs

/-- `_BUCKET_COLUMNS`, written. -/
def setBalance (wallet : TenantWallet) : WalletBucket → Numeric → TenantWallet
  | .available, value => { wallet with availableBalanceTzs := value }
  | .pending, value => { wallet with pendingBalanceTzs := value }
  | .reserved, value => { wallet with reservedBalanceTzs := value }
  | .frozen, value => { wallet with frozenBalanceTzs := value }
  | .totalDisbursed, value => { wallet with totalDisbursedTzs := value }

namespace WalletService

def getOrCreateWallet (tenantId : ℕ) : Tx TenantWallet := do
  let wallet ← selectOne .tenantWallets fun wallet => wallet.tenantId == tenantId
  match wallet with
  | some wallet => pure wallet
  | none =>
    create .tenantWallets fun id => { id, tenantId, currency := defaultCurrency }

def lockedWallet (tenantId : ℕ) : Tx TenantWallet := do
  let wallet ← getOrCreateWallet tenantId
  let locked ← getByIdForUpdate .tenantWallets (some tenantId) wallet.id
  Prog.orRaise locked (.runtimeError
    s!"Wallet {wallet.id} vanished between create and lock")

/-- The refreshed wallet, and the balance before the column rounds it. -/
structure Move where
  wallet : TenantWallet
  newValue : Decimal

/-- The new value is written as a text, which SQLAlchemy never takes for the
loaded `Decimal`: the column is written even where the balance stays. -/
def moveBucket (wallet : TenantWallet) (bucket : WalletBucket) (delta : Decimal) :
    Tx Move := do
  let newValue := context (ofNumeric (balance wallet bucket) + delta)
  Prog.require (0 ≤ newValue) (.domainValidation
    s!"This operation would take {bucket.value}_balance_tzs below zero")
  let wallet ← updateRow .tenantWallets wallet.id fun stored =>
    setBalance stored bucket (toNumeric newValue)
  pure { wallet, newValue }

structure CollectionResult where
  platformFee : Decimal
  tenantShare : Decimal

/-- `quantize_tzs(gross_amount * rate / Decimal(100))`. -/
def platformFeeOf (grossAmount rate : Decimal) : Option Decimal :=
  quantize (context (context (grossAmount * rate) / 100))

def processCollection (tenantId : ℕ) (grossAmount : Decimal) (referenceType : String)
    (referenceId : Option ℕ) (description : Option String) : Tx CollectionResult := do
  Prog.require (0 < grossAmount) (.domainValidation "gross_amount must be positive")
  let terms ← CommercialTermsService.requireActive tenantId
  let rate := ofNumeric terms.commissionRatePercent
  let platformFee ← Prog.orRaise (platformFeeOf grossAmount rate) .invalidOperation
  let tenantShare := context (grossAmount - platformFee)
  let wallet ← lockedWallet tenantId
  let credit ← moveBucket wallet .pending tenantShare
  let wallet := credit.wallet
  let _ ← create .ledgerEntries fun id =>
    { id, tenantId, walletId := wallet.id, entryType := .collection, direction := .credit,
      walletBucket := none, amount := toNumeric grossAmount, balanceAfter := none,
      referenceType := some referenceType, referenceId, description }
  let _ ← create .ledgerEntries fun id =>
    { id, tenantId, walletId := wallet.id, entryType := .platformFee, direction := .debit,
      walletBucket := none, amount := toNumeric platformFee, balanceAfter := none,
      referenceType := some referenceType, referenceId,
      description := some ("Platform commission at " ++ decimalText rate ++ "% of gross "
        ++ decimalText grossAmount) }
  let _ ← create .ledgerEntries fun id =>
    { id, tenantId, walletId := wallet.id, entryType := .tenantShare, direction := .credit,
      walletBucket := some .pending, amount := toNumeric tenantShare,
      balanceAfter := some (toNumeric credit.newValue), referenceType := some referenceType,
      referenceId, description }
  pure { platformFee, tenantShare }

def createAdjustment (tenantId : ℕ) (walletBucket : WalletBucket)
    (direction : LedgerDirection) (amount : Decimal) (reason : String) (actorId : ℕ)
    (referenceType : Option String) (referenceId : Option ℕ) : Tx LedgerEntry := do
  Prog.require (0 < amount) (.domainValidation "adjustment amount must be positive")
  Prog.require (strip reason ≠ "")
    (.domainValidation "An adjustment requires a non-empty reason")
  let wallet ← lockedWallet tenantId
  let signedDelta := if direction = .credit then amount else negate amount
  let move ← moveBucket wallet walletBucket signedDelta
  create .ledgerEntries fun id =>
    { id, tenantId, walletId := move.wallet.id, entryType := .adjustment, direction,
      walletBucket := some walletBucket, amount := toNumeric amount,
      balanceAfter := some (toNumeric move.newValue), referenceType, referenceId,
      description := some reason, actorId := some actorId }

def settlePending (tenantId : ℕ) (amount : Option Decimal) (batchReference : String) :
    Tx SettlementLog := do
  let wallet ← lockedWallet tenantId
  let pending := ofNumeric wallet.pendingBalanceTzs
  let settleAmount := amount.getD pending
  Prog.require (0 < settleAmount)
    (.domainValidation "settle_pending amount must be positive")
  Prog.require (settleAmount ≤ pending)
    (.domainValidation "Cannot settle more than the current pending balance")
  let debit ← moveBucket wallet .pending (negate settleAmount)
  let _ ← moveBucket debit.wallet .available settleAmount
  create .settlementLogs fun id =>
    { id, tenantId, batchReference, transactionCount := 1,
      grossAmount := toNumeric settleAmount, feeAmount := 0,
      netAmount := toNumeric settleAmount, status := "settled" }

def reserveForWithdrawal (tenantId : ℕ) (amount : Decimal) : Tx TenantWallet := do
  Prog.require (0 < amount) (.domainValidation "reserve amount must be positive")
  let wallet ← lockedWallet tenantId
  let debit ← moveBucket wallet .available (negate amount)
  let credit ← moveBucket debit.wallet .reserved amount
  pure credit.wallet

def releaseReservation (tenantId : ℕ) (amount : Decimal) : Tx TenantWallet := do
  Prog.require (0 < amount) (.domainValidation "release amount must be positive")
  let wallet ← lockedWallet tenantId
  let debit ← moveBucket wallet .reserved (negate amount)
  let credit ← moveBucket debit.wallet .available amount
  pure credit.wallet

def completeDisbursement (tenantId : ℕ) (amount : Decimal) (referenceId : Option ℕ)
    (description : Option String) : Tx LedgerEntry := do
  Prog.require (0 < amount) (.domainValidation "disbursement amount must be positive")
  let wallet ← lockedWallet tenantId
  let debit ← moveBucket wallet .reserved (negate amount)
  let credit ← moveBucket debit.wallet .totalDisbursed amount
  create .ledgerEntries fun id =>
    { id, tenantId, walletId := credit.wallet.id, entryType := .disbursement, direction := .credit,
      walletBucket := some .totalDisbursed, amount := toNumeric amount,
      balanceAfter := some (toNumeric credit.newValue), referenceType := some "withdrawal",
      referenceId, description }

def reverseDisbursement (tenantId : ℕ) (amount : Decimal) (referenceId : Option ℕ)
    (description : Option String) : Tx LedgerEntry := do
  Prog.require (0 < amount) (.domainValidation "reversal amount must be positive")
  let wallet ← lockedWallet tenantId
  let debit ← moveBucket wallet .totalDisbursed (negate amount)
  let credit ← moveBucket debit.wallet .available amount
  create .ledgerEntries fun id =>
    { id, tenantId, walletId := credit.wallet.id, entryType := .disbursementReversal,
      direction := .credit, walletBucket := some .available, amount := toNumeric amount,
      balanceAfter := some (toNumeric credit.newValue), referenceType := some "withdrawal",
      referenceId, description }

/-- `record_refund` and `record_reversal`: a debit of one bucket with its ledger
entry. -/
def recordDebit (entryType : LedgerEntryType) (bucket : WalletBucket) (refusal : String)
    (tenantId : ℕ) (amount : Decimal) (referenceType : String) (referenceId : Option ℕ)
    (description : Option String) : Tx LedgerEntry := do
  Prog.require (0 < amount) (.domainValidation refusal)
  let wallet ← lockedWallet tenantId
  let move ← moveBucket wallet bucket (negate amount)
  create .ledgerEntries fun id =>
    { id, tenantId, walletId := move.wallet.id, entryType, direction := .debit,
      walletBucket := some bucket, amount := toNumeric amount,
      balanceAfter := some (toNumeric move.newValue), referenceType := some referenceType,
      referenceId, description }

def recordRefund (tenantId : ℕ) (amount : Decimal) (referenceType : String)
    (referenceId : Option ℕ) (description : Option String) : Tx LedgerEntry :=
  recordDebit .refund .available "refund amount must be positive" tenantId amount
    referenceType referenceId description

def recordReversal (tenantId : ℕ) (amount : Decimal) (referenceType : String)
    (referenceId : Option ℕ) (description : Option String) : Tx LedgerEntry :=
  recordDebit .reversal .pending "reversal amount must be positive" tenantId amount
    referenceType referenceId description

/-! ## What a move does -/

@[simp]
theorem setBalance_id (wallet : TenantWallet) (bucket : WalletBucket) (value : Numeric) :
    (setBalance wallet bucket value).id = wallet.id := by cases bucket <;> rfl

@[simp]
theorem setBalance_tenantId (wallet : TenantWallet) (bucket : WalletBucket)
    (value : Numeric) : (setBalance wallet bucket value).tenantId = wallet.tenantId := by
  cases bucket <;> rfl

@[simp]
theorem balance_setBalance (wallet : TenantWallet) (bucket : WalletBucket)
    (value : Numeric) : balance (setBalance wallet bucket value) bucket = value := by
  cases bucket <;> rfl

theorem balance_setBalance_of_ne (wallet : TenantWallet) {bucket other : WalletBucket}
    (value : Numeric) (hne : other ≠ bucket) :
    balance (setBalance wallet bucket value) other = balance wallet other := by
  cases bucket <;> cases other <;> first | rfl | exact absurd rfl hne

/-- The value `moveBucket` computes for the bucket. -/
def movedValue (wallet : TenantWallet) (bucket : WalletBucket) (delta : Decimal) : Decimal :=
  context (ofNumeric (balance wallet bucket) + delta)

/-- The wallet after a move, where the move is not refused. -/
def moved (wallet : TenantWallet) (bucket : WalletBucket) (delta : Decimal) :
    Option TenantWallet :=
  let wallet' := setBalance wallet bucket (toNumeric (movedValue wallet bucket delta))
  if 0 ≤ movedValue wallet bucket delta ∧ rowValid .tenantWallets wallet' = true then
    some wallet'
  else none

theorem moved_eq_some {wallet wallet' : TenantWallet} {bucket : WalletBucket}
    {delta : Decimal} (h : moved wallet bucket delta = some wallet') :
    0 ≤ movedValue wallet bucket delta ∧ rowValid .tenantWallets wallet' = true ∧
      wallet' = setBalance wallet bucket (toNumeric (movedValue wallet bucket delta)) := by
  unfold moved at h
  simp only at h
  split at h
  · rename_i hmove
    cases h
    exact ⟨hmove.1, hmove.2, rfl⟩
  · cases h

theorem moved_id {wallet wallet' : TenantWallet} {bucket : WalletBucket} {delta : Decimal}
    (h : moved wallet bucket delta = some wallet') : wallet'.id = wallet.id := by
  rw [(moved_eq_some h).2.2, setBalance_id]

theorem moved_tenantId {wallet wallet' : TenantWallet} {bucket : WalletBucket}
    {delta : Decimal} (h : moved wallet bucket delta = some wallet') :
    wallet'.tenantId = wallet.tenantId := by
  rw [(moved_eq_some h).2.2, setBalance_tenantId]

section Rules

open Sql

variable {aside : Table → Bool} {α : Type} {returns : α → PlatformWorld → Prop}
  {raises : Failure → PlatformWorld → Prop} {world : PlatformWorld}

/-- The new value is refused where it is negative, and by the database where it does
not fit its column. -/
theorem always_moveBucket_split {wallet : TenantWallet} {bucket : WalletBucket}
    {delta : Decimal} {returns : Move → PlatformWorld → Prop}
    (haside : aside .tenantWallets = false)
    (hwallet : wallet ∈ world.db.rows .tenantWallets)
    (hmoved : ∀ wallet' db, moved wallet bucket delta = some wallet' →
      Db.Replaced .tenantWallets wallet' world.db db →
      returns ⟨wallet', movedValue wallet bucket delta⟩ { world with db })
    (hnegative : movedValue wallet bucket delta < 0 →
      ∀ message, raises (.domainValidation message) world)
    (hrefused : moved wallet bucket delta = none → raises .database world) :
    Always aside returns raises (moveBucket wallet bucket delta) world := by
  unfold moveBucket
  refine always_bind.mpr (always_require (fun hvalue => ?_) (fun hvalue => ?_))
  · refine always_bind.mpr (always_updateRow (t := .tenantWallets) haside hwallet
      (setBalance_id _ _ _) (fun other => ?_) (fun db hvalid hreplaced => ?_)
      (fun hvalid => ?_))
    · simp only [rowConflict, setBalance_tenantId]
    · exact hmoved _ db (if_pos ⟨hvalue, hvalid⟩) hreplaced
    · refine hrefused (if_neg fun h => ?_)
      rw [movedValue] at h
      exact Bool.eq_false_iff.mp hvalid h.2
  · exact hnegative (not_le.mp hvalue) _

theorem always_moveBucket {wallet : TenantWallet} {bucket : WalletBucket} {delta : Decimal}
    {returns : Move → PlatformWorld → Prop}
    (haside : aside .tenantWallets = false)
    (hwallet : wallet ∈ world.db.rows .tenantWallets)
    (hmoved : ∀ wallet' db, moved wallet bucket delta = some wallet' →
      Db.Replaced .tenantWallets wallet' world.db db →
      returns ⟨wallet', movedValue wallet bucket delta⟩ { world with db })
    (hrefused : ∀ e, moved wallet bucket delta = none → raises e world) :
    Always aside returns raises (moveBucket wallet bucket delta) world :=
  always_moveBucket_split haside hwallet hmoved
    (fun hnegative _ => hrefused _ (if_neg fun h => not_lt.mpr h.1 hnegative)) (hrefused _)

/-- A tenant has one wallet. -/
theorem wallet_unique (db : PlatformDb) {left right : TenantWallet}
    (hleft : left ∈ db.rows .tenantWallets) (hright : right ∈ db.rows .tenantWallets)
    (htenant : left.tenantId = right.tenantId) : left = right := by
  by_contra hne
  have hconflict := (db.apart_of_ne hleft hright hne).2
  simp [rowConflict, htenant] at hconflict

theorem always_lockedWallet {tenantId : ℕ} {returns : TenantWallet → PlatformWorld → Prop}
    (haside : aside .tenantWallets = false)
    (hfound : ∀ wallet ∈ world.db.rows .tenantWallets, wallet.tenantId = tenantId →
      returns wallet world)
    (hcreated : (∀ wallet ∈ world.db.rows .tenantWallets, wallet.tenantId ≠ tenantId) →
      ∀ wallet db, wallet = { id := wallet.id, tenantId, currency := defaultCurrency } →
        Db.Appended .tenantWallets wallet world.db db → returns wallet { world with db })
    (hrefused : (∀ wallet ∈ world.db.rows .tenantWallets, wallet.tenantId ≠ tenantId) →
      ∀ e, raises e world) :
    Always aside returns raises (lockedWallet tenantId) world := by
  unfold lockedWallet
  refine always_bind.mpr ?_
  unfold getOrCreateWallet
  refine always_bind.mpr (always_selectOne haside ?_ (fun wallet hwallet htenant => ?_)
    (fun hnone => ?_))
  · intro left hleft right hright hl hr
    exact wallet_unique world.db hleft hright
      ((beq_iff_eq.mp hl).trans (beq_iff_eq.mp hr).symm)
  · have htenant : wallet.tenantId = tenantId := beq_iff_eq.mp htenant
    refine always_bind.mpr (always_getByIdForUpdate haside ?_ ?_)
    · intro locked hlocked _ hid
      obtain rfl := world.db.id_injOn hlocked hwallet hid
      exact hfound locked hlocked htenant
    · intro habsent
      exact absurd rfl (habsent wallet hwallet (by simp [ofTenant, rowTenant, htenant]))
  · have hnone : ∀ wallet ∈ world.db.rows .tenantWallets, wallet.tenantId ≠ tenantId :=
      fun wallet hwallet => by simpa using hnone wallet hwallet
    refine always_create haside (fun wallet db hbuild hid happended => ?_)
      (fun _ => hrefused hnone _)
    have hid : wallet.id = freshId schema .tenantWallets (world.db.rows .tenantWallets) := hid
    refine always_bind.mpr (always_getByIdForUpdate haside ?_ ?_)
    · intro locked hlocked _ hlockedId
      obtain rfl := db.id_injOn hlocked happended.mem hlockedId
      exact hcreated hnone locked db (by rw [hid]; exact hbuild) happended
    · intro habsent
      exact absurd rfl (habsent wallet happended.mem (by rw [hbuild]; simp [ofTenant, rowTenant]))

/-- Two moves of one wallet, the first one a debit. -/
def movedTwice (first second : WalletBucket) (delta : Decimal) (delta' : Decimal)
    (wallet : TenantWallet) : Option TenantWallet :=
  (moved wallet first delta).bind fun middle => moved middle second delta'

theorem movedTwice_eq_some {first second : WalletBucket} {delta delta' : Decimal}
    {wallet wallet' : TenantWallet}
    (h : movedTwice first second delta delta' wallet = some wallet') :
    ∃ middle, moved wallet first delta = some middle ∧
      moved middle second delta' = some wallet' :=
  Option.bind_eq_some_iff.mp h

theorem movedTwice_id {first second : WalletBucket} {delta delta' : Decimal}
    {wallet wallet' : TenantWallet}
    (h : movedTwice first second delta delta' wallet = some wallet') :
    wallet'.id = wallet.id := by
  obtain ⟨middle, hfirst, hsecond⟩ := movedTwice_eq_some h
  rw [moved_id hsecond, moved_id hfirst]

theorem movedTwice_tenantId {first second : WalletBucket} {delta delta' : Decimal}
    {wallet wallet' : TenantWallet}
    (h : movedTwice first second delta delta' wallet = some wallet') :
    wallet'.tenantId = wallet.tenantId := by
  obtain ⟨middle, hfirst, hsecond⟩ := movedTwice_eq_some h
  rw [moved_tenantId hsecond, moved_tenantId hfirst]

theorem movedTwice_valid {first second : WalletBucket} {delta delta' : Decimal}
    {wallet wallet' : TenantWallet}
    (h : movedTwice first second delta delta' wallet = some wallet') :
    rowValid .tenantWallets wallet' = true := by
  obtain ⟨middle, -, hsecond⟩ := movedTwice_eq_some h
  exact (moved_eq_some hsecond).2.1

theorem fits_of_rowValid {wallet : TenantWallet}
    (h : rowValid .tenantWallets wallet = true) (bucket : WalletBucket) :
    Numeric.fits (balance wallet bucket) = true := by
  simp only [rowValid, amountsFit, Bool.and_eq_true, List.all_eq_true] at h
  refine h.1.1 _ ?_
  cases bucket <;> simp [balance]

theorem moved_debit_of_zero {wallet : TenantWallet} {bucket : WalletBucket} {delta : Decimal}
    (hzero : balance wallet bucket = 0) (hdelta : delta < 0) :
    moved wallet bucket delta = none := by
  refine if_neg fun h => absurd h.1 (not_le.mpr ?_)
  rw [movedValue, hzero]
  exact context_neg (by simpa [ofNumeric] using hdelta)

/-- The wallet is locked and moved twice; a tenant that had no wallet has no
balance to debit. -/
theorem always_movedTwice {tenantId : ℕ} {first second : WalletBucket}
    {delta delta' : Decimal} {next : Move → Tx α}
    (haside : aside .tenantWallets = false) (hdelta : delta < 0)
    (hmoved : ∀ wallet ∈ world.db.rows .tenantWallets, wallet.tenantId = tenantId →
      ∀ wallet' value db, movedTwice first second delta delta' wallet = some wallet' →
        toNumeric value = balance wallet' second →
        Db.Replaced .tenantWallets wallet' world.db db →
        Always aside returns raises (next ⟨wallet', value⟩) { world with db })
    (hrefused : (∀ wallet ∈ world.db.rows .tenantWallets, wallet.tenantId = tenantId →
        movedTwice first second delta delta' wallet = none) →
      ∀ e db, (∀ t, t ≠ .tenantWallets → db.rows t = world.db.rows t) →
        raises e { world with db }) :
    Always aside returns raises (do
      let wallet ← lockedWallet tenantId
      let debit ← moveBucket wallet first delta
      let credit ← moveBucket debit.wallet second delta'
      next credit) world := by
  refine always_bind.mpr (always_lockedWallet haside (fun wallet hwallet htenant => ?_)
    (fun hnone wallet db hwallet happended => ?_) (fun hnone e => ?_))
  · have honly : movedTwice first second delta delta' wallet = none →
        ∀ other ∈ world.db.rows .tenantWallets, other.tenantId = tenantId →
          movedTwice first second delta delta' other = none := by
      intro h other hother hothertenant
      rwa [wallet_unique world.db hother hwallet (hothertenant.trans htenant.symm)]
    refine always_bind.mpr (always_moveBucket haside hwallet (fun middle db hmiddle hfirst => ?_)
      (fun e hmiddle => ?_))
    · have hmiddleId : middle.id = wallet.id := moved_id hmiddle
      refine always_bind.mpr (always_moveBucket haside (hfirst.mem hwallet hmiddleId.symm)
        (fun wallet' db' hwallet' hsecond => ?_) (fun e hwallet' => ?_))
      · refine hmoved wallet hwallet htenant wallet' _ db' ?_ ?_
          (hfirst.trans hsecond (moved_id hwallet').symm)
        · simp only [movedTwice, hmiddle, Option.bind_some, hwallet']
        · rw [(moved_eq_some hwallet').2.2, balance_setBalance]
      · refine hrefused (honly ?_) e db fun t ht => hfirst.rows_of_ne ht
        simp only [movedTwice, hmiddle, Option.bind_some, hwallet']
    · refine hrefused (honly ?_) e world.db fun _ _ => rfl
      simp only [movedTwice, hmiddle, Option.bind_none]
  · have hzero : moved wallet first delta = none :=
      moved_debit_of_zero (by rw [hwallet]; cases first <;> rfl) hdelta
    refine always_bind.mpr (always_moveBucket haside happended.mem
      (fun middle _ hmiddle _ => ?_) (fun e _ => ?_))
    · rw [hzero] at hmiddle
      cases hmiddle
    · exact hrefused (fun other hother h => absurd h (hnone other hother)) e db
        fun t ht => happended.rows_of_ne ht
  · exact hrefused (fun other hother h => absurd h (hnone other hother)) e world.db
      fun _ _ => rfl

theorem negate_neg {amount : Decimal} (h : 0 < amount) : negate amount < 0 :=
  context_neg (neg_neg_of_pos h)

/-- The wallet after `reserve_for_withdrawal`, where it is not refused. -/
def reserved (amount : Decimal) : TenantWallet → Option TenantWallet :=
  movedTwice .available .reserved (negate amount) amount

/-- The wallet after `release_reservation`, where it is not refused. -/
def released (amount : Decimal) : TenantWallet → Option TenantWallet :=
  movedTwice .reserved .available (negate amount) amount

/-- The wallet after `complete_disbursement`, where it is not refused. -/
def disbursed (amount : Decimal) : TenantWallet → Option TenantWallet :=
  movedTwice .reserved .totalDisbursed (negate amount) amount

/-- The wallet after `reverse_disbursement`, where it is not refused. -/
def returned (amount : Decimal) : TenantWallet → Option TenantWallet :=
  movedTwice .totalDisbursed .available (negate amount) amount

/-- The tenant has a wallet, and the two moves of it are not refused. -/
def Movable (move : Decimal → TenantWallet → Option TenantWallet) (db : PlatformDb)
    (tenantId : ℕ) (amount : Decimal) : Prop :=
  0 < amount ∧ ∃ wallet ∈ db.rows .tenantWallets, wallet.tenantId = tenantId ∧
    (move amount wallet).isSome

theorem not_movable_of_none {move : Decimal → TenantWallet → Option TenantWallet}
    {db : PlatformDb} {tenantId : ℕ} {amount : Decimal}
    (h : ∀ wallet ∈ db.rows .tenantWallets, wallet.tenantId = tenantId →
      move amount wallet = none) : ¬Movable move db tenantId amount := by
  rintro ⟨-, wallet, hwallet, htenant, hsome⟩
  rw [h wallet hwallet htenant] at hsome
  cases hsome

theorem always_reserveForWithdrawal {tenantId : ℕ} {amount : Decimal}
    {returns : TenantWallet → PlatformWorld → Prop}
    (haside : aside .tenantWallets = false)
    (hreturns : ∀ wallet ∈ world.db.rows .tenantWallets, wallet.tenantId = tenantId →
      ∀ wallet' db, reserved amount wallet = some wallet' →
        Db.Replaced .tenantWallets wallet' world.db db → returns wallet' { world with db })
    (hraises : ∀ e db, raises e { world with db }) :
    Always aside returns raises (reserveForWithdrawal tenantId amount) world := by
  unfold reserveForWithdrawal
  refine always_bind.mpr (always_require (fun hamount => ?_) (fun _ => hraises _ world.db))
  refine always_movedTwice haside (negate_neg hamount) ?_ (fun _ e db _ => hraises e db)
  intro wallet hwallet htenant wallet' _ db h _ hreplaced
  exact hreturns wallet hwallet htenant wallet' db h hreplaced

theorem always_releaseReservation {tenantId : ℕ} {amount : Decimal}
    {returns : TenantWallet → PlatformWorld → Prop}
    (haside : aside .tenantWallets = false)
    (hreturns : ∀ wallet ∈ world.db.rows .tenantWallets, wallet.tenantId = tenantId →
      ∀ wallet' db, released amount wallet = some wallet' →
        Db.Replaced .tenantWallets wallet' world.db db → returns wallet' { world with db })
    (hraises : ¬Movable released world.db tenantId amount →
      ∀ e db, raises e { world with db }) :
    Always aside returns raises (releaseReservation tenantId amount) world := by
  unfold releaseReservation
  refine always_bind.mpr (always_require (fun hamount => ?_) (fun hamount => ?_))
  · refine always_movedTwice haside (negate_neg hamount) ?_
      (fun hnone e db _ => hraises (not_movable_of_none hnone) e db)
    intro wallet hwallet htenant wallet' _ db h _ hreplaced
    exact hreturns wallet hwallet htenant wallet' db h hreplaced
  · exact hraises (fun h => hamount h.1) _ world.db

/-- The ledger entry that justifies a payout or takes it back. -/
structure IsEntry (entryType : LedgerEntryType) (bucket : WalletBucket) (tenantId : ℕ)
    (amount : Numeric) (referenceId : Option ℕ) (entry : LedgerEntry) : Prop where
  tenantId : entry.tenantId = tenantId
  entryType : entry.entryType = entryType
  direction : entry.direction = .credit
  bucket : entry.walletBucket = some bucket
  amount : entry.amount = amount
  referenceId : entry.referenceId = referenceId

/-- The ledger entry a completed disbursement writes. -/
def IsDisbursement : ℕ → Numeric → Option ℕ → LedgerEntry → Prop :=
  IsEntry .disbursement .totalDisbursed

/-- The ledger entry a reversed disbursement writes. -/
def IsDisbursementReversal : ℕ → Numeric → Option ℕ → LedgerEntry → Prop :=
  IsEntry .disbursementReversal .available

theorem always_completeDisbursement {tenantId : ℕ} {amount : Decimal}
    {referenceId : Option ℕ} {description : Option String}
    {returns : LedgerEntry → PlatformWorld → Prop}
    (haside : aside .tenantWallets = false) (haside' : aside .ledgerEntries = false)
    (hreturns : ∀ wallet ∈ world.db.rows .tenantWallets, wallet.tenantId = tenantId →
      ∀ wallet' entry middle db, disbursed amount wallet = some wallet' →
        Db.Replaced .tenantWallets wallet' world.db middle →
        IsDisbursement tenantId (toNumeric amount) referenceId entry →
        entry.balanceAfter = entry.walletBucket.map (balance wallet') →
        Db.Appended .ledgerEntries entry middle db → returns entry { world with db })
    (hraises : ¬(Movable disbursed world.db tenantId amount ∧
        Numeric.fits (toNumeric amount) = true ∧ storableOpt description = true) →
      ∀ e db, raises e { world with db }) :
    Always aside returns raises
      (completeDisbursement tenantId amount referenceId description) world := by
  unfold completeDisbursement
  refine always_bind.mpr (always_require (fun hamount => ?_) (fun hamount => ?_))
  · refine always_movedTwice haside (negate_neg hamount) ?_
      (fun hnone e db _ => hraises (fun h => not_movable_of_none hnone h.1) e db)
    intro wallet hwallet htenant wallet' value middle h hvalue hreplaced
    refine always_createPlain haside' (fun _ => rfl) (fun _ _ => rfl)
      (fun entry db hentry _ happended => ?_) (fun id hvalid => ?_)
    · have hdisbursement : IsDisbursement tenantId (toNumeric amount) referenceId entry := by
        rw [hentry]
        constructor <;> rfl
      refine hreturns wallet hwallet htenant wallet' entry middle db h hreplaced
        hdisbursement ?_ happended
      rw [hentry]
      exact congrArg some hvalue
    · refine hraises (fun ⟨_, hfits, hstorable⟩ => ?_) _ middle
      have hbalance : Numeric.fits (toNumeric value) = true := by
        rw [hvalue]
        exact fits_of_rowValid (movedTwice_valid h) _
      simp [rowValid, amountsFit, textsStorable, hfits, hstorable, hbalance] at hvalid
      exact absurd hvalid (by decide)
  · exact hraises (fun h => hamount h.1.1) _ world.db

theorem always_reverseDisbursement {tenantId : ℕ} {amount : Decimal}
    {referenceId : Option ℕ} {description : Option String}
    {returns : LedgerEntry → PlatformWorld → Prop}
    (haside : aside .tenantWallets = false) (haside' : aside .ledgerEntries = false)
    (hreturns : ∀ wallet ∈ world.db.rows .tenantWallets, wallet.tenantId = tenantId →
      ∀ wallet' entry middle db, returned amount wallet = some wallet' →
        Db.Replaced .tenantWallets wallet' world.db middle →
        IsDisbursementReversal tenantId (toNumeric amount) referenceId entry →
        entry.balanceAfter = entry.walletBucket.map (balance wallet') →
        Db.Appended .ledgerEntries entry middle db → returns entry { world with db })
    (hraises : ∀ e db, raises e { world with db }) :
    Always aside returns raises
      (reverseDisbursement tenantId amount referenceId description) world := by
  unfold reverseDisbursement
  refine always_bind.mpr (always_require (fun hamount => ?_) (fun _ => hraises _ world.db))
  refine always_movedTwice haside (negate_neg hamount) ?_ (fun _ e db _ => hraises e db)
  intro wallet hwallet htenant wallet' value middle h hvalue hreplaced
  refine always_create haside' (fun entry db hentry _ happended => ?_) (fun _ => hraises _ middle)
  have hreversal : IsDisbursementReversal tenantId (toNumeric amount) referenceId entry := by
    rw [hentry]
    constructor <;> rfl
  refine hreturns wallet hwallet htenant wallet' entry middle db h hreplaced hreversal ?_
    happended
  rw [hentry]
  exact congrArg some hvalue

end Rules

/-! ## Footprints -/

section Footprints

open Sql

variable {P : Stmt Table Row Ask Request → Prop}

theorem all_lockedWallet (hread : ∀ p, P (.select .tenantWallets p))
    (hlock : ∀ p, P (.selectForUpdate .tenantWallets p))
    (hcreate : ∀ build, P (.insert .tenantWallets build)) (tenantId : ℕ) :
    (lockedWallet tenantId).All P := by
  refine .bind (.bind ⟨hread _, fun _ => all_scalarOneOrNone _⟩ fun wallet => ?_) fun wallet =>
    .bind ⟨hlock _, fun _ => all_scalarOneOrNone _⟩ fun _ => Prog.all_orRaise _ _
  cases wallet with
  | some wallet => trivial
  | none => exact ⟨hcreate _, fun _ => Prog.all_orRaise _ _⟩

theorem all_moveBucket (hwrite : ∀ id write, P (.update .tenantWallets id write))
    (wallet : TenantWallet) (bucket : WalletBucket) (delta : Decimal) :
    (moveBucket wallet bucket delta).All P :=
  .bind (Prog.all_require _ _) fun _ =>
    .bind ⟨hwrite _ _, fun _ => Prog.all_orRaise _ _⟩ fun _ => trivial

theorem all_releaseReservation (hread : ∀ p, P (.select .tenantWallets p))
    (hlock : ∀ p, P (.selectForUpdate .tenantWallets p))
    (hcreate : ∀ build, P (.insert .tenantWallets build))
    (hwrite : ∀ id write, P (.update .tenantWallets id write))
    (tenantId : ℕ) (amount : Decimal) : (releaseReservation tenantId amount).All P :=
  .bind (Prog.all_require _ _) fun _ => .bind (all_lockedWallet hread hlock hcreate _) fun _ =>
    .bind (all_moveBucket hwrite _ _ _) fun _ => .bind (all_moveBucket hwrite _ _ _) fun _ =>
      trivial

end Footprints

end WalletService

end InfinityRadius.Services
