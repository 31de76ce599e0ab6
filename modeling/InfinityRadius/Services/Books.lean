import InfinityRadius.Services.MoneyRuns
import InfinityRadius.Services.SubmittedOnce

/-!
# The books

What the records of a tenant say its buckets hold: the ledger, the settlements and
the withdrawals.  Every step of a run keeps each bucket equal to its records where
the amounts it is given are exact.
-/

namespace InfinityRadius.Services

open Amounts Database Payload Program Sql Models PayoutService WalletService

/-! ## Sums -/

/-- What the tenant's wallet holds in a bucket, nothing without a wallet. -/
def balanceOf (db : PlatformDb) (tenantId : ℕ) (bucket : WalletBucket) : Numeric :=
  db.total .tenantWallets fun wallet =>
    if wallet.tenantId = tenantId then balance wallet bucket else 0

/-- The credits of the tenant's bucket minus its debits. -/
def netOf (db : PlatformDb) (tenantId : ℕ) (bucket : WalletBucket) : Numeric :=
  db.total .ledgerEntries fun entry =>
    if entry.tenantId = tenantId then net bucket [entry] else 0

/-- The sum of `settlement_logs.net_amount`. -/
def settledOf (db : PlatformDb) (tenantId : ℕ) : Numeric :=
  db.total .settlementLogs fun log => if log.tenantId = tenantId then log.netAmount else 0

/-- How often the amount of a withdrawal in a status stands in a bucket without a ledger
entry. -/
def drawn (bucket : WalletBucket) (status : WithdrawalStatus) : Numeric :=
  match bucket with
  | .available => if status.closed = true then 0 else -1
  | .reserved => if status.held = true then 1 else 0
  | .totalDisbursed => if status = .reversed then -1 else 0
  | _ => 0

/-- What the tenant's withdrawals moved into a bucket without a ledger entry. -/
def drawnOf (db : PlatformDb) (tenantId : ℕ) (bucket : WalletBucket) : Numeric :=
  db.total .withdrawals fun w =>
    if w.tenantId = tenantId then drawn bucket w.status * w.amount else 0

/-- How often a settlement stands in a bucket. -/
def settledSign : WalletBucket → Numeric
  | .available => 1
  | .pending => -1
  | _ => 0

/-- What the tenant's records say a bucket holds. -/
def recorded (db : PlatformDb) (tenantId : ℕ) (bucket : WalletBucket) : Numeric :=
  netOf db tenantId bucket + settledSign bucket * settledOf db tenantId +
    drawnOf db tenantId bucket

/-- Every tenant's bucket holds what its records say. -/
def Balanced (bucket : WalletBucket) (db : PlatformDb) : Prop :=
  ∀ tenantId, balanceOf db tenantId bucket = recorded db tenantId bucket

section Sums

variable {db db' : PlatformDb} {w w' : Withdrawal} {wallet wallet' : TenantWallet}

theorem balanceOf_of_mem (hwallet : wallet ∈ db.rows .tenantWallets) (bucket : WalletBucket) :
    balanceOf db wallet.tenantId bucket = balance wallet bucket := by
  rw [balanceOf, db.total_eq_of_unique _ hwallet, if_pos rfl]
  intro other hother hne
  exact if_neg fun heq => hne (wallet_unique db hother hwallet heq)

theorem balanceOf_of_rows (h : db'.rows .tenantWallets = db.rows .tenantWallets)
    (tenantId : ℕ) (bucket : WalletBucket) :
    balanceOf db' tenantId bucket = balanceOf db tenantId bucket :=
  Db.total_of_rows _ h

theorem balanceOf_replaced (hwallet : wallet ∈ db.rows .tenantWallets)
    (hid : wallet.id = wallet'.id) (htenant : wallet'.tenantId = wallet.tenantId)
    (h : db'.rows .tenantWallets =
      replaceRow schema .tenantWallets wallet' (db.rows .tenantWallets))
    (tenantId : ℕ) (bucket : WalletBucket) :
    balanceOf db' tenantId bucket = balanceOf db tenantId bucket +
      if tenantId = wallet.tenantId then balance wallet' bucket - balance wallet bucket
      else 0 := by
  rw [balanceOf, Db.total_replaceRow _ hwallet hid h, balanceOf, htenant]
  by_cases heq : wallet.tenantId = tenantId
  · rw [if_pos heq, if_pos heq, if_pos heq.symm]
    ring
  · rw [if_neg heq, if_neg heq, if_neg fun h => heq h.symm]
    ring

theorem netOf_of_rows (h : db'.rows .ledgerEntries = db.rows .ledgerEntries) (tenantId : ℕ)
    (bucket : WalletBucket) : netOf db' tenantId bucket = netOf db tenantId bucket :=
  Db.total_of_rows _ h

/-- Rows of one tenant count for that tenant alone. -/
theorem sum_of_owner {α : Type} {rows : List α} {ownerOf : α → ℕ} {f : α → ℤ} {owner : ℕ}
    (howner : ∀ row ∈ rows, ownerOf row = owner) (tenantId : ℕ) :
    (rows.map fun row => if ownerOf row = tenantId then f row else 0).sum =
      if tenantId = owner then (rows.map f).sum else 0 := by
  by_cases heq : tenantId = owner
  · rw [if_pos heq]
    congr 1
    apply List.map_congr_left
    intro row hrow
    exact if_pos ((howner row hrow).trans heq.symm)
  · rw [if_neg heq]
    apply List.sum_eq_zero
    intro value hvalue
    obtain ⟨row, hrow, rfl⟩ := List.mem_map.mp hvalue
    exact if_neg fun h => heq (h.symm.trans (howner row hrow))

theorem netOf_append {entries : List LedgerEntry} {owner : ℕ}
    (h : db'.rows .ledgerEntries = db.rows .ledgerEntries ++ entries)
    (howner : ∀ entry ∈ entries, entry.tenantId = owner) (tenantId : ℕ)
    (bucket : WalletBucket) : netOf db' tenantId bucket = netOf db tenantId bucket +
      if tenantId = owner then net bucket entries else 0 := by
  rw [netOf, Db.total_append _ h, netOf, sum_of_owner howner]
  simp only [net, List.map_singleton, List.sum_singleton]

theorem settledOf_of_rows (h : db'.rows .settlementLogs = db.rows .settlementLogs)
    (tenantId : ℕ) : settledOf db' tenantId = settledOf db tenantId :=
  Db.total_of_rows _ h

theorem settledOf_append {logs : List SettlementLog} {owner : ℕ}
    (h : db'.rows .settlementLogs = db.rows .settlementLogs ++ logs)
    (howner : ∀ log ∈ logs, log.tenantId = owner) (tenantId : ℕ) :
    settledOf db' tenantId = settledOf db tenantId +
      if tenantId = owner then (logs.map SettlementLog.netAmount).sum else 0 := by
  rw [settledOf, Db.total_append _ h, settledOf, sum_of_owner howner]

theorem settledInto_eq (bucket : WalletBucket) (logs : List SettlementLog) :
    settledInto bucket logs = settledSign bucket * (logs.map SettlementLog.netAmount).sum := by
  cases bucket <;> simp [settledInto, settledSign]

theorem drawnOf_of_rows (h : db'.rows .withdrawals = db.rows .withdrawals) (tenantId : ℕ)
    (bucket : WalletBucket) : drawnOf db' tenantId bucket = drawnOf db tenantId bucket :=
  Db.total_of_rows _ h

theorem drawnOf_append (h : db'.rows .withdrawals = db.rows .withdrawals ++ [w])
    (tenantId : ℕ) (bucket : WalletBucket) :
    drawnOf db' tenantId bucket = drawnOf db tenantId bucket +
      if tenantId = w.tenantId then drawn bucket w.status * w.amount else 0 := by
  rw [drawnOf, Db.total_append _ h, drawnOf, List.map_singleton, List.sum_singleton]
  simp only [eq_comm]

theorem drawnOf_replaced (hw : w ∈ db.rows .withdrawals) (hsame : w.SameRequest w')
    (h : db'.rows .withdrawals = replaceRow schema .withdrawals w' (db.rows .withdrawals))
    (tenantId : ℕ) (bucket : WalletBucket) :
    drawnOf db' tenantId bucket = drawnOf db tenantId bucket +
      if tenantId = w.tenantId then
        (drawn bucket w'.status - drawn bucket w.status) * w.amount
      else 0 := by
  rw [drawnOf, Db.total_replaceRow _ hw hsame.id.symm h, drawnOf, hsame.tenantId, hsame.amount]
  by_cases heq : w.tenantId = tenantId
  · rw [if_pos heq, if_pos heq, if_pos heq.symm]
    ring
  · rw [if_neg heq, if_neg heq, if_neg fun h => heq h.symm]
    ring

end Sums

/-! ## Steps -/

namespace PayoutService

/-- The amount the operation is given. -/
def Operation.amount : Operation → Option Decimal
  | .requestWithdrawal _ _ _ amount => some amount
  | _ => none

def PayoutStep.amount {kept : List Table} : PayoutStep kept → Option Decimal
  | .operation step => step.operation.amount
  | _ => none

/-- What the step checks before it takes a payout back. -/
def PayoutStep.Reverses {kept : List Table} : PayoutStep kept → Withdrawal → Prop
  | .operation step => step.operation.Reverses
  | _ => fun _ => False

end PayoutService

namespace MoneyStep

/-- Every amount the step is given has at most two decimals. -/
def TwoDecimals : MoneyStep → Prop
  | payout step => ∀ amount, step.amount = some amount → Amounts.TwoDecimals amount
  | wallet operation _ => operation.TwoDecimals

/-- What the step adds to the bucket rounds to two decimals as its amount does. -/
def Exact (bucket : WalletBucket) : MoneyStep → PlatformWorld → Prop
  | payout step, _ => bucket ∈ [.available, .reserved] →
    ∀ amount, step.amount = some amount → Amounts.TwoDecimals amount
  | wallet operation _, world => ∀ prior wallet,
    Located world.db prior operation.tenantId wallet → operation.Exact bucket wallet

theorem TwoDecimals.exact {step : MoneyStep} (h : step.TwoDecimals) (bucket : WalletBucket)
    (world : PlatformWorld) : step.Exact bucket world := by
  cases step with
  | payout step => exact fun _ => h
  | wallet operation outside =>
    exact fun _ wallet _ => WalletOperation.TwoDecimals.exact h bucket wallet

/-- What the step checks before it takes a payout back. -/
def Reverses : MoneyStep → Withdrawal → Prop
  | payout step => step.Reverses
  | wallet _ _ => fun _ => False

end MoneyStep

/-- What a step changed in the books. -/
inductive Booked (step : MoneyStep) (world : PlatformWorld) (db' : PlatformDb) : Prop
  | unchanged (h : ∀ t ∈ books, db'.rows t = world.db.rows t)
  | requested {runtime : Runtime} {tenantId actorId : ℕ} {amount : Decimal} {w : Withdrawal}
      {wallet wallet' : TenantWallet} {sent : List (Request × HttpResult)}
      (hexact : ∀ bucket ∈ [.available, .reserved], step.Exact bucket world →
        Amounts.TwoDecimals amount)
      (h : RequestedAs runtime tenantId actorId amount ⟨world.db, []⟩ ⟨db', sent⟩ w wallet
        wallet')
  | reissued {w w' : Withdrawal} (hw : w ∈ world.db.rows .withdrawals)
      (hsame : w.SameRequest w') (hstatus : w'.status = w.status)
      (h : Db.Replaced .withdrawals w' world.db db')
  | handled {w w' : Withdrawal} (hw : w ∈ world.db.rows .withdrawals)
      (hreverses : w'.status = .reversed → step.Reverses w) (h : Handled world.db db' w w')
  | posted {tenantId : ℕ} {prior : PlatformDb} {wallet wallet' : TenantWallet}
      {entries : List LedgerEntry} {logs : List SettlementLog}
      (hexact : ∀ bucket, step.Exact bucket world →
        Explained wallet wallet' entries logs bucket)
      (h : Posted world.db prior db' tenantId wallet wallet' entries logs)

theorem MoneyStep.booked (step : MoneyStep) {world : PlatformWorld}
    (hdb : ∀ wallet ∈ world.db.rows .tenantWallets, Nonneg wallet) :
    Booked step world (step.next world).db := by
  cases step with
  | payout step =>
    cases step.changed world with
    | unchanged h => exact .unchanged h
    | operated hstep _ h =>
      rw [hstep]
      cases h with
      | unchanged h => exact .unchanged fun t _ => congrFun (congrArg Db.rows h) t
      | requested hoperation h =>
        refine .requested (fun bucket hbucket hexact => ?_) h
        exact hexact hbucket _ (congrArg Operation.amount hoperation)
      | reissued _ hw _ hissued h => exact .reissued hw hissued.same hissued.status h
      | handled hw _ hreverses _ _ h => exact .handled hw hreverses h
    | resulted hw hprocessing _ h =>
      exact .handled hw (fun hto => absurd hto (h.not_reversed (by rw [hprocessing]; rfl))) h
  | wallet operation outside =>
    rcases transact_db outside (operation.always hdb) with ⟨-, h⟩ | h
    · obtain ⟨prior, wallet, wallet', entries, logs, h, hexplained⟩ := h
      exact .posted (fun bucket hexact => hexplained bucket (hexact prior wallet h.located)) h
    · exact .unchanged fun t _ => congrFun (congrArg Db.rows h) t

/-! ## What a step adds to a bucket -/

/-- What a bucket gains when an amount goes from the first bucket to the second. -/
def transferred (first second : WalletBucket) (amount : Numeric) (bucket : WalletBucket) :
    Numeric :=
  (if bucket = second then amount else 0) - if bucket = first then amount else 0

section Moves

variable {db db' : PlatformDb} {w w' : Withdrawal} {wallet wallet' : TenantWallet}
  {entries : List LedgerEntry} {wallets : List TenantWallet → List TenantWallet}

theorem PayoutService.MovedIn.balanceOf (first second : WalletBucket)
    (hw : w ∈ db.rows .withdrawals)
    (h : MovedIn (fun amount => movedTwice first second (negate amount) amount) w db w' db'
      entries wallet wallet') (tenantId : ℕ) (bucket : WalletBucket) :
    balanceOf db' tenantId bucket = balanceOf db tenantId bucket +
      if tenantId = w.tenantId then transferred first second w.amount bucket else 0 := by
  have hamount : |w.amount| < 10 ^ 15 :=
    (Numeric.fits_iff.mp (fits_amount hw)).trans (by norm_num)
  have hvalid : rowValid .tenantWallets wallet = true := db.valid .tenantWallets _ h.stored
  rw [balanceOf_replaced h.stored (movedTwice_id h.moved).symm (movedTwice_tenantId h.moved)
    h.effect.wallets, h.tenant, movedTwice_cents hvalid hamount h.moved bucket, transferred]
  congr 2
  ring

theorem PayoutService.Effect.recorded (hw : w ∈ db.rows .withdrawals)
    (h : Effect db db' w w' wallets entries)
    (howner : ∀ entry ∈ entries, entry.tenantId = w.tenantId) (tenantId : ℕ)
    (bucket : WalletBucket) :
    recorded db' tenantId bucket = recorded db tenantId bucket +
      if tenantId = w.tenantId then
        net bucket entries + (drawn bucket w'.status - drawn bucket w.status) * w.amount
      else 0 := by
  rw [Services.recorded, netOf_append h.ledger howner,
    settledOf_of_rows (h.others _ (by decide)), drawnOf_replaced hw h.same h.withdrawals,
    Services.recorded]
  split <;> ring

theorem drawn_of_held {status : WithdrawalStatus} (h : status.held = true)
    (bucket : WalletBucket) : drawn bucket status = transferred .available .reserved 1 bucket := by
  cases status <;> first | (cases bucket <;> rfl) | cases h

theorem drawn_of_closed {status : WithdrawalStatus} (h : status.closed = true)
    (bucket : WalletBucket) : drawn bucket status = 0 := by
  cases status <;> first | (cases bucket <;> rfl) | cases h

theorem net_of_entry {entryType : LedgerEntryType} {target : WalletBucket} {tenantId : ℕ}
    {amount : Numeric} {referenceId : Option ℕ} {entry : LedgerEntry}
    (h : IsEntry entryType target tenantId amount referenceId entry) (bucket : WalletBucket) :
    net bucket [entry] = if bucket = target then amount else 0 := by
  rw [net_cons, net_nil, add_zero, h.bucket, signed, h.direction, h.amount]
  simp only [Option.some.injEq, eq_comm]

/-- However a withdrawal is handled, the buckets and their records move together. -/
theorem PayoutService.Handled.balanced (hw : w ∈ db.rows .withdrawals)
    (h : Handled db db' w w') {bucket : WalletBucket} (hdb : Balanced bucket db) :
    Balanced bucket db' := by
  intro tenantId
  cases h with
  | kept hfrom hto h =>
    rw [balanceOf_of_rows h.wallets, h.recorded hw (by simp), hdb tenantId, drawn_of_held hfrom,
      drawn_of_held hto, net_nil]
    simp
  | released hfrom hto h =>
    obtain ⟨wallet, wallet', h⟩ := h
    rw [MovedIn.balanceOf .reserved .available hw h, h.effect.recorded hw (by simp),
      hdb tenantId, drawn_of_held hfrom, drawn_of_closed hto, net_nil]
    cases bucket <;> simp [transferred]
  | disbursed hfrom hto hentry h =>
    obtain ⟨wallet, wallet', h⟩ := h
    rw [MovedIn.balanceOf .reserved .totalDisbursed hw h,
      h.effect.recorded hw (by simpa using hentry.tenantId), hdb tenantId, drawn_of_held hfrom,
      hto, net_of_entry hentry]
    cases bucket <;> simp [transferred, drawn, WithdrawalStatus.held, WithdrawalStatus.closed]
  | returned hfrom hto hentry h =>
    obtain ⟨wallet, wallet', h⟩ := h
    rw [MovedIn.balanceOf .totalDisbursed .available hw h,
      h.effect.recorded hw (by simpa using hentry.tenantId), hdb tenantId, hfrom, hto,
      net_of_entry hentry]
    cases bucket <;> simp [transferred, drawn, WithdrawalStatus.held, WithdrawalStatus.closed]

section Requested

variable {runtime : Runtime} {actorId owner : ℕ} {amount : Decimal}
  {world world' : PlatformWorld}

theorem PayoutService.RequestedAs.balanceOf_sub
    (h : RequestedAs runtime owner actorId amount world world' w wallet wallet') (tenantId : ℕ)
    (bucket : WalletBucket) :
    balanceOf world'.db tenantId bucket = balanceOf world.db tenantId bucket +
      if tenantId = owner then balance wallet' bucket - balance wallet bucket else 0 := by
  rw [balanceOf_replaced h.stored (movedTwice_id h.reserved).symm
    (movedTwice_tenantId h.reserved) h.wallets, h.tenant]

/-- An amount of two decimals goes from available to reserved. -/
theorem PayoutService.RequestedAs.balanceOf
    (h : RequestedAs runtime owner actorId amount world world' w wallet wallet')
    (hamount : Amounts.TwoDecimals amount) (tenantId : ℕ) (bucket : WalletBucket) :
    balanceOf world'.db tenantId bucket = balanceOf world.db tenantId bucket +
      if tenantId = owner then transferred .available .reserved w.amount bucket else 0 := by
  have hstored : w ∈ world'.db.rows .withdrawals := by
    rw [h.withdrawals]
    exact List.mem_append_right _ List.mem_cons_self
  have hfits : |w.amount| < 10 ^ 15 :=
    (Numeric.fits_iff.mp (fits_amount hstored)).trans (by norm_num)
  have hvalid : rowValid .tenantWallets wallet = true :=
    world.db.valid .tenantWallets _ h.stored
  have hreserved := h.reserved
  rw [← hamount, ← h.amount] at hreserved
  rw [h.balanceOf_sub, movedTwice_cents hvalid hfits hreserved bucket, transferred]
  congr 2
  ring

theorem PayoutService.RequestedAs.recorded
    (h : RequestedAs runtime owner actorId amount world world' w wallet wallet') (tenantId : ℕ)
    (bucket : WalletBucket) :
    recorded world'.db tenantId bucket = recorded world.db tenantId bucket +
      if tenantId = owner then transferred .available .reserved w.amount bucket else 0 := by
  rw [Services.recorded, netOf_of_rows (h.others _ (by decide)),
    settledOf_of_rows (h.others _ (by decide)), drawnOf_append h.withdrawals, h.tenantId,
    h.status, drawn_of_held (by rfl), ← add_assoc, Services.recorded]
  congr 2
  cases bucket <;> simp [transferred]

theorem PayoutService.RequestedAs.balanced
    (h : RequestedAs runtime owner actorId amount world world' w wallet wallet')
    {bucket : WalletBucket}
    (hamount : bucket ∈ [.available, .reserved] → Amounts.TwoDecimals amount)
    (hdb : Balanced bucket world.db) : Balanced bucket world'.db := by
  intro tenantId
  rw [h.recorded]
  by_cases hbucket : bucket ∈ [WalletBucket.available, .reserved]
  · rw [h.balanceOf (hamount hbucket), hdb tenantId]
  · simp only [List.mem_cons, List.not_mem_nil, or_false, not_or] at hbucket
    rw [h.balanceOf_sub, movedTwice_of_ne h.reserved hbucket.1 hbucket.2, sub_self, hdb tenantId,
      transferred, if_neg hbucket.1, if_neg hbucket.2, sub_self]

end Requested

section Posted

variable {prior : PlatformDb} {owner : ℕ} {logs : List SettlementLog}

/-- A wallet just created adds nothing to a balance. -/
theorem WalletService.Located.balanceOf (h : Located db prior owner wallet) (tenantId : ℕ)
    (bucket : WalletBucket) : balanceOf prior tenantId bucket = balanceOf db tenantId bucket := by
  cases h with
  | stored _ _ h => rw [h]
  | created _ hzero h =>
    rw [Services.balanceOf, Db.total_append _ h.rows_self, List.map_singleton,
      List.sum_singleton, hzero]
    cases bucket <;> simp [balance, Services.balanceOf]

theorem WalletService.Posted.balanceOf
    (h : Posted db prior db' owner wallet wallet' entries logs) (tenantId : ℕ)
    (bucket : WalletBucket) :
    balanceOf db' tenantId bucket = balanceOf db tenantId bucket +
      if tenantId = owner then balance wallet' bucket - balance wallet bucket else 0 := by
  have htenant := h.located.tenant
  rw [balanceOf_replaced h.located.mem h.id.symm (h.tenant.trans htenant.symm) h.wallets,
    h.located.balanceOf, htenant]

theorem WalletService.Posted.recorded
    (h : Posted db prior db' owner wallet wallet' entries logs) (tenantId : ℕ)
    (bucket : WalletBucket) :
    recorded db' tenantId bucket = recorded db tenantId bucket +
      if tenantId = owner then net bucket entries + settledInto bucket logs else 0 := by
  rw [Services.recorded, netOf_append h.ledger h.ofTenant,
    settledOf_append h.settlements h.settledFor, drawnOf_of_rows (h.others _ (by decide)),
    Services.recorded, settledInto_eq]
  split <;> ring

theorem WalletService.Posted.balanced
    (h : Posted db prior db' owner wallet wallet' entries logs) {bucket : WalletBucket}
    (hexplained : Explained wallet wallet' entries logs bucket) (hdb : Balanced bucket db) :
    Balanced bucket db' := by
  intro tenantId
  rw [h.balanceOf, h.recorded, hdb tenantId, hexplained]
  congr 2
  ring

end Posted

end Moves

/-! ## Invariants -/

theorem balanced_of_rows {db db' : PlatformDb} {bucket : WalletBucket}
    (h : ∀ t ∈ books, db'.rows t = db.rows t) (hdb : Balanced bucket db) :
    Balanced bucket db' := by
  intro tenantId
  rw [balanceOf_of_rows (h _ (by decide)), hdb tenantId, recorded, recorded,
    netOf_of_rows (h _ (by decide)), settledOf_of_rows (h _ (by decide)),
    drawnOf_of_rows (h _ (by decide))]

/-- A step whose amounts are exact for a bucket keeps it equal to its records. -/
theorem Booked.balanced {step : MoneyStep} {world : PlatformWorld} {db' : PlatformDb}
    {bucket : WalletBucket} (h : Booked step world db') (hexact : step.Exact bucket world)
    (hdb : Balanced bucket world.db) : Balanced bucket db' := by
  cases h with
  | unchanged h => exact balanced_of_rows h hdb
  | requested hamount h => exact h.balanced (fun hbucket => hamount bucket hbucket hexact) hdb
  | @reissued w w' hw hsame hstatus h =>
    intro tenantId
    rw [balanceOf_of_rows (h.rows_of_ne (by decide)), hdb tenantId, recorded, recorded,
      netOf_of_rows (h.rows_of_ne (by decide)), settledOf_of_rows (h.rows_of_ne (by decide)),
      drawnOf_replaced hw hsame h.rows_self, hstatus]
    simp
  | handled hw _ h => exact h.balanced hw hdb
  | posted hexplained h => exact h.balanced (hexplained bucket hexact) hdb

/-- No balance is negative, and only adjustments are entered on the reserved bucket. -/
structure Sound (db : PlatformDb) : Prop where
  nonneg : ∀ wallet ∈ db.rows .tenantWallets, Nonneg wallet
  adjusted : ∀ entry ∈ db.rows .ledgerEntries, entry.walletBucket = some .reserved →
    entry.entryType = .adjustment

theorem Sound.of_rows {db db' : PlatformDb} (hdb : Sound db)
    (hwallets : db'.rows .tenantWallets = db.rows .tenantWallets)
    (hledger : db'.rows .ledgerEntries = db.rows .ledgerEntries) : Sound db' where
  nonneg := hwallets ▸ hdb.nonneg
  adjusted := hledger ▸ hdb.adjusted

theorem nonneg_of_replaced {db db' : PlatformDb} {wallet' : TenantWallet}
    (hdb : ∀ wallet ∈ db.rows .tenantWallets, Nonneg wallet) (hwallet' : Nonneg wallet')
    (h : db'.rows .tenantWallets =
      replaceRow schema .tenantWallets wallet' (db.rows .tenantWallets)) :
    ∀ wallet ∈ db'.rows .tenantWallets, Nonneg wallet := by
  intro wallet hwallet
  rw [h] at hwallet
  rcases mem_replaceRow hwallet with rfl | ⟨hother, -⟩
  · exact hwallet'
  · exact hdb wallet hother

/-- One wallet is written, and the entries added are none of the reserved bucket but
adjustments. -/
theorem Sound.of_written {db db' prior : PlatformDb} {wallet' : TenantWallet}
    {entries : List LedgerEntry} (hdb : Sound db)
    (hprior : ∀ wallet ∈ prior.rows .tenantWallets, Nonneg wallet)
    (hwallet' : Nonneg wallet')
    (hwallets : db'.rows .tenantWallets =
      replaceRow schema .tenantWallets wallet' (prior.rows .tenantWallets))
    (hledger : db'.rows .ledgerEntries = db.rows .ledgerEntries ++ entries)
    (hentries : ∀ entry ∈ entries, entry.walletBucket = some .reserved →
      entry.entryType = .adjustment) : Sound db' where
  nonneg := nonneg_of_replaced hprior hwallet' hwallets
  adjusted entry hentry := by
    rw [hledger] at hentry
    rcases List.mem_append.mp hentry with hold | hnew
    · exact hdb.adjusted entry hold
    · exact hentries entry hnew

theorem PayoutService.MovedIn.sound (first second : WalletBucket) {db db' : PlatformDb}
    {w w' : Withdrawal} {wallet wallet' : TenantWallet} {entries : List LedgerEntry}
    (h : MovedIn (fun amount => movedTwice first second (negate amount) amount) w db w' db'
      entries wallet wallet')
    (hentries : ∀ entry ∈ entries, entry.walletBucket ≠ some .reserved) (hdb : Sound db) :
    Sound db' :=
  hdb.of_written hdb.nonneg (movedTwice_nonneg h.moved (hdb.nonneg wallet h.stored))
    h.effect.wallets h.effect.ledger fun entry hentry hreserved =>
      absurd hreserved (hentries entry hentry)

theorem PayoutService.Handled.sound {db db' : PlatformDb} {w w' : Withdrawal}
    (h : Handled db db' w w') (hdb : Sound db) : Sound db' := by
  cases h with
  | kept _ _ h => exact hdb.of_rows h.wallets (by rw [h.ledger, List.append_nil])
  | released _ _ h =>
    obtain ⟨wallet, wallet', h⟩ := h
    exact MovedIn.sound .reserved .available h (by simp) hdb
  | disbursed _ _ hentry h =>
    obtain ⟨wallet, wallet', h⟩ := h
    refine MovedIn.sound .reserved .totalDisbursed h ?_ hdb
    simp [hentry.bucket]
  | returned _ _ hentry h =>
    obtain ⟨wallet, wallet', h⟩ := h
    refine MovedIn.sound .totalDisbursed .available h ?_ hdb
    simp [hentry.bucket]

theorem Booked.sound {step : MoneyStep} {world : PlatformWorld} {db' : PlatformDb}
    (h : Booked step world db') (hdb : Sound world.db) : Sound db' := by
  cases h with
  | unchanged h => exact hdb.of_rows (h _ (by decide)) (h _ (by decide))
  | @requested _ _ _ _ _ wallet _ _ _ h =>
    have hledger := h.others .ledgerEntries (by decide)
    exact hdb.of_written hdb.nonneg (movedTwice_nonneg h.reserved (hdb.nonneg wallet h.stored))
      h.wallets (hledger.trans (List.append_nil _).symm) (by simp)
  | reissued _ _ _ h =>
    exact hdb.of_rows (h.rows_of_ne (by decide)) (h.rows_of_ne (by decide))
  | handled _ _ h => exact h.sound hdb
  | @posted _ prior wallet _ _ _ _ h =>
    have hprior : ∀ other ∈ prior.rows .tenantWallets, Nonneg other := by
      intro other hother
      cases h.located with
      | stored _ _ heq => exact hdb.nonneg other (heq ▸ hother)
      | created _ _ happended =>
        rw [happended.rows_self] at hother
        rcases List.mem_append.mp hother with hold | hnew
        · exact hdb.nonneg other hold
        · rw [List.mem_singleton.mp hnew]
          exact h.located.nonneg hdb.nonneg
    exact hdb.of_written hprior (h.nonneg (h.located.nonneg hdb.nonneg)) h.wallets h.ledger
      h.adjusted

/-! ## Runs -/

/-- The tables of the books are empty. -/
def Unopened (db : PlatformDb) : Prop := ∀ t ∈ books, db.rows t = []

theorem Unopened.sound {db : PlatformDb} (hdb : Unopened db) : Sound db where
  nonneg := by simp [hdb .tenantWallets (by decide)]
  adjusted := by simp [hdb .ledgerEntries (by decide)]

theorem Unopened.balanced {db : PlatformDb} (hdb : Unopened db) (bucket : WalletBucket) :
    Balanced bucket db := by
  intro tenantId
  rw [balanceOf, recorded, netOf, settledOf, drawnOf, Db.total, Db.total, Db.total, Db.total,
    hdb .tenantWallets (by decide), hdb .ledgerEntries (by decide),
    hdb .settlementLogs (by decide), hdb .withdrawals (by decide)]
  simp

theorem MoneyStep.sound (step : MoneyStep) {world : PlatformWorld} (hdb : Sound world.db) :
    Sound (step.next world).db :=
  (step.booked hdb.nonneg).sound hdb

@[simp]
theorem runMoney_append (before after : List MoneyStep) (world : PlatformWorld) :
    runMoney (before ++ after) world = runMoney after (runMoney before world) :=
  Runs.run_append before after world

@[simp]
theorem runMoney_cons (step : MoneyStep) (steps : List MoneyStep) (world : PlatformWorld) :
    runMoney (step :: steps) world = runMoney steps (step.next world) := rfl

@[simp]
theorem runMoney_nil (world : PlatformWorld) : runMoney [] world = world := rfl

theorem runMoney_sound (steps : List MoneyStep) {world : PlatformWorld} (hdb : Sound world.db) :
    Sound (runMoney steps world).db :=
  Runs.run_kept (fun world : PlatformWorld => Sound world.db) (fun step _ h => step.sound h) steps hdb

/-- A run whose amounts are exact for a bucket keeps it equal to its records. -/
theorem runMoney_balanced {bucket : WalletBucket} {steps : List MoneyStep}
    {world : PlatformWorld} (hexact : Runs.All MoneyStep.next (MoneyStep.Exact bucket) steps world)
    (hsound : Sound world.db) (hdb : Balanced bucket world.db) :
    Balanced bucket (runMoney steps world).db := by
  refine (Runs.run_invariant (fun world : PlatformWorld => Sound world.db ∧ Balanced bucket world.db)
    (fun step world hstep h => ?_) hexact ⟨hsound, hdb⟩).2
  have hbooked := step.booked h.1.nonneg
  exact ⟨hbooked.sound h.1, hbooked.balanced hstep h.2⟩

/-! ## A run -/

/-- A tenant that can withdraw, whose wallet is not created yet. -/
def unopenedDb : PlatformDb where
  rows
    | .tenantWallets => []
    | t => openingRows t
  valid t := by cases t <;> decide +kernel
  apart t := by cases t <;> decide +kernel

theorem unopened_unopenedDb : Unopened unopenedDb := by
  intro t ht
  simp only [books, List.mem_cons, List.not_mem_nil, or_false] at ht
  rcases ht with rfl | rfl | rfl | rfl | rfl <;> rfl

/-- 10000 TZS are adjusted into the available bucket. -/
def depositStep : MoneyStep :=
  .wallet (.createAdjustment 1 .available .credit 10000 "opening" 5 none none) (answering [])

/-- A deposit, a withdrawal of 5000 TZS and its confirmation, whose transfer is answered
so. -/
def withdrawalRun (answers : List HttpResult) : List MoneyStep :=
  [depositStep, .payout (.operation requestStep), .payout (.operation (confirmStep answers))]

theorem twoDecimals_withdrawalRun (answers : List HttpResult) :
    ∀ step ∈ withdrawalRun answers, step.TwoDecimals := by
  simp only [withdrawalRun, List.mem_cons, List.not_mem_nil, or_false, forall_eq_or_imp,
    forall_eq]
  refine ⟨?_, fun amount hamount => ?_, fun amount hamount => ?_⟩
  · change Amounts.TwoDecimals 10000
    decide +kernel
  · cases hamount
    decide +kernel
  · cases hamount

end InfinityRadius.Services
