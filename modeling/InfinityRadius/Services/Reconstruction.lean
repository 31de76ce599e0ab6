import InfinityRadius.Services.Books

/-!
# Reconstruction

The wallet is a cache: its buckets are what the ledger, the settlements and the
withdrawals say, each entry carries the balance it left behind, and an operation
that refuses has moved nothing.
-/

namespace InfinityRadius.Services

open Amounts Database Payload Program Sql Models PayoutService WalletService

/-- The amounts of the tenant's withdrawals that were not closed before their payout. -/
def claimedOf (db : PlatformDb) (tenantId : ℕ) : Numeric :=
  db.total .withdrawals fun w =>
    if w.tenantId = tenantId ∧ w.status ∉ [.cancelled, .rejected, .failed] then w.amount
    else 0

/-- The buckets of a wallet are what the records of its tenant say. -/
structure Reconstructed (db : PlatformDb) (wallet : TenantWallet) : Prop where
  pending : wallet.pendingBalanceTzs =
    netOf db wallet.tenantId .pending - settledOf db wallet.tenantId
  available : wallet.availableBalanceTzs =
    netOf db wallet.tenantId .available + settledOf db wallet.tenantId -
      claimedOf db wallet.tenantId
  frozen : wallet.frozenBalanceTzs = netOf db wallet.tenantId .frozen
  nonneg : Nonneg wallet

/-- Each entry a step added carries the balance of its bucket after the step. -/
def BalancesNoted (db db' : PlatformDb) : Prop :=
  ∃ entries, db'.rows .ledgerEntries = db.rows .ledgerEntries ++ entries ∧
    ∀ entry ∈ entries, ∀ bucket, entry.walletBucket = some bucket →
      entry.balanceAfter = some (balanceOf db' entry.tenantId bucket)

/-- No bucket moved, and no ledger or settlement row was written. -/
structure Unmoved (db db' : PlatformDb) : Prop where
  balances : ∀ tenantId bucket, balanceOf db' tenantId bucket = balanceOf db tenantId bucket
  ledger : db'.rows .ledgerEntries = db.rows .ledgerEntries
  settlements : db'.rows .settlementLogs = db.rows .settlementLogs

variable {db db' : PlatformDb}

/-! ## The buckets -/

theorem drawnOf_available (db : PlatformDb) (tenantId : ℕ) :
    drawnOf db tenantId .available = -claimedOf db tenantId := by
  rw [drawnOf, claimedOf, ← Db.total_neg]
  congr 1
  funext w
  by_cases htenant : w.tenantId = tenantId
  · rw [if_pos htenant]
    cases hstatus : w.status <;> simp [drawn, WithdrawalStatus.closed, htenant]
  · rw [if_neg htenant, if_neg fun h => htenant h.1, neg_zero]

theorem drawnOf_eq_zero {bucket : WalletBucket} (h : bucket ∈ [.pending, .frozen])
    (db : PlatformDb) (tenantId : ℕ) : drawnOf db tenantId bucket = 0 := by
  apply Db.total_eq_zero
  intro w _
  cases bucket with
  | pending => simp [drawn]
  | frozen => simp [drawn]
  | _ => simp at h

theorem Sound.reconstructed (hsound : Sound db) (hbalanced : ∀ bucket, Balanced bucket db)
    {wallet : TenantWallet} (hwallet : wallet ∈ db.rows .tenantWallets) :
    Reconstructed db wallet := by
  have hbucket : ∀ bucket, balance wallet bucket = recorded db wallet.tenantId bucket :=
    fun bucket => (balanceOf_of_mem hwallet bucket).symm.trans (hbalanced bucket _)
  constructor
  case pending =>
    refine (hbucket .pending).trans ?_
    rw [recorded, drawnOf_eq_zero (by decide), settledSign]
    ring
  case available =>
    refine (hbucket .available).trans ?_
    rw [recorded, drawnOf_available, settledSign]
    ring
  case frozen =>
    have hsign : settledSign .frozen = 0 := rfl
    refine (hbucket .frozen).trans ?_
    rw [recorded, drawnOf_eq_zero (by decide), hsign]
    ring
  case nonneg => exact hsound.nonneg wallet hwallet

/-! ## The balances noted -/

theorem BalancesNoted.of_rows (h : db'.rows .ledgerEntries = db.rows .ledgerEntries) :
    BalancesNoted db db' :=
  ⟨[], h.trans (List.append_nil _).symm, by simp⟩

/-- Entries of the wallet's tenant that carry the balances of the wallet as stored. -/
theorem BalancesNoted.of_wallet {wallet : TenantWallet} {entries : List LedgerEntry}
    (hledger : db'.rows .ledgerEntries = db.rows .ledgerEntries ++ entries)
    (hwallet : wallet ∈ db'.rows .tenantWallets)
    (howner : ∀ entry ∈ entries, entry.tenantId = wallet.tenantId)
    (hbalances : ∀ entry ∈ entries,
      entry.balanceAfter = entry.walletBucket.map (balance wallet)) :
    BalancesNoted db db' := by
  refine ⟨entries, hledger, fun entry hentry bucket hbucket => ?_⟩
  rw [hbalances entry hentry, hbucket, howner entry hentry, balanceOf_of_mem hwallet]
  rfl

theorem PayoutService.MovedIn.balancesNoted (first second : WalletBucket) {w w' : Withdrawal}
    {wallet wallet' : TenantWallet} {entries : List LedgerEntry}
    (h : MovedIn (fun amount => movedTwice first second (negate amount) amount) w db w' db'
      entries wallet wallet') (howner : ∀ entry ∈ entries, entry.tenantId = w.tenantId) :
    BalancesNoted db db' := by
  have htenant : wallet'.tenantId = w.tenantId := (movedTwice_tenantId h.moved).trans h.tenant
  refine .of_wallet h.effect.ledger ?_ (fun entry hentry => ?_) h.balances
  · rw [h.effect.wallets]
    exact mem_replaceRow_self h.stored (movedTwice_id h.moved).symm
  · rw [howner entry hentry, htenant]

theorem PayoutService.Handled.balancesNoted {w w' : Withdrawal} (h : Handled db db' w w') :
    BalancesNoted db db' := by
  cases h with
  | kept _ _ h => exact .of_rows (by rw [h.ledger, List.append_nil])
  | released _ _ h =>
    obtain ⟨wallet, wallet', h⟩ := h
    exact .of_rows (by rw [h.effect.ledger, List.append_nil])
  | disbursed _ _ hentry h =>
    obtain ⟨wallet, wallet', h⟩ := h
    exact MovedIn.balancesNoted .reserved .totalDisbursed h (by simpa using hentry.tenantId)
  | returned _ _ hentry h =>
    obtain ⟨wallet, wallet', h⟩ := h
    exact MovedIn.balancesNoted .totalDisbursed .available h (by simpa using hentry.tenantId)

theorem Booked.balancesNoted {step : MoneyStep} {world : PlatformWorld}
    (h : Booked step world db') : BalancesNoted world.db db' := by
  cases h with
  | unchanged h => exact .of_rows (h _ (by decide))
  | requested _ h => exact .of_rows (h.others .ledgerEntries (by decide))
  | reissued _ _ _ h => exact .of_rows (h.rows_of_ne (by decide))
  | handled _ _ h => exact h.balancesNoted
  | @posted _ _ _ wallet' _ _ _ h =>
    refine .of_wallet h.ledger ?_ (fun entry hentry => ?_) h.balances
    · rw [h.wallets]
      exact mem_replaceRow_self h.located.mem h.id.symm
    · rw [h.ofTenant entry hentry, h.tenant]

/-! ## Refusals -/

/-- The operations of the wallet service, those that only payouts call among them. -/
inductive WalletCall
  | shared (operation : WalletOperation)
  | reserveForWithdrawal (tenantId : ℕ) (amount : Decimal)
  | releaseReservation (tenantId : ℕ) (amount : Decimal)
  | completeDisbursement (tenantId : ℕ) (amount : Decimal) (referenceId : Option ℕ)
      (description : Option String)
  | reverseDisbursement (tenantId : ℕ) (amount : Decimal) (referenceId : Option ℕ)
      (description : Option String)

namespace WalletCall

def tenantId : WalletCall → ℕ
  | shared operation => operation.tenantId
  | reserveForWithdrawal tenantId _ => tenantId
  | releaseReservation tenantId _ => tenantId
  | completeDisbursement tenantId _ _ _ => tenantId
  | reverseDisbursement tenantId _ _ _ => tenantId

def program : WalletCall → Tx Unit
  | shared operation => operation.program
  | reserveForWithdrawal tenantId amount => do
    let _ ← WalletService.reserveForWithdrawal tenantId amount
    pure ()
  | releaseReservation tenantId amount => do
    let _ ← WalletService.releaseReservation tenantId amount
    pure ()
  | completeDisbursement tenantId amount referenceId description => do
    let _ ← WalletService.completeDisbursement tenantId amount referenceId description
    pure ()
  | reverseDisbursement tenantId amount referenceId description => do
    let _ ← WalletService.reverseDisbursement tenantId amount referenceId description
    pure ()

theorem always (call : WalletCall) {world : PlatformWorld}
    (hdb : ∀ wallet ∈ world.db.rows .tenantWallets, Nonneg wallet) :
    Always (fun _ => false) (fun _ _ => True) (Refused world call.tenantId) call.program
      world := by
  cases call with
  | shared operation => exact (operation.always hdb).mono (fun _ _ _ => trivial) fun _ _ h => h
  | reserveForWithdrawal tenantId amount =>
    have h : Always (fun _ => false) (fun _ _ => True) (Refused world tenantId)
        (WalletService.reserveForWithdrawal tenantId amount) world :=
      always_twoMoves hdb (by decide) fun _ _ => trivial
    exact always_bind.mpr (h.mono (fun _ _ _ => trivial) fun _ _ h => h)
  | releaseReservation tenantId amount =>
    have h : Always (fun _ => false) (fun _ _ => True) (Refused world tenantId)
        (WalletService.releaseReservation tenantId amount) world :=
      always_twoMoves hdb (by decide) fun _ _ => trivial
    exact always_bind.mpr (h.mono (fun _ _ _ => trivial) fun _ _ h => h)
  | completeDisbursement tenantId amount referenceId description =>
    have h : Always (fun _ => false) (fun _ _ => True) (Refused world tenantId)
        (WalletService.completeDisbursement tenantId amount referenceId description) world :=
      always_twoMoves hdb (by decide) fun _ _ => always_createPlain rfl (fun _ => rfl)
        (fun _ _ => rfl) (fun _ _ _ _ _ => trivial) fun _ _ _ h => by cases h
    exact always_bind.mpr (h.mono (fun _ _ _ => trivial) fun _ _ h => h)
  | reverseDisbursement tenantId amount referenceId description =>
    have h : Always (fun _ => false) (fun _ _ => True) (Refused world tenantId)
        (WalletService.reverseDisbursement tenantId amount referenceId description) world :=
      always_twoMoves hdb (by decide) fun _ _ => always_createPlain rfl (fun _ => rfl)
        (fun _ _ => rfl) (fun _ _ _ _ _ => trivial) fun _ _ _ h => by cases h
    exact always_bind.mpr (h.mono (fun _ _ _ => trivial) fun _ _ h => h)

/-- Before its rollback an operation that refuses has moved nothing. -/
theorem unmoved (call : WalletCall) (outside : Outside) (hdb : Sound db) {message : String}
    (hrefused : (uncommitted outside call.program db).1 = .error (.domainValidation message)) :
    Unmoved db (uncommitted outside call.program db).2 := by
  have huntouched := uncommitted_error outside (call.always hdb.nonneg) hrefused message rfl
  rcases huntouched with heq | ⟨wallet, hlocated⟩
  · have heq : (uncommitted outside call.program db).2 = db := heq
    rw [heq]
    exact ⟨fun _ _ => rfl, rfl, rfl⟩
  · exact ⟨hlocated.balanceOf, hlocated.rows_of_ne (by decide), hlocated.rows_of_ne (by decide)⟩

end WalletCall

/-! ## Runs -/

/-- In every state a run from empty books on amounts of at most two decimals reaches,
the wallets are what the records say, the next step notes the balances it leaves, and a
wallet operation that refuses has moved nothing even before it is rolled back. -/
theorem reconstructed_of_run {db : PlatformDb} {steps : List MoneyStep} (hdb : Unopened db)
    (hsteps : ∀ step ∈ steps, step.TwoDecimals) :
    (∀ wallet ∈ (runMoney steps ⟨db, []⟩).db.rows .tenantWallets,
      Reconstructed (runMoney steps ⟨db, []⟩).db wallet) ∧
    (∀ step, BalancesNoted (runMoney steps ⟨db, []⟩).db
      (runMoney (steps ++ [step]) ⟨db, []⟩).db) ∧
    ∀ (call : WalletCall) (outside : Outside) (message : String),
      (uncommitted outside call.program (runMoney steps ⟨db, []⟩).db).1 =
        .error (.domainValidation message) →
      Unmoved (runMoney steps ⟨db, []⟩).db
        (uncommitted outside call.program (runMoney steps ⟨db, []⟩).db).2 := by
  have hsound : Sound (runMoney steps ⟨db, []⟩).db := runMoney_sound steps hdb.sound
  have hexact : ∀ bucket, Runs.All MoneyStep.next (MoneyStep.Exact bucket) steps ⟨db, []⟩ :=
    fun bucket => .of_forall (fun step hstep state => (hsteps step hstep).exact bucket state) _
  have hbalanced : ∀ bucket, Balanced bucket (runMoney steps ⟨db, []⟩).db :=
    fun bucket => runMoney_balanced (hexact bucket) hdb.sound (hdb.balanced bucket)
  refine ⟨fun wallet hwallet => hsound.reconstructed hbalanced hwallet, fun step => ?_,
    fun call outside message hrefused => call.unmoved outside hsound hrefused⟩
  rw [runMoney_append]
  exact (step.booked hsound.nonneg).balancesNoted

/-- After the sample run the wallet refuses to reserve more than it has left. -/
theorem reconstructed_timedOut :
    (∀ wallet ∈ (runMoney (withdrawalRun []) ⟨unopenedDb, []⟩).db.rows .tenantWallets,
      Reconstructed (runMoney (withdrawalRun []) ⟨unopenedDb, []⟩).db wallet) ∧
    (uncommitted (answering []) (WalletCall.reserveForWithdrawal 1 6000).program
      (runMoney (withdrawalRun []) ⟨unopenedDb, []⟩).db).1.isOk = false :=
  ⟨(reconstructed_of_run unopened_unopenedDb (twoDecimals_withdrawalRun [])).1,
    by decide +kernel⟩

end InfinityRadius.Services
