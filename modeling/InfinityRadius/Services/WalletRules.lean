import InfinityRadius.Core.Runs
import InfinityRadius.Services.Wallet

/-!
# What the wallet operations do

On amounts of two decimals every move is exact, and each operation moves a wallet by
what it writes to the ledger and to the settlement log.
-/

namespace InfinityRadius.Services.WalletService

open Amounts Database Payload Program Sql Models

/-! ## Exact moves -/

/-- No balance of the wallet is negative. -/
def Nonneg (wallet : TenantWallet) : Prop := ∀ bucket, 0 ≤ balance wallet bucket

theorem negate_ofNumeric {c : Numeric} (hc : |c| < 10 ^ 28) :
    negate (ofNumeric c) = ofNumeric (-c) := by
  unfold negate
  rw [ofNumeric_neg]
  exact context_ofNumeric (by rwa [abs_neg])

theorem movedValue_cents {wallet : TenantWallet} {bucket : WalletBucket} {c : Numeric}
    (hfits : Numeric.fits (balance wallet bucket) = true) (hc : |c| < 10 ^ 15) :
    movedValue wallet bucket (ofNumeric c) = ofNumeric (balance wallet bucket + c) := by
  rw [movedValue, ofNumeric_add]
  refine context_ofNumeric ((abs_add_le _ _).trans_lt ?_)
  have hbalance := Numeric.fits_iff.mp hfits
  calc |balance wallet bucket| + |c| < 10 ^ 14 + 10 ^ 15 := add_lt_add hbalance hc
    _ < 10 ^ 28 := by norm_num

theorem moved_cents {wallet wallet' : TenantWallet} {bucket : WalletBucket} {c : Numeric}
    (hfits : Numeric.fits (balance wallet bucket) = true) (hc : |c| < 10 ^ 15)
    (h : moved wallet bucket (ofNumeric c) = some wallet') :
    wallet' = setBalance wallet bucket (balance wallet bucket + c) := by
  rw [(moved_eq_some h).2.2, movedValue_cents hfits hc, toNumeric_ofNumeric]

theorem balance_setBalance_eq (wallet : TenantWallet) (bucket other : WalletBucket)
    (value : Numeric) : balance (setBalance wallet bucket value) other =
      if other = bucket then value else balance wallet other := by
  split
  · rename_i h
    rw [h, balance_setBalance]
  · rename_i h
    exact balance_setBalance_of_ne wallet value h

theorem moved_nonneg {wallet wallet' : TenantWallet} {bucket : WalletBucket} {delta : Decimal}
    (h : moved wallet bucket delta = some wallet') (hwallet : Nonneg wallet) :
    Nonneg wallet' := by
  obtain ⟨hvalue, -, rfl⟩ := moved_eq_some h
  intro other
  rw [balance_setBalance_eq]
  split
  · exact roundHalfUp_nonneg (by linarith)
  · exact hwallet other

theorem movedTwice_nonneg {first second : WalletBucket} {delta delta' : Decimal}
    {wallet wallet' : TenantWallet}
    (h : movedTwice first second delta delta' wallet = some wallet') (hwallet : Nonneg wallet) :
    Nonneg wallet' := by
  obtain ⟨middle, hfirst, hsecond⟩ := movedTwice_eq_some h
  exact moved_nonneg hsecond (moved_nonneg hfirst hwallet)

/-- An amount of cents moves from the first bucket to the second. -/
theorem movedTwice_cents {first second : WalletBucket} {c : Numeric}
    {wallet wallet' : TenantWallet} (hvalid : rowValid .tenantWallets wallet = true)
    (hc : |c| < 10 ^ 15)
    (h : movedTwice first second (negate (ofNumeric c)) (ofNumeric c) wallet = some wallet')
    (bucket : WalletBucket) :
    balance wallet' bucket = balance wallet bucket - (if bucket = first then c else 0) +
      if bucket = second then c else 0 := by
  obtain ⟨middle, hfirst, hsecond⟩ := movedTwice_eq_some h
  rw [negate_ofNumeric (hc.trans (by norm_num))] at hfirst
  have hmiddle := (moved_eq_some hfirst).2.1
  rw [moved_cents (fits_of_rowValid hmiddle _) hc hsecond,
    moved_cents (fits_of_rowValid hvalid _) (by rwa [abs_neg]) hfirst]
  simp only [balance_setBalance_eq]
  grind

theorem rowValid_setBalance (bucket : WalletBucket) {wallet : TenantWallet} {value : Numeric}
    (h : rowValid .tenantWallets wallet = true) (hfits : Numeric.fits value = true) :
    rowValid .tenantWallets (setBalance wallet bucket value) = true := by
  simp only [rowValid, amountsFit, List.all_cons, List.all_nil, Bool.and_eq_true,
    decide_eq_true_eq] at h
  cases bucket <;>
    simp only [rowValid, setBalance, amountsFit, List.all_cons, List.all_nil, h, hfits,
      Bool.and_self, decide_true]

/-- Cents that are there can be moved where there is room. -/
theorem moved_isSome {wallet : TenantWallet} {bucket : WalletBucket} {c : Numeric}
    (hvalid : rowValid .tenantWallets wallet = true) (hc : |c| < 10 ^ 15)
    (hle : 0 ≤ balance wallet bucket + c) (hlt : balance wallet bucket + c < 10 ^ 14) :
    moved wallet bucket (ofNumeric c) =
      some (setBalance wallet bucket (balance wallet bucket + c)) := by
  have hvalue := movedValue_cents (fits_of_rowValid hvalid bucket) hc
  have hnonneg : 0 ≤ ofNumeric (balance wallet bucket + c) := zero_le_ofNumeric.mpr hle
  have hstored := rowValid_setBalance bucket hvalid
    (Numeric.fits_iff.mpr (abs_lt.mpr ⟨by linarith, hlt⟩))
  simp only [moved, hvalue, toNumeric_ofNumeric, hnonneg, hstored, and_self, if_true]

theorem movedTwice_isSome {wallet : TenantWallet} {first second : WalletBucket} {c : Numeric}
    (hne : second ≠ first) (hvalid : rowValid .tenantWallets wallet = true)
    (hnonneg : 0 ≤ balance wallet second) (hc : 0 < c) (hfirst : c ≤ balance wallet first)
    (hsecond : balance wallet second + c < 10 ^ 14) :
    (movedTwice first second (negate (ofNumeric c)) (ofNumeric c) wallet).isSome = true := by
  have hfits := Numeric.fits_iff.mp (fits_of_rowValid hvalid first)
  have hsmall : |c| < 10 ^ 14 := abs_lt.mpr ⟨by linarith, hfirst.trans_lt (abs_lt.mp hfits).2⟩
  have hlarge : |c| < 10 ^ 15 := hsmall.trans (by norm_num)
  rw [movedTwice, negate_ofNumeric (hsmall.trans (by norm_num)),
    moved_isSome hvalid (by rwa [abs_neg]) (by linarith) (by linarith [(abs_lt.mp hfits).2]),
    Option.bind_some, moved_isSome _ hlarge]
  · rfl
  · rw [balance_setBalance_of_ne _ _ hne]
    linarith
  · rwa [balance_setBalance_of_ne _ _ hne]
  · exact rowValid_setBalance _ hvalid (Numeric.fits_iff.mpr (abs_lt.mpr
      ⟨by linarith, by linarith [(abs_lt.mp hfits).2]⟩))

/-- A reservation adds at least the amount that is stored to the reserve. -/
theorem reserved_covers {wallet wallet' : TenantWallet} {amount : Decimal}
    (hvalid : rowValid .tenantWallets wallet = true) (hwallet : Nonneg wallet)
    (hamount : 0 ≤ amount) (hpositive : 0 < toNumeric amount)
    (hfits : toNumeric amount < 10 ^ 14) (h : reserved amount wallet = some wallet') :
    balance wallet .reserved + toNumeric amount ≤ balance wallet' .reserved := by
  obtain ⟨middle, hfirst, hsecond⟩ := movedTwice_eq_some h
  have hmiddle : balance middle .reserved = balance wallet .reserved := by
    rw [(moved_eq_some hfirst).2.2, balance_setBalance_of_ne _ _ (by decide)]
  rw [(moved_eq_some hsecond).2.2, balance_setBalance, movedValue, hmiddle]
  have hbalance := Numeric.fits_iff.mp (fits_of_rowValid hvalid .reserved)
  exact add_toNumeric_le (hwallet .reserved) (abs_lt.mp hbalance).2 hpositive hfits hamount

/-! ## Books -/

def signed (entry : LedgerEntry) : Numeric :=
  match entry.direction with
  | .credit => entry.amount
  | .debit => -entry.amount

/-- The credits of a bucket minus its debits. -/
def net (bucket : WalletBucket) (entries : List LedgerEntry) : Numeric :=
  (entries.map fun entry => if entry.walletBucket = some bucket then signed entry else 0).sum

/-- What the settlements moved into a bucket, from pending to available. -/
def settledInto (bucket : WalletBucket) (logs : List SettlementLog) : Numeric :=
  match bucket with
  | .available => (logs.map SettlementLog.netAmount).sum
  | .pending => -(logs.map SettlementLog.netAmount).sum
  | _ => 0

/-- The tenant's wallet, created without a balance where there was none. -/
inductive Located (db prior : PlatformDb) (tenantId : ℕ) (wallet : TenantWallet) : Prop
  | stored (hwallet : wallet ∈ db.rows .tenantWallets) (htenant : wallet.tenantId = tenantId)
      (h : prior = db)
  | created (hnone : ∀ other ∈ db.rows .tenantWallets, other.tenantId ≠ tenantId)
      (hzero : wallet = { id := wallet.id, tenantId, currency := defaultCurrency })
      (h : Db.Appended .tenantWallets wallet db prior)

/-- The wallet became `wallet'`, and the entries and settlements were written. -/
structure Posted (db prior db' : PlatformDb) (tenantId : ℕ) (wallet wallet' : TenantWallet)
    (entries : List LedgerEntry) (logs : List SettlementLog) : Prop where
  located : Located db prior tenantId wallet
  id : wallet'.id = wallet.id
  tenant : wallet'.tenantId = tenantId
  wallets : db'.rows .tenantWallets =
    replaceRow schema .tenantWallets wallet' (prior.rows .tenantWallets)
  ledger : db'.rows .ledgerEntries = db.rows .ledgerEntries ++ entries
  settlements : db'.rows .settlementLogs = db.rows .settlementLogs ++ logs
  others : ∀ t, t ∉ [.tenantWallets, .ledgerEntries, .settlementLogs] →
    db'.rows t = db.rows t
  ofTenant : ∀ entry ∈ entries, entry.tenantId = tenantId
  settledFor : ∀ log ∈ logs, log.tenantId = tenantId
  nonneg : Nonneg wallet → Nonneg wallet'
  balances : ∀ entry ∈ entries, entry.balanceAfter = entry.walletBucket.map (balance wallet')
  adjusted : ∀ entry ∈ entries, entry.walletBucket = some .reserved →
    entry.entryType = .adjustment

/-- What the bucket gained is what the new entries and settlements say. -/
def Explained (wallet wallet' : TenantWallet) (entries : List LedgerEntry)
    (logs : List SettlementLog) (bucket : WalletBucket) : Prop :=
  balance wallet' bucket = balance wallet bucket + net bucket entries + settledInto bucket logs

/-- No bucket was moved and no entry written; a wallet without a balance may have been
created. -/
def Untouched (db db' : PlatformDb) (tenantId : ℕ) : Prop :=
  db' = db ∨ ∃ wallet, Located db db' tenantId wallet

/-- A refusal of the operation itself came before any move. -/
def Refused (world : PlatformWorld) (tenantId : ℕ) (e : Failure) (world' : PlatformWorld) :
    Prop :=
  ∀ message, e = .domainValidation message → Untouched world.db world'.db tenantId

section Located

variable {db prior : PlatformDb} {tenantId : ℕ} {wallet wallet' : TenantWallet}

theorem Located.mem (h : Located db prior tenantId wallet) :
    wallet ∈ prior.rows .tenantWallets := by
  cases h with
  | stored hwallet _ h =>
    rw [h]
    exact hwallet
  | created _ _ h => exact h.mem

theorem Located.tenant (h : Located db prior tenantId wallet) : wallet.tenantId = tenantId := by
  cases h with
  | stored _ htenant _ => exact htenant
  | created _ hzero _ => rw [hzero]

theorem Located.rows_of_ne (h : Located db prior tenantId wallet) {t : Table}
    (ht : t ≠ .tenantWallets) : prior.rows t = db.rows t := by
  cases h with
  | stored _ _ h => rw [h]
  | created _ _ h => exact h.rows_of_ne ht

theorem Located.valid (h : Located db prior tenantId wallet) :
    rowValid .tenantWallets wallet = true :=
  prior.valid .tenantWallets wallet h.mem

theorem Located.nonneg (h : Located db prior tenantId wallet)
    (hdb : ∀ other ∈ db.rows .tenantWallets, Nonneg other) : Nonneg wallet := by
  cases h with
  | stored hwallet _ _ => exact hdb wallet hwallet
  | created _ hzero _ =>
    intro bucket
    rw [hzero]
    cases bucket <;> exact le_rfl

end Located

@[simp]
theorem net_nil (bucket : WalletBucket) : net bucket [] = 0 := rfl

@[simp]
theorem net_cons (bucket : WalletBucket) (entry : LedgerEntry) (entries : List LedgerEntry) :
    net bucket (entry :: entries) =
      (if entry.walletBucket = some bucket then signed entry else 0) + net bucket entries := rfl

@[simp]
theorem net_append (bucket : WalletBucket) (entries more : List LedgerEntry) :
    net bucket (entries ++ more) = net bucket entries + net bucket more := by
  simp [net]

@[simp]
theorem settledInto_nil (bucket : WalletBucket) : settledInto bucket [] = 0 := by
  cases bucket <;> rfl

@[simp]
theorem settledInto_append (bucket : WalletBucket) (logs more : List SettlementLog) :
    settledInto bucket (logs ++ more) = settledInto bucket logs + settledInto bucket more := by
  cases bucket <;> simp [settledInto]
  ring

theorem settledInto_singleton (bucket : WalletBucket) (log : SettlementLog) :
    settledInto bucket [log] = (if bucket = .available then log.netAmount else 0) -
      if bucket = .pending then log.netAmount else 0 := by
  cases bucket <;> simp [settledInto]

section Rules

variable {aside : Table → Bool} {α : Type} {returns : α → PlatformWorld → Prop}
  {raises : Failure → PlatformWorld → Prop} {world : PlatformWorld} {tenantId : ℕ}

theorem always_located {returns : TenantWallet → PlatformWorld → Prop}
    (haside : aside .tenantWallets = false)
    (hlocated : ∀ wallet prior, Located world.db prior tenantId wallet →
      returns wallet { world with db := prior })
    (hrefused : ∀ e, raises e world) :
    Always aside returns raises (lockedWallet tenantId) world :=
  always_lockedWallet haside
    (fun wallet hwallet htenant => hlocated wallet world.db (.stored hwallet htenant rfl))
    (fun hnone wallet prior hzero h => hlocated wallet prior (.created hnone hzero h))
    (fun _ => hrefused)

/-- The wallet is locked and one bucket moved. -/
theorem always_movedOnce {bucket : WalletBucket} {delta : Decimal} {next : Move → Tx α}
    (haside : aside .tenantWallets = false)
    (hmoved : ∀ wallet prior wallet' value db, Located world.db prior tenantId wallet →
      moved wallet bucket delta = some wallet' → toNumeric value = balance wallet' bucket →
      Db.Replaced .tenantWallets wallet' prior db →
      Always aside returns raises (next ⟨wallet', value⟩) { world with db })
    (hrefused : ∀ e db, Untouched world.db db tenantId → raises e { world with db }) :
    Always aside returns raises (do
      let wallet ← lockedWallet tenantId
      let move ← moveBucket wallet bucket delta
      next move) world := by
  refine always_bind.mpr (always_located haside (fun wallet prior hlocated => ?_)
    (fun e => hrefused e world.db (Or.inl rfl)))
  refine always_bind.mpr (always_moveBucket haside hlocated.mem
    (fun wallet' db hmove hreplaced => ?_)
    (fun e _ => hrefused e prior (Or.inr ⟨wallet, hlocated⟩)))
  refine hmoved wallet prior wallet' _ db hlocated hmove ?_ hreplaced
  rw [(moved_eq_some hmove).2.2, balance_setBalance]

/-- A move of one bucket, followed by the entries that justify it. -/
theorem Posted.of_moved {db prior middle db' : PlatformDb} {wallet wallet' : TenantWallet}
    {bucket : WalletBucket} {delta : Decimal} {entries : List LedgerEntry}
    (hlocated : Located db prior tenantId wallet)
    (hmoved : moved wallet bucket delta = some wallet')
    (hreplaced : Db.Replaced .tenantWallets wallet' prior middle)
    (hledger : db'.rows .ledgerEntries = middle.rows .ledgerEntries ++ entries)
    (hothers : ∀ t, t ≠ .ledgerEntries → db'.rows t = middle.rows t)
    (hofTenant : ∀ entry ∈ entries, entry.tenantId = tenantId)
    (hbalances : ∀ entry ∈ entries,
      entry.balanceAfter = entry.walletBucket.map (balance wallet'))
    (hadjusted : ∀ entry ∈ entries, entry.walletBucket = some .reserved →
      entry.entryType = .adjustment) :
    Posted db prior db' tenantId wallet wallet' entries [] where
  located := hlocated
  id := moved_id hmoved
  tenant := (moved_tenantId hmoved).trans hlocated.tenant
  wallets := by rw [hothers _ (by decide), hreplaced.rows_self]
  ledger := by
    rw [hledger, hreplaced.rows_of_ne (by decide), hlocated.rows_of_ne (by decide)]
  settlements := by
    rw [hothers _ (by decide), hreplaced.rows_of_ne (by decide),
      hlocated.rows_of_ne (by decide), List.append_nil]
  others t ht := by
    simp only [List.mem_cons, List.not_mem_nil, or_false, not_or] at ht
    rw [hothers t ht.2.1, hreplaced.rows_of_ne ht.1, hlocated.rows_of_ne ht.1]
  ofTenant := hofTenant
  settledFor := by simp
  nonneg := moved_nonneg hmoved
  balances := hbalances
  adjusted := hadjusted

/-- A bucket the operation does not move is explained by entries that do not name it. -/
theorem Explained.of_ne {wallet wallet' : TenantWallet} {bucket other : WalletBucket}
    {delta : Decimal} {entries : List LedgerEntry}
    (hmoved : moved wallet bucket delta = some wallet') (hne : other ≠ bucket)
    (hnet : net other entries = 0) : Explained wallet wallet' entries [] other := by
  rw [Explained, (moved_eq_some hmoved).2.2, balance_setBalance_of_ne _ _ hne, hnet,
    settledInto_nil, add_zero, add_zero]

/-- The bucket moved by cents is explained by entries over as many cents. -/
theorem Explained.of_cents {wallet wallet' : TenantWallet} {bucket : WalletBucket}
    {c : Numeric} {entries : List LedgerEntry} (hvalid : rowValid .tenantWallets wallet = true)
    (hmoved : moved wallet bucket (ofNumeric c) = some wallet') (hc : |c| < 10 ^ 15)
    (hnet : net bucket entries = c) : Explained wallet wallet' entries [] bucket := by
  rw [Explained, moved_cents (fits_of_rowValid hvalid _) hc hmoved, balance_setBalance, hnet,
    settledInto_nil, add_zero]

/-! ## Operations -/

/-- The new balance rounds to two decimals as the amount itself does. -/
def RoundsAlike (stored : Numeric) (direction : LedgerDirection) (amount : Decimal) : Prop :=
  match direction with
  | .credit => toNumeric (context (ofNumeric stored + amount)) = stored + toNumeric amount
  | .debit => toNumeric (context (ofNumeric stored + negate amount)) = stored - toNumeric amount

theorem fits_of_entry {entry : LedgerEntry} (h : rowValid .ledgerEntries entry = true) :
    |entry.amount| < 10 ^ 14 := by
  simp only [rowValid, amountsFit, Bool.and_eq_true, List.all_eq_true] at h
  exact Numeric.fits_iff.mp (h.1 _ List.mem_cons_self)

theorem always_recordDebit {entryType : LedgerEntryType} {bucket : WalletBucket}
    {refusal referenceType : String} {amount : Decimal} {referenceId : Option ℕ}
    {description : Option String} (hbucket : bucket ≠ .reserved) :
    Always (fun _ => false)
      (fun _ world' => ∃ prior wallet wallet' entries,
        Posted world.db prior world'.db tenantId wallet wallet' entries [] ∧
        ∀ other, (other = bucket → TwoDecimals amount) →
          Explained wallet wallet' entries [] other)
      (Refused world tenantId)
      (recordDebit entryType bucket refusal tenantId amount referenceType referenceId
        description) world := by
  refine always_bind.mpr (always_require (fun _ => ?_) (fun _ _ _ => Or.inl rfl))
  refine always_movedOnce rfl ?_ (fun e db h _ _ => h)
  intro wallet prior wallet' value db hlocated hmoved hvalue hreplaced
  refine always_createPlain rfl (fun _ => rfl) (fun _ _ => rfl)
    (fun entry final hentry hvalid happended => ?_) (fun _ _ _ h => by cases h)
  have hbucketOf : entry.walletBucket = some bucket := by rw [hentry]
  refine ⟨prior, wallet, wallet', [entry], .of_moved hlocated hmoved hreplaced
    happended.rows_self (fun t ht => happended.rows_of_ne ht) ?_ ?_ ?_, fun other hexact => ?_⟩
  · simp only [List.mem_singleton, forall_eq]
    rw [hentry]
  · simp only [List.mem_singleton, forall_eq]
    rw [hentry]
    exact congrArg some hvalue
  · simp only [List.mem_singleton, forall_eq, hbucketOf]
    intro h
    exact absurd (Option.some.inj h) hbucket
  · have hsigned : signed entry = -toNumeric amount := by
      rw [hentry]
      rfl
    by_cases hother : other = bucket
    · subst hother
      have hfits : |toNumeric amount| < 10 ^ 14 := by
        rw [hentry] at hvalid
        exact fits_of_entry hvalid
      rw [← hexact rfl, negate_ofNumeric (hfits.trans (by norm_num))] at hmoved
      refine Explained.of_cents hlocated.valid hmoved ?_ ?_
      · rw [abs_neg]
        exact hfits.trans (by norm_num)
      · rw [net_cons, hbucketOf, if_pos rfl, hsigned, net_nil, add_zero]
    · refine Explained.of_ne hmoved hother ?_
      rw [net_cons, hbucketOf, if_neg fun h => hother (Option.some.inj h).symm, net_nil,
        add_zero]

theorem always_createAdjustment {bucket : WalletBucket} {direction : LedgerDirection}
    {amount : Decimal} {reason : String} {actorId : ℕ} {referenceType : Option String}
    {referenceId : Option ℕ} :
    Always (fun _ => false)
      (fun _ world' => ∃ prior wallet wallet' entries,
        Posted world.db prior world'.db tenantId wallet wallet' entries [] ∧
        ∀ other, (other = bucket →
            TwoDecimals amount ∨ RoundsAlike (balance wallet bucket) direction amount) →
          Explained wallet wallet' entries [] other)
      (Refused world tenantId)
      (createAdjustment tenantId bucket direction amount reason actorId referenceType
        referenceId) world := by
  refine always_bind.mpr (always_require (fun _ => ?_) (fun _ _ _ => Or.inl rfl))
  refine always_bind.mpr (always_require (fun _ => ?_) (fun _ _ _ => Or.inl rfl))
  refine always_movedOnce rfl ?_ (fun e db h _ _ => h)
  intro wallet prior wallet' value db hlocated hmoved hvalue hreplaced
  refine always_createPlain rfl (fun _ => rfl) (fun _ _ => rfl)
    (fun entry final hentry hvalid happended => ?_) (fun _ _ _ h => by cases h)
  have hbucketOf : entry.walletBucket = some bucket := by rw [hentry]
  refine ⟨prior, wallet, wallet', [entry], .of_moved hlocated hmoved hreplaced
    happended.rows_self (fun t ht => happended.rows_of_ne ht) ?_ ?_ ?_, fun other hexact => ?_⟩
  · simp only [List.mem_singleton, forall_eq]
    rw [hentry]
  · simp only [List.mem_singleton, forall_eq]
    rw [hentry]
    exact congrArg some hvalue
  · simp only [List.mem_singleton, forall_eq]
    rw [hentry]
    exact fun _ => rfl
  · by_cases hother : other = bucket
    · subst hother
      have hfits : |toNumeric amount| < 10 ^ 14 := by
        rw [hentry] at hvalid
        exact fits_of_entry hvalid
      have hwide : |toNumeric amount| < 10 ^ 15 := hfits.trans (by norm_num)
      have hnet : net other [entry] = signed entry := by
        rw [net_cons, hbucketOf, if_pos rfl, net_nil, add_zero]
      rcases hexact rfl with htwo | hrounds
      · cases direction with
        | credit =>
          rw [if_pos rfl, ← htwo] at hmoved
          refine Explained.of_cents hlocated.valid hmoved hwide ?_
          rw [hnet, hentry]
          rfl
        | debit =>
          rw [if_neg (by decide), ← htwo, negate_ofNumeric (hwide.trans (by norm_num))] at hmoved
          refine Explained.of_cents hlocated.valid hmoved (by rwa [abs_neg]) ?_
          rw [hnet, hentry]
          rfl
      · rw [Explained, (moved_eq_some hmoved).2.2, balance_setBalance, hnet, settledInto_nil,
          add_zero, hentry]
        cases direction with
        | credit => exact hrounds
        | debit => exact hrounds
    · refine Explained.of_ne hmoved hother ?_
      rw [net_cons, hbucketOf, if_neg fun h => hother (Option.some.inj h).symm, net_nil,
        add_zero]

/-- The fee is a number of cents, and so is the share of an amount in cents. -/
theorem share_cents {grossAmount platformFee rate : Decimal}
    (hfee : platformFeeOf grossAmount rate = some platformFee)
    (hgross : |toNumeric grossAmount| < 10 ^ 14) (hfits : |toNumeric platformFee| < 10 ^ 14)
    (htwo : TwoDecimals grossAmount) :
    context (grossAmount - platformFee) =
      ofNumeric (toNumeric grossAmount - toNumeric platformFee) := by
  have hcents : TwoDecimals platformFee := twoDecimals_of_quantize hfee
  have hsum : grossAmount - platformFee =
      ofNumeric (toNumeric grossAmount - toNumeric platformFee) := by
    rw [sub_eq_add_neg (toNumeric grossAmount), ← ofNumeric_add, ← ofNumeric_neg, htwo, hcents,
      sub_eq_add_neg]
  rw [hsum]
  refine context_ofNumeric ((abs_sub _ _).trans_lt ?_)
  calc |toNumeric grossAmount| + |toNumeric platformFee| < 10 ^ 14 + 10 ^ 14 :=
        add_lt_add hgross hfits
    _ < 10 ^ 28 := by norm_num

/-- The terms a lookup of the active ones finds. -/
def activeTerms (db : PlatformDb) (tenantId : ℕ) : Option TenantCommercialTerms :=
  ((db.rows .tenantCommercialTerms).filter fun terms =>
    terms.tenantId == tenantId && terms.isActive).head?

theorem always_getActive {returns : Option TenantCommercialTerms → PlatformWorld → Prop}
    (hreturns : returns (activeTerms world.db tenantId) world) :
    Always (fun _ => false) returns raises (CommercialTermsService.getActive tenantId) world :=
  always_bind.mpr (always_select rfl hreturns)

/-- The active terms are looked up, and changed by nothing here. -/
theorem always_requireActive {returns : TenantCommercialTerms → PlatformWorld → Prop}
    (hreturns : ∀ terms, activeTerms world.db tenantId = some terms → returns terms world)
    (hraises : activeTerms world.db tenantId = none →
      ∀ message, raises (.domainValidation message) world) :
    Always (fun _ => false) returns raises (CommercialTermsService.requireActive tenantId)
      world := by
  apply always_bind.mpr
  apply always_getActive
  exact always_orRaise hreturns fun h => hraises h _

/-- The fee is charged at the active rate, and the rest is the share. -/
structure Charged (db : PlatformDb) (tenantId : ℕ) (grossAmount : Decimal)
    (result : CollectionResult) (collection fee share : LedgerEntry) : Prop where
  atRate : ∃ terms, activeTerms db tenantId = some terms ∧
    platformFeeOf grossAmount (ofNumeric terms.commissionRatePercent) = some result.platformFee
  rest : result.tenantShare = context (grossAmount - result.platformFee)
  feeAmount : fee.amount = toNumeric result.platformFee
  shareAmount : share.amount = toNumeric result.tenantShare
  gross : 0 < grossAmount ∧ |toNumeric grossAmount| < 10 ^ 14
  unmoved : collection.walletBucket = none ∧ fee.walletBucket = none
  credited : share.direction = .credit

/-- The three entries of a collected payment. -/
structure Receipt (amount : Numeric) (referenceId : Option ℕ)
    (collection fee share : LedgerEntry) : Prop where
  collectionType : collection.entryType = .collection
  feeType : fee.entryType = .platformFee
  shareType : share.entryType = .tenantShare
  unmoved : collection.walletBucket = none ∧ fee.walletBucket = none
  shareBucket : share.walletBucket = some .pending
  shareDirection : share.direction = .credit
  collectionReference : collection.referenceId = referenceId
  feeReference : fee.referenceId = referenceId
  shareReference : share.referenceId = referenceId
  collected : collection.amount = amount
  split : fee.amount + share.amount = amount

/-- The share of a payment is pending, and its three entries say why. -/
theorem always_processCollection_receipt {grossAmount : Decimal} {referenceType : String}
    {referenceId : Option ℕ} {description : Option String} :
    Always (fun _ => false)
      (fun result world' => world'.sent = world.sent ∧ ∃ prior wallet wallet' collection fee share,
        Posted world.db prior world'.db tenantId wallet wallet' [collection, fee, share] [] ∧
        (∀ other, (other = .pending → TwoDecimals grossAmount) →
          Explained wallet wallet' [collection, fee, share] [] other) ∧
        Charged world.db tenantId grossAmount result collection fee share ∧
        (TwoDecimals grossAmount →
          Receipt (toNumeric grossAmount) referenceId collection fee share))
      (fun e world' => world'.sent = world.sent ∧ Refused world tenantId e world')
      (processCollection tenantId grossAmount referenceType referenceId description) world := by
  apply always_bind.mpr
  apply always_require
  swap
  · exact fun _ => ⟨rfl, fun _ _ => Or.inl rfl⟩
  intro hpositive
  apply always_bind.mpr
  apply always_requireActive
  swap
  · exact fun _ _ => ⟨rfl, fun _ _ => Or.inl rfl⟩
  intro terms hterms
  apply always_bind.mpr
  apply always_orRaise
  swap
  · exact fun _ => ⟨rfl, fun _ h => by cases h⟩
  intro platformFee hfee
  apply always_movedOnce rfl
  swap
  · exact fun e db h => ⟨rfl, fun _ _ => h⟩
  intro wallet prior wallet' value db hlocated hmoved hvalue hreplaced
  apply always_bind.mpr
  apply always_createPlain rfl (fun _ => rfl) (fun _ _ => rfl)
  swap
  · exact fun _ _ => ⟨rfl, fun _ h => by cases h⟩
  intro collection db₁ hcollection hgrossValid h₁
  apply always_bind.mpr
  apply always_createPlain rfl (fun _ => rfl) (fun _ _ => rfl)
  swap
  · exact fun _ _ => ⟨rfl, fun _ h => by cases h⟩
  intro fee db₂ hfeeEntry hfeeValid h₂
  apply always_bind.mpr
  apply always_createPlain rfl (fun _ => rfl) (fun _ _ => rfl)
  swap
  · exact fun _ _ => ⟨rfl, fun _ h => by cases h⟩
  intro share final hshare hshareValid h₃
  have hgross : |toNumeric grossAmount| < 10 ^ 14 := by
    rw [hcollection] at hgrossValid
    exact fits_of_entry hgrossValid
  have hfeeAmount : fee.amount = toNumeric platformFee := by rw [hfeeEntry]
  have hfits : |toNumeric platformFee| < 10 ^ 14 := by
    rw [← hfeeAmount]
    exact fits_of_entry hfeeValid
  have hshareAmount : share.amount = toNumeric (context (grossAmount - platformFee)) := by
    rw [hshare]
  have hposted : Posted world.db prior final tenantId wallet wallet' [collection, fee, share] [] := by
    apply Posted.of_moved hlocated hmoved hreplaced
    · rw [h₃.rows_self, h₂.rows_self, h₁.rows_self, List.append_assoc, List.append_assoc]
      rfl
    · intro t ht
      rw [h₃.rows_of_ne ht, h₂.rows_of_ne ht, h₁.rows_of_ne ht]
    · simp only [List.mem_cons, List.not_mem_nil, or_false, forall_eq_or_imp, forall_eq]
      rw [hcollection, hfeeEntry, hshare]
      exact ⟨rfl, rfl, rfl⟩
    · simp only [List.mem_cons, List.not_mem_nil, or_false, forall_eq_or_imp, forall_eq]
      rw [hcollection, hfeeEntry, hshare]
      exact ⟨rfl, rfl, congrArg some hvalue⟩
    · simp only [List.mem_cons, List.not_mem_nil, or_false, forall_eq_or_imp, forall_eq]
      rw [hcollection, hfeeEntry, hshare]
      simp
  have hexplained : ∀ other, (other = .pending → TwoDecimals grossAmount) →
      Explained wallet wallet' [collection, fee, share] [] other := by
    intro other hexact
    have hnet : net other [collection, fee, share] =
        if other = .pending then toNumeric (context (grossAmount - platformFee)) else 0 := by
      have hnone : collection.walletBucket = none := by rw [hcollection]
      have hnone' : fee.walletBucket = none := by rw [hfeeEntry]
      have hpending : share.walletBucket = some .pending := by rw [hshare]
      have hsigned : signed share = toNumeric (context (grossAmount - platformFee)) := by
        rw [hshare]
        rfl
      simp only [net_cons, hnone, hnone', hpending, hsigned, net_nil, Option.some.injEq,
        reduceCtorEq, if_false, zero_add, add_zero, eq_comm]
    by_cases hother : other = .pending
    · subst hother
      rw [share_cents hfee hgross hfits (hexact rfl)] at hmoved hnet
      refine Explained.of_cents hlocated.valid hmoved ((abs_sub _ _).trans_lt ?_) ?_
      · calc |toNumeric grossAmount| + |toNumeric platformFee| < 10 ^ 14 + 10 ^ 14 :=
              add_lt_add hgross hfits
          _ < 10 ^ 15 := by norm_num
      · rw [hnet, if_pos rfl, toNumeric_ofNumeric]
    · exact Explained.of_ne hmoved hother (by rw [hnet, if_neg hother])
  have hreceipt : TwoDecimals grossAmount →
      Receipt (toNumeric grossAmount) referenceId collection fee share := by
    intro htwo
    have hsplit : fee.amount + share.amount = toNumeric grossAmount := by
      rw [hfeeAmount, hshareAmount, share_cents hfee hgross hfits htwo, toNumeric_ofNumeric]
      exact add_sub_cancel _ _
    constructor
    · rw [hcollection]
    · rw [hfeeEntry]
    · rw [hshare]
    · exact ⟨by rw [hcollection], by rw [hfeeEntry]⟩
    · rw [hshare]
    · rw [hshare]
    · rw [hcollection]
    · rw [hfeeEntry]
    · rw [hshare]
    · rw [hcollection]
    · exact hsplit
  exact ⟨rfl, prior, wallet, wallet', collection, fee, share, hposted, hexplained,
    ⟨⟨terms, hterms, hfee⟩, rfl, hfeeAmount, hshareAmount, ⟨hpositive, hgross⟩,
      ⟨by rw [hcollection], by rw [hfeeEntry]⟩, by rw [hshare]⟩, hreceipt⟩

theorem always_processCollection {grossAmount : Decimal} {referenceType : String}
    {referenceId : Option ℕ} {description : Option String} :
    Always (fun _ => false)
      (fun _ world' => ∃ prior wallet wallet' entries,
        Posted world.db prior world'.db tenantId wallet wallet' entries [] ∧
        ∀ other, (other = .pending → TwoDecimals grossAmount) →
          Explained wallet wallet' entries [] other)
      (Refused world tenantId)
      (processCollection tenantId grossAmount referenceType referenceId description) world := by
  apply always_processCollection_receipt.mono
  · rintro _ _ ⟨-, prior, wallet, wallet', _, _, _, hposted, hexplained, -, -⟩
    exact ⟨prior, wallet, wallet', _, hposted, hexplained⟩
  · exact fun _ _ h => h.2

theorem movedTwice_of_ne {first second other : WalletBucket} {delta delta' : Decimal}
    {wallet wallet' : TenantWallet}
    (h : movedTwice first second delta delta' wallet = some wallet') (hfirst : other ≠ first)
    (hsecond : other ≠ second) : balance wallet' other = balance wallet other := by
  obtain ⟨middle, hmiddle, hwallet'⟩ := movedTwice_eq_some h
  rw [(moved_eq_some hwallet').2.2, balance_setBalance_of_ne _ _ hsecond,
    (moved_eq_some hmiddle).2.2, balance_setBalance_of_ne _ _ hfirst]

/-- The second of two moves adds to a balance, which is refused by the database
alone. -/
theorem always_movedBoth {prior : PlatformDb} {wallet : TenantWallet}
    {first second : WalletBucket} {delta delta' : Decimal} {next : Move → Tx α}
    (hlocated : Located world.db prior tenantId wallet) (hwallet : Nonneg wallet)
    (hdelta' : 0 ≤ delta') (hne : second ≠ first)
    (hmoved : ∀ wallet' value db, movedTwice first second delta delta' wallet = some wallet' →
      toNumeric value = balance wallet' second → Db.Replaced .tenantWallets wallet' prior db →
      Always (fun _ => false) returns (Refused world tenantId) (next ⟨wallet', value⟩)
        { world with db }) :
    Always (fun _ => false) returns (Refused world tenantId) (do
      let debit ← moveBucket wallet first delta
      let credit ← moveBucket debit.wallet second delta'
      next credit) { world with db := prior } := by
  refine always_bind.mpr (always_moveBucket rfl hlocated.mem (fun middle db hmiddle hfirst => ?_)
    (fun _ _ _ _ => Or.inr ⟨wallet, hlocated⟩))
  refine always_bind.mpr (always_moveBucket_split rfl
    (hfirst.mem hlocated.mem (moved_id hmiddle).symm) (fun wallet' db' hwallet' hsecond => ?_)
    (fun hnegative => ?_) (fun _ _ h => by cases h))
  · refine hmoved wallet' _ db' ?_ ?_ (hfirst.trans hsecond (moved_id hwallet').symm)
    · simp only [movedTwice, hmiddle, Option.bind_some, hwallet']
    · rw [(moved_eq_some hwallet').2.2, balance_setBalance]
  · have hbalance : 0 ≤ balance middle second := by
      rw [(moved_eq_some hmiddle).2.2, balance_setBalance_of_ne _ _ hne]
      exact hwallet second
    have hvalue : 0 ≤ movedValue middle second delta' :=
      context_nonneg (add_nonneg (zero_le_ofNumeric.mpr hbalance) hdelta')
    exact absurd hnegative (not_lt.mpr hvalue)

theorem always_settlePending {amount : Option Decimal} {batchReference : String}
    (hdb : ∀ wallet ∈ world.db.rows .tenantWallets, Nonneg wallet) :
    Always (fun _ => false)
      (fun _ world' => ∃ prior wallet wallet' logs,
        Posted world.db prior world'.db tenantId wallet wallet' [] logs ∧
        ∀ other, (other ∈ [.pending, .available] → ∀ a, amount = some a → TwoDecimals a) →
          Explained wallet wallet' [] logs other)
      (Refused world tenantId) (settlePending tenantId amount batchReference) world := by
  refine always_bind.mpr (always_located rfl (fun wallet prior hlocated => ?_)
    (fun _ _ _ => Or.inl rfl))
  have huntouched : Untouched world.db prior tenantId := Or.inr ⟨wallet, hlocated⟩
  refine always_bind.mpr (always_require (fun hpositive => ?_) (fun _ _ _ => huntouched))
  refine always_bind.mpr (always_require (fun _ => ?_) (fun _ _ _ => huntouched))
  refine always_movedBoth hlocated (hlocated.nonneg hdb) hpositive.le (by decide) ?_
  intro wallet' value db hmoved _ hreplaced
  refine always_createPlain rfl (fun _ => rfl) (fun _ _ => rfl)
    (fun log final hlog hvalid happended => ?_) (fun _ _ _ h => by cases h)
  refine ⟨prior, wallet, wallet', [log], ?_, fun other hexact => ?_⟩
  · constructor
    case located => exact hlocated
    case id => exact movedTwice_id hmoved
    case tenant => exact (movedTwice_tenantId hmoved).trans hlocated.tenant
    case wallets => rw [happended.rows_of_ne (by decide), hreplaced.rows_self]
    case ledger =>
      rw [happended.rows_of_ne (by decide), hreplaced.rows_of_ne (by decide),
        hlocated.rows_of_ne (by decide), List.append_nil]
    case settlements =>
      rw [happended.rows_self, hreplaced.rows_of_ne (by decide), hlocated.rows_of_ne (by decide)]
    case others =>
      intro t ht
      simp only [List.mem_cons, List.not_mem_nil, or_false, not_or] at ht
      rw [happended.rows_of_ne ht.2.2, hreplaced.rows_of_ne ht.1, hlocated.rows_of_ne ht.1]
    case ofTenant => simp
    case settledFor =>
      simp only [List.mem_singleton, forall_eq]
      rw [hlog]
    case nonneg => exact movedTwice_nonneg hmoved
    case balances => simp
    case adjusted => simp
  · set settled := amount.getD (ofNumeric wallet.pendingBalanceTzs) with hsettled
    have hnet : log.netAmount = toNumeric settled := by rw [hlog]
    by_cases hother : other ∈ [WalletBucket.pending, .available]
    · have htwo : TwoDecimals settled := by
        rw [hsettled]
        cases amount with
        | none => exact twoDecimals_ofNumeric _
        | some a => exact hexact hother a rfl
      have hfits : |toNumeric settled| < 10 ^ 15 := by
        rw [← hnet]
        simp only [rowValid, amountsFit, Bool.and_eq_true, List.all_eq_true] at hvalid
        have hlast := hvalid.1 log.netAmount (by simp)
        exact (Numeric.fits_iff.mp hlast).trans (by norm_num)
      rw [← htwo] at hmoved
      rw [Explained, movedTwice_cents hlocated.valid hfits hmoved other, net_nil,
        settledInto_singleton, hnet]
      ring
    · simp only [List.mem_cons, List.not_mem_nil, or_false, not_or] at hother
      rw [Explained, movedTwice_of_ne hmoved hother.1 hother.2, net_nil, settledInto_singleton,
        if_neg hother.1, if_neg hother.2, sub_zero, add_zero, add_zero]

/-- The four operations that only payouts call refuse before they move anything. -/
theorem always_twoMoves {first second : WalletBucket} {amount : Decimal} {message : String}
    {next : Move → Tx α} (hdb : ∀ wallet ∈ world.db.rows .tenantWallets, Nonneg wallet)
    (hne : second ≠ first)
    (hnext : ∀ move world', Always (fun _ => false) (fun _ _ => True)
      (Refused world tenantId) (next move) world') :
    Always (fun _ => false) (fun _ _ => True) (Refused world tenantId) (do
      Prog.require (0 < amount) (.domainValidation message)
      let wallet ← lockedWallet tenantId
      let debit ← moveBucket wallet first (negate amount)
      let credit ← moveBucket debit.wallet second amount
      next credit) world := by
  refine always_bind.mpr (always_require (fun hpositive => ?_) (fun _ _ _ => Or.inl rfl))
  refine always_bind.mpr (always_located rfl (fun wallet prior hlocated => ?_)
    (fun _ _ _ => Or.inl rfl))
  exact always_movedBoth hlocated (hlocated.nonneg hdb) hpositive.le hne
    fun wallet' value db _ _ _ => hnext _ _

end Rules

end InfinityRadius.Services.WalletService
