import InfinityRadius.Core.HalfCents
import InfinityRadius.Services.SubmittedOnce
import InfinityRadius.Services.WalletRules

/-!
# Reservations of half cents

A withdrawal is asked for with any number of decimals, while the balances and the stored
amount have two.  Each of the three is rounded on its own, and they agree unless the amount
is half a cent more than a number of cents.
-/

namespace InfinityRadius.Services.WalletService

open Amounts Database Payload Program Sql Models Integrations.SelcomBusiness PayoutService

/-- The half cent above the whole cents of an amount. -/
def halfCent (amount : Decimal) : Decimal := ((2 * ⌊100 * amount⌋ + 1 : ℤ) : ℚ) / 200

/-- The amount is half a cent more than a number of cents, up to half a unit in the 28th
digit of what it is added to and taken from. -/
structure OnHalfCent (available reserved : Numeric) (amount : Decimal) : Prop where
  le_added : halfCent amount - halfUlp (ofNumeric reserved + amount) ≤ amount
  taken_le : -negate amount ≤ halfCent amount + halfUlp (ofNumeric available + negate amount)

variable {wallet wallet' : TenantWallet} {amount : Decimal}

theorem floor_le_amount (amount : Decimal) : ((2 * ⌊100 * amount⌋ : ℤ) : ℚ) / 200 ≤ amount := by
  have h := Int.floor_le (100 * amount)
  push_cast
  linarith

theorem amount_lt_floor (amount : Decimal) :
    amount < ((2 * ⌊100 * amount⌋ + 2 : ℤ) : ℚ) / 200 := by
  have h := Int.lt_floor_add_one (100 * amount)
  push_cast
  linarith

/-- A number of cents is on no half cent. -/
theorem not_onHalfCent {available reserved c : Numeric} (hsmall : |reserved + c| < 10 ^ 25) :
    ¬OnHalfCent available reserved (ofNumeric c) := by
  intro h
  have hadded := h.le_added
  have hfloor : ⌊100 * ofNumeric c⌋ = c := by
    rw [ofNumeric, mul_div_cancel₀ _ (by norm_num), Int.floor_intCast]
  have hulp : halfUlp (ofNumeric reserved + ofNumeric c) < 1 / 200 := by
    refine halfUlp_lt ?_
    have hcast : |((reserved + c : ℤ) : ℚ)| < 10 ^ 25 := by exact_mod_cast hsmall
    rw [ofNumeric_add, ofNumeric, abs_div, div_lt_iff₀ (by norm_num)]
    norm_num
    norm_num at hcast
    exact hcast
  generalize halfUlp (ofNumeric reserved + ofNumeric c) = ulp at hadded hulp
  rw [halfCent, hfloor, ofNumeric] at hadded
  push_cast at hadded
  linarith

/-- What the withdrawal is stored with. -/
theorem toNumeric_amount (hamount : 0 ≤ amount) :
    toNumeric amount = ⌊100 * amount⌋ + if halfCent amount ≤ amount then 1 else 0 := by
  have hle := Int.floor_le (100 * amount)
  have hlt := Int.lt_floor_add_one (100 * amount)
  rw [toNumeric, roundHalfUp, if_pos (by positivity), Int.floor_eq_iff, halfCent]
  split <;> rename_i hmark <;> push_cast at hmark ⊢ <;> constructor <;> linarith

/-- The amount as it is taken, rounded to 28 digits, is within the cents around it. -/
theorem taken_bounds (hsmall : |amount| < 10 ^ 23) :
    ((2 * ⌊100 * amount⌋ : ℤ) : ℚ) / 200 ≤ -negate amount ∧
      -negate amount ≤ ((2 * ⌊100 * amount⌋ + 2 : ℤ) : ℚ) / 200 ∧
      (amount ≤ halfCent amount → -negate amount ≤ halfCent amount) := by
  have hneg : |-amount| < 10 ^ 23 := by rwa [abs_neg]
  have hpos := halfUlp_pos (-amount)
  have hfloor := floor_le_amount amount
  have hceil := amount_lt_floor amount
  refine ⟨?_, ?_, fun h => ?_⟩
  · have hle := (context_le_iff hneg (-(2 * ⌊100 * amount⌋))).mpr
    push_cast at hle hfloor ⊢
    rw [negate]
    linarith [hle (by linarith)]
  · have hle := (le_context_iff hneg (-(2 * ⌊100 * amount⌋ + 2))).mpr
    push_cast at hle hceil ⊢
    rw [negate]
    linarith [hle (by linarith)]
  · have hle := (le_context_iff hneg (-(2 * ⌊100 * amount⌋ + 1))).mpr
    rw [halfCent] at h ⊢
    push_cast at hle h ⊢
    rw [negate]
    linarith [hle (by linarith)]

/-- What is added to a balance. -/
theorem toNumeric_added {c : Numeric} (hsmall : |ofNumeric c + amount| < 10 ^ 23)
    (hnonneg : 0 ≤ context (ofNumeric c + amount)) :
    toNumeric (context (ofNumeric c + amount)) = c + ⌊100 * amount⌋ +
      if halfCent amount - halfUlp (ofNumeric c + amount) ≤ amount then 1 else 0 := by
  have hpos := halfUlp_pos (ofNumeric c + amount)
  have hulp := halfUlp_lt hsmall
  have hfloor := floor_le_amount amount
  have hceil := amount_lt_floor amount
  have hreach := fun n => le_toNumeric_context_iff hsmall hnonneg n
  generalize toNumeric (context (ofNumeric c + amount)) = stored at hreach ⊢
  generalize halfUlp (ofNumeric c + amount) = ulp at hpos hulp hreach ⊢
  rw [ofNumeric] at hreach
  apply eq_add_ite
  · rw [hreach]
    push_cast at hfloor ⊢
    linarith
  · rw [hreach]
    push_cast at hceil ⊢
    linarith
  · rw [hreach, halfCent]
    push_cast
    constructor <;> intro h <;> linarith

/-- What is taken from a balance. -/
theorem toNumeric_taken {c : Numeric} (hamount : |amount| < 10 ^ 23)
    (hsmall : |ofNumeric c + negate amount| < 10 ^ 23)
    (hnonneg : 0 ≤ context (ofNumeric c + negate amount)) :
    toNumeric (context (ofNumeric c + negate amount)) = c - ⌊100 * amount⌋ - 1 +
      if -negate amount ≤ halfCent amount + halfUlp (ofNumeric c + negate amount) then 1 else 0 := by
  have hpos := halfUlp_pos (ofNumeric c + negate amount)
  have hulp := halfUlp_lt hsmall
  obtain ⟨hfloor, hceil, -⟩ := taken_bounds hamount
  have hreach := fun n => le_toNumeric_context_iff hsmall hnonneg n
  generalize toNumeric (context (ofNumeric c + negate amount)) = stored at hreach ⊢
  generalize halfUlp (ofNumeric c + negate amount) = ulp at hpos hulp hreach ⊢
  rw [ofNumeric] at hreach
  apply eq_add_ite
  · rw [hreach]
    push_cast at hceil ⊢
    linarith
  · rw [hreach]
    push_cast at hfloor ⊢
    linarith
  · rw [hreach, halfCent]
    push_cast
    constructor <;> intro h <;> linarith

/-! ## What a reservation leaves -/

/-- A value that is not refused was not negative. -/
theorem nonneg_of_context {x : ℚ} (h : 0 ≤ context x) : 0 ≤ x := by
  by_contra hneg
  exact not_lt.mpr h (context_neg (not_le.mp hneg))

/-- An amount that is taken from a balance is not far above it. -/
theorem amount_small {c : Numeric} (hfits : Numeric.fits c = true)
    (hnonneg : 0 ≤ context (ofNumeric c + negate amount)) : amount < 10 ^ 22 := by
  by_contra hlarge
  have hbalance : (c : ℚ) < 10 ^ 14 := by exact_mod_cast (abs_lt.mp (Numeric.fits_iff.mp hfits)).2
  have hsum := nonneg_of_context hnonneg
  have htaken := @le_context amount (2 * 10 ^ 24) (by norm_num) (by norm_num)
    (by push_cast; linarith [not_lt.mp hlarge])
  rw [negate, context_neg_eq, ofNumeric] at hsum
  push_cast at htaken
  linarith

/-- The two balances after a reservation. -/
structure Reserved (wallet wallet' : TenantWallet) (amount : Decimal) : Prop where
  nonneg : 0 ≤ balance wallet' .available
  available : balance wallet' .available = balance wallet .available - ⌊100 * amount⌋ - 1 +
    if -negate amount ≤
      halfCent amount + halfUlp (ofNumeric (balance wallet .available) + negate amount) then 1 else 0
  reserved : balance wallet' .reserved = balance wallet .reserved + ⌊100 * amount⌋ +
    if halfCent amount - halfUlp (ofNumeric (balance wallet .reserved) + amount) ≤ amount then 1
    else 0
  small : |amount| < 10 ^ 23

theorem reserved_balances (hvalid : rowValid .tenantWallets wallet = true) (hamount : 0 < amount)
    (h : reserved amount wallet = some wallet') : Reserved wallet wallet' amount := by
  obtain ⟨middle, hfirst, hsecond⟩ := movedTwice_eq_some h
  obtain ⟨hdebit, -, rfl⟩ := moved_eq_some hfirst
  obtain ⟨hcredit, -, rfl⟩ := moved_eq_some hsecond
  have havailable := abs_lt.mp (Numeric.fits_iff.mp (fits_of_rowValid hvalid .available))
  have hreserved := abs_lt.mp (Numeric.fits_iff.mp (fits_of_rowValid hvalid .reserved))
  have hlarge := amount_small (fits_of_rowValid hvalid .available) hdebit
  have hsmall : |amount| < 10 ^ 23 := by
    rw [abs_of_pos hamount]
    exact hlarge.trans (by norm_num)
  have hmiddle : movedValue (setBalance wallet .available (toNumeric
      (movedValue wallet .available (negate amount)))) .reserved amount =
      context (ofNumeric (balance wallet .reserved) + amount) := rfl
  rw [hmiddle] at hcredit
  have htaken : |ofNumeric (balance wallet .available) + negate amount| < 10 ^ 23 := by
    have hcast : (balance wallet .available : ℚ) < 10 ^ 14 := by exact_mod_cast havailable.2
    have hneg := negate_neg hamount
    rw [abs_of_nonneg (nonneg_of_context hdebit), ofNumeric]
    linarith
  have hadded : |ofNumeric (balance wallet .reserved) + amount| < 10 ^ 23 := by
    have hcast : (balance wallet .reserved : ℚ) < 10 ^ 14 := by exact_mod_cast hreserved.2
    rw [abs_of_nonneg (nonneg_of_context hcredit), ofNumeric]
    linarith
  refine ⟨?_, ?_, ?_, hsmall⟩
  · rw [balance_setBalance_of_ne _ _ (by decide), balance_setBalance]
    exact roundHalfUp_nonneg (by linarith)
  · rw [balance_setBalance_of_ne _ _ (by decide), balance_setBalance, movedValue,
      toNumeric_taken hsmall htaken hdebit]
  · rw [balance_setBalance, hmiddle, toNumeric_added hadded hcredit]

/-- Where the three do not round alike, the sum grows by a cent. -/
theorem Reserved.sum_iff (h : Reserved wallet wallet' amount) :
    balance wallet' .available + balance wallet' .reserved =
        balance wallet .available + balance wallet .reserved ↔
      ¬OnHalfCent (balance wallet .available) (balance wallet .reserved) amount := by
  have hbelow := (taken_bounds h.small).2.2
  have hpos := halfUlp_pos (ofNumeric (balance wallet .available) + negate amount)
  have hpos' := halfUlp_pos (ofNumeric (balance wallet .reserved) + amount)
  rw [h.available, h.reserved]
  constructor
  · rintro hsum ⟨hadded, htaken⟩
    rw [if_pos hadded, if_pos htaken] at hsum
    linarith
  · intro hnot
    split <;> split <;> rename_i htaken hadded
    · exact absurd ⟨hadded, htaken⟩ hnot
    · linarith
    · linarith
    · exact absurd (hbelow (by linarith)) (by linarith)

/-- Where they do, both moved by what the withdrawal is stored with. -/
theorem Reserved.moved (h : Reserved wallet wallet' amount) (hamount : 0 < amount)
    (hnot : ¬OnHalfCent (balance wallet .available) (balance wallet .reserved) amount) :
    balance wallet' .available = balance wallet .available - toNumeric amount ∧
      balance wallet' .reserved = balance wallet .reserved + toNumeric amount := by
  have hsum := h.sum_iff.mpr hnot
  have hbelow := (taken_bounds h.small).2.2
  have hpos := halfUlp_pos (ofNumeric (balance wallet .available) + negate amount)
  have hpos' := halfUlp_pos (ofNumeric (balance wallet .reserved) + amount)
  have hstored := toNumeric_amount hamount.le
  have hreserved : balance wallet' .reserved = balance wallet .reserved + toNumeric amount := by
    rw [h.reserved, hstored, ← add_assoc]
    congr 1
    refine if_congr ⟨fun hadded => ?_, fun hhalf => by linarith⟩ rfl rfl
    by_contra hhalf
    exact hnot ⟨hadded, by linarith [hbelow (by linarith)]⟩
  exact ⟨by linarith, hreserved⟩

theorem one_le_toNumeric (hamount : 0 < amount) : 0 < toNumeric amount ↔ 1 / 200 ≤ amount := by
  rw [toNumeric, roundHalfUp, if_pos (by positivity), ← Int.add_one_le_iff, Int.le_floor]
  push_cast
  constructor <;> intro h <;> linarith

/-- Cents that were moved to the reserve are released as they came. -/
theorem released_of_moved {c : Numeric} (hvalid : rowValid .tenantWallets wallet = true)
    (hvalid' : rowValid .tenantWallets wallet' = true) (hc : 0 < c)
    (havailable : balance wallet' .available = balance wallet .available - c)
    (hreserved : balance wallet' .reserved = balance wallet .reserved + c)
    (hnonneg : 0 ≤ balance wallet' .available) (hwallet : 0 ≤ balance wallet .reserved) :
    (released (ofNumeric c) wallet').isSome = true := by
  have hroom := (abs_lt.mp (Numeric.fits_iff.mp (fits_of_rowValid hvalid .available))).2
  exact movedTwice_isSome (by decide) hvalid' hnonneg hc (by linarith) (by linarith)

theorem released_balances {c : Numeric} {final : TenantWallet}
    (hvalid' : rowValid .tenantWallets wallet' = true) (hc : |c| < 10 ^ 15)
    (h : released (ofNumeric c) wallet' = some final) :
    balance final .available = balance wallet' .available + c ∧
      balance final .reserved = balance wallet' .reserved - c := by
  have hmoved := movedTwice_cents hvalid' hc h
  exact ⟨by simpa using hmoved .available, by simpa using hmoved .reserved⟩

/-- A release is refused where it takes the reserve below zero. -/
theorem released_nonneg {c : Numeric} {final : TenantWallet}
    (hvalid' : rowValid .tenantWallets wallet' = true) (hc : |c| < 10 ^ 15)
    (h : released (ofNumeric c) wallet' = some final) : 0 ≤ balance wallet' .reserved - c := by
  obtain ⟨middle, hfirst, -⟩ := movedTwice_eq_some h
  rw [negate_ofNumeric (hc.trans (by norm_num))] at hfirst
  have hdebit := (moved_eq_some hfirst).1
  rw [movedValue_cents (fits_of_rowValid hvalid' _) (by rwa [abs_neg]), zero_le_ofNumeric] at hdebit
  exact hdebit

/-! ## Over the programs -/

/-- The sum is unchanged, and releasing what the withdrawal is stored with puts both
balances back. -/
structure Conserved (outside : Outside) (tenantId : ℕ) (amount : Decimal)
    (wallet wallet' : TenantWallet) (state' : State schema Request HttpResult) : Prop where
  sum : balance wallet' .available + balance wallet' .reserved =
    balance wallet .available + balance wallet .reserved
  restored : ∃ final state'',
    run (exec outside) (releaseReservation tenantId (ofNumeric (toNumeric amount))) state' =
        (.ok final, state'') ∧
      balance final .available = balance wallet .available ∧
      balance final .reserved = balance wallet .reserved

variable {outside : Outside} {state state' : State schema Request HttpResult} {tenantId : ℕ}

/-- A reservation that is not refused rewrites the tenant's wallet. -/
theorem reserved_of_run
    (h : run (exec outside) (reserveForWithdrawal tenantId amount) state = (.ok wallet', state')) :
    0 < amount ∧ ∃ wallet ∈ state.db.rows .tenantWallets, wallet.tenantId = tenantId ∧
      reserved amount wallet = some wallet' ∧ wallet' ∈ state'.db.rows .tenantWallets := by
  have hamount : 0 < amount := by
    by_contra hneg
    rw [reserveForWithdrawal, run_require_bind, if_neg hneg] at h
    cases h
  have halways : Always (fun _ => false)
      (fun wallet' (world' : PlatformWorld) => ∃ wallet ∈ state.db.rows .tenantWallets,
        wallet.tenantId = tenantId ∧ reserved amount wallet = some wallet' ∧
          wallet' ∈ world'.db.rows .tenantWallets)
      (fun _ _ => True) (reserveForWithdrawal tenantId amount) state.toWorld :=
    always_reserveForWithdrawal rfl
      (fun wallet hwallet htenant wallet' db hreserved hreplaced =>
        ⟨wallet, hwallet, htenant, hreserved, hreplaced.mem hwallet (movedTwice_id hreserved).symm⟩)
      fun _ _ => trivial
  have hran := halways.run outside
  rw [h] at hran
  exact ⟨hamount, hran⟩

/-- What a release returns, and that it is only refused where a move is. -/
theorem released_run {c : Numeric} (hwallet : wallet ∈ state.db.rows .tenantWallets)
    (htenant : wallet.tenantId = tenantId) :
    (∀ final state', run (exec outside) (releaseReservation tenantId (ofNumeric c)) state =
        (.ok final, state') → 0 < c ∧ released (ofNumeric c) wallet = some final) ∧
      (0 < c → (released (ofNumeric c) wallet).isSome = true → ∃ final state',
        run (exec outside) (releaseReservation tenantId (ofNumeric c)) state =
          (.ok final, state')) := by
  have halways : Always (fun _ => false)
      (fun final (_ : PlatformWorld) => released (ofNumeric c) wallet = some final)
      (fun _ _ => ¬Movable released state.db tenantId (ofNumeric c))
      (releaseReservation tenantId (ofNumeric c)) state.toWorld :=
    always_releaseReservation rfl
      (fun other hother hothertenant final db hreleased _ => by
        rwa [wallet_unique state.db hwallet hother (htenant.trans hothertenant.symm)])
      fun hnot _ _ => hnot
  have hran := halways.run outside
  constructor
  · intro final state' h
    rw [h] at hran
    refine ⟨?_, hran⟩
    by_contra hneg
    rw [releaseReservation, run_require_bind, if_neg (by simpa using hneg)] at h
    cases h
  · intro hc hsome
    cases hrun : run (exec outside) (releaseReservation tenantId (ofNumeric c)) state with
    | mk outcome state' =>
      rw [hrun] at hran
      cases outcome with
      | ok final => exact ⟨final, state', rfl⟩
      | error e =>
        exact absurd ⟨zero_lt_ofNumeric.mpr hc, wallet, hwallet, htenant, hsome⟩ hran

/-- A reservation that is not refused is conserved exactly where the reserve was not
negative and the amount is stored as a cent or more and is not on a half cent. -/
theorem conserved_iff
    (h : run (exec outside) (reserveForWithdrawal tenantId amount) state = (.ok wallet', state')) :
    ∃ wallet ∈ state.db.rows .tenantWallets, wallet.tenantId = tenantId ∧
      (Conserved outside tenantId amount wallet wallet' state' ↔
        0 ≤ balance wallet .reserved ∧ 1 / 200 ≤ amount ∧
          ¬OnHalfCent (balance wallet .available) (balance wallet .reserved) amount) := by
  obtain ⟨hamount, wallet, hwallet, htenant, hreserved, hwallet'⟩ := reserved_of_run h
  have hvalid := state.db.valid .tenantWallets wallet hwallet
  have hvalid' := movedTwice_valid hreserved
  have hbalances := reserved_balances hvalid hamount hreserved
  obtain ⟨hreleased, hreleases⟩ := @released_run wallet' outside state' tenantId
    (toNumeric amount) hwallet' ((movedTwice_tenantId hreserved).trans htenant)
  have hsmall : ¬OnHalfCent (balance wallet .available) (balance wallet .reserved) amount →
      |toNumeric amount| < 10 ^ 15 := by
    intro hnot
    have hstored : 0 ≤ toNumeric amount := roundHalfUp_nonneg (by linarith)
    have havailable := (hbalances.moved hamount hnot).1
    have hroom := (abs_lt.mp (Numeric.fits_iff.mp (fits_of_rowValid hvalid .available))).2
    rw [abs_of_nonneg hstored]
    linarith [hbalances.nonneg]
  refine ⟨wallet, hwallet, htenant, ?_, ?_⟩
  · intro hconserved
    obtain ⟨final, state'', hrun, havailable, hreserve⟩ := hconserved.restored
    obtain ⟨hpositive, hmoved⟩ := hreleased final state'' hrun
    have hnot := hbalances.sum_iff.mp hconserved.sum
    have hnonneg := released_nonneg hvalid' (hsmall hnot) hmoved
    rw [(hbalances.moved hamount hnot).2] at hnonneg
    exact ⟨by linarith, (one_le_toNumeric hamount).mp hpositive, hnot⟩
  · rintro ⟨hnonneg, hcent, hnot⟩
    have hpositive := (one_le_toNumeric hamount).mpr hcent
    obtain ⟨havailable, hreserve⟩ := hbalances.moved hamount hnot
    obtain ⟨final, state'', hrun⟩ := hreleases hpositive
      (released_of_moved hvalid hvalid' hpositive havailable hreserve hbalances.nonneg hnonneg)
    obtain ⟨hfinal, hfinal'⟩ :=
      released_balances hvalid' (hsmall hnot) (hreleased final state'' hrun).2
    exact ⟨hbalances.sum_iff.mpr hnot, final, state'', hrun, by linarith, by linarith⟩

/-- 5000 TZS are not on a half cent. -/
theorem conserved_whole : ∃ wallet' state',
    run (exec (answering [])) (reserveForWithdrawal 1 5000) ⟨⟨openingDb, []⟩, 0⟩ =
        (.ok wallet', state') ∧
      ∃ wallet ∈ openingDb.rows .tenantWallets, wallet.tenantId = 1 ∧
        Conserved (answering []) 1 5000 wallet wallet' state' := by
  have hran : (run (exec (answering [])) (reserveForWithdrawal 1 5000)
      ⟨⟨openingDb, []⟩, 0⟩).1.toOption.isSome = true := by decide +kernel
  cases hrun : run (exec (answering [])) (reserveForWithdrawal 1 5000)
      ⟨⟨openingDb, []⟩, 0⟩ with
  | mk outcome state' =>
    rw [hrun] at hran
    cases outcome with
    | error e => cases hran
    | ok wallet' =>
      obtain ⟨wallet, hwallet, htenant, hconserved⟩ := conserved_iff hrun
      refine ⟨wallet', state', rfl, wallet, hwallet, htenant, hconserved.mpr ?_⟩
      obtain rfl := List.mem_singleton.mp hwallet
      refine ⟨by decide, by norm_num, ?_⟩
      have hcents : (5000 : Decimal) = ofNumeric 500000 := by norm_num [ofNumeric]
      rw [hcents]
      exact not_onHalfCent (by decide)

/-- Of 10000 TZS, 1000.005 leave 9000.00 and reserve 1000.01. -/
theorem half_cent_not_conserved : ¬∀ (outside : Outside) (tenantId : ℕ) (amount : Decimal)
    (state state' : State schema Request HttpResult) (wallet' : TenantWallet), 0 < amount →
    run (exec outside) (reserveForWithdrawal tenantId amount) state = (.ok wallet', state') →
      ∃ wallet ∈ state.db.rows .tenantWallets, wallet.tenantId = tenantId ∧
        Conserved outside tenantId amount wallet wallet' state' := by
  intro hclaim
  have hran : ((run (exec (answering [])) (reserveForWithdrawal 1 (1000005 / 1000))
      ⟨⟨openingDb, []⟩, 0⟩).1.toOption.map fun wallet' =>
        balance wallet' .available + balance wallet' .reserved) = some 1000001 := by
    decide +kernel
  cases hrun : run (exec (answering [])) (reserveForWithdrawal 1 (1000005 / 1000))
      ⟨⟨openingDb, []⟩, 0⟩ with
  | mk outcome state' =>
    rw [hrun] at hran
    cases outcome with
    | error e => cases hran
    | ok wallet' =>
      obtain ⟨wallet, hwallet, -, hconserved⟩ := hclaim _ _ _ _ _ _ (by norm_num) hrun
      obtain rfl := List.mem_singleton.mp hwallet
      have hgrown : balance wallet' .available + balance wallet' .reserved = 1000001 :=
        Option.some.inj hran
      have hsum := hconserved.sum
      rw [hgrown] at hsum
      exact absurd hsum (by decide)

end InfinityRadius.Services.WalletService
