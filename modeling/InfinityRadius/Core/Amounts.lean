import Mathlib.Data.Int.Log
import Mathlib.Data.Rat.Floor
import Mathlib.Tactic.FieldSimp
import Mathlib.Tactic.Linarith
import Mathlib.Tactic.Positivity
import Mathlib.Tactic.Ring

/-!
# Decimal amounts

Python's `Decimal` values are rationals here, and the operations that round do
so explicitly: arithmetic keeps 28 significant digits, `quantize` keeps two
decimals, and a `NUMERIC(14,2)` column keeps two decimals of a number below
`10^12`.  Stored amounts are counted in hundredths.
-/

namespace InfinityRadius.Amounts

/-- The value of a Python `Decimal`. -/
abbrev Decimal := ℚ

/-- Rounding to an integer, ties away from zero: `ROUND_HALF_UP`, and what a
PostgreSQL `NUMERIC` column does. -/
def roundHalfUp (x : ℚ) : ℤ :=
  if 0 ≤ x then ⌊x + 1 / 2⌋ else -⌊-x + 1 / 2⌋

/-- Rounding to an integer, ties to even: the mode of the default context. -/
def roundHalfEven (x : ℚ) : ℤ :=
  if x - ⌊x⌋ < 1 / 2 then ⌊x⌋
  else if 1 / 2 < x - ⌊x⌋ then ⌊x⌋ + 1
  else if ⌊x⌋ % 2 = 0 then ⌊x⌋ else ⌊x⌋ + 1

@[simp]
theorem roundHalfUp_intCast (n : ℤ) : roundHalfUp (n : ℚ) = n := by
  unfold roundHalfUp
  split
  · rw [Int.floor_eq_iff]
    constructor <;> linarith
  · rw [neg_eq_iff_eq_neg, Int.floor_eq_iff]
    push_cast
    constructor <;> linarith

@[simp]
theorem roundHalfEven_intCast (n : ℤ) : roundHalfEven (n : ℚ) = n := by
  simp [roundHalfEven]

theorem roundHalfEven_nonneg {x : ℚ} (hx : 0 ≤ x) : 0 ≤ roundHalfEven x := by
  have hfloor : 0 ≤ ⌊x⌋ := Int.floor_nonneg.mpr hx
  unfold roundHalfEven
  split_ifs <;> omega

theorem le_roundHalfEven {x : ℚ} {n : ℤ} (h : n ≤ x) : n ≤ roundHalfEven x := by
  have hfloor : n ≤ ⌊x⌋ := Int.le_floor.mpr h
  unfold roundHalfEven
  split_ifs <;> omega

theorem roundHalfUp_nonneg {x : ℚ} (hx : 0 ≤ x) : 0 ≤ roundHalfUp x := by
  rw [roundHalfUp, if_pos hx]
  exact Int.floor_nonneg.mpr (by linarith)

/-- A value at most an integer does not round above it. -/
theorem roundHalfUp_le {x : ℚ} {n : ℤ} (hx : 0 ≤ x) (hn : x ≤ n) : roundHalfUp x ≤ n := by
  rw [roundHalfUp, if_pos hx]
  have hlt : x + 1 / 2 < (n + 1 : ℤ) := by
    push_cast
    linarith
  exact Int.lt_add_one_iff.mp (Int.floor_lt.mpr hlt)

theorem abs_roundHalfUp_sub_le (x : ℚ) : |roundHalfUp x - x| ≤ 1 / 2 := by
  unfold roundHalfUp
  split
  · have hfloor := Int.floor_le (x + 1 / 2)
    have hlt := Int.lt_floor_add_one (x + 1 / 2)
    rw [abs_le]
    constructor <;> linarith
  · have hfloor := Int.floor_le (-x + 1 / 2)
    have hlt := Int.lt_floor_add_one (-x + 1 / 2)
    push_cast
    rw [abs_le]
    constructor <;> linarith

theorem roundHalfUp_mono {x y : ℚ} (hx : 0 ≤ x) (h : x ≤ y) : roundHalfUp x ≤ roundHalfUp y := by
  rw [roundHalfUp, roundHalfUp, if_pos hx, if_pos (hx.trans h)]
  exact Int.floor_le_floor (by linarith)

/-! ## The 28-digit context -/

/-- The result of an arithmetic operation under the default context: 28
significant digits, ties to even. -/
def context (x : ℚ) : Decimal :=
  if x = 0 then 0
  else
    let ulp : ℚ := 10 ^ (Int.log 10 |x| - 27)
    roundHalfEven (x / ulp) * ulp

/-- A number of at most 28 digits is exact, wherever its point is. -/
theorem context_digits {n : ℤ} (k : ℕ) (hn : |n| < 10 ^ 28) :
    context ((n : ℚ) / 10 ^ k) = (n : ℚ) / 10 ^ k := by
  unfold context
  split
  · rename_i hzero
    rw [hzero]
  · rename_i hne
    have hpos : 0 < |(n : ℚ) / 10 ^ k| := abs_pos.mpr hne
    have hpow : (0 : ℚ) < 10 ^ k := by positivity
    have hbound : |(n : ℚ) / 10 ^ k| < ((10 : ℕ) : ℚ) ^ (28 - k : ℤ) := by
      have hcast : (|n| : ℚ) < 10 ^ 28 := by exact_mod_cast hn
      rw [abs_div, abs_of_pos hpow, div_lt_iff₀ hpow]
      calc |(n : ℚ)| < 10 ^ 28 := hcast
        _ = ((10 : ℕ) : ℚ) ^ (28 - k : ℤ) * 10 ^ k := by
          rw [← zpow_natCast (10 : ℚ) k, Nat.cast_ofNat, ← zpow_add₀ (by norm_num), sub_add_cancel]
          norm_num
    have hlog : Int.log 10 |(n : ℚ) / 10 ^ k| < 28 - k :=
      (Int.lt_zpow_iff_log_lt (by norm_num) hpos).mp hbound
    set l := Int.log 10 |(n : ℚ) / 10 ^ k| with hl
    obtain ⟨d, hd⟩ : ∃ d : ℕ, (d : ℤ) = 27 - k - l := ⟨(27 - k - l).toNat, by omega⟩
    have hulp : (10 : ℚ) ^ (l - 27) ≠ 0 := zpow_ne_zero _ (by norm_num)
    have hquot : (n : ℚ) / 10 ^ k / 10 ^ (l - 27) = ((n * 10 ^ d : ℤ) : ℚ) := by
      have hexp : (10 : ℚ) ^ d * 10 ^ (l - 27) * 10 ^ k = 1 := by
        rw [← zpow_natCast, ← zpow_natCast, ← zpow_add₀ (by norm_num), ← zpow_add₀ (by norm_num),
          hd]
        norm_num
      rw [div_eq_iff hulp, div_eq_iff hpow.ne']
      push_cast
      rw [mul_assoc, mul_assoc, ← mul_assoc (10 ^ d : ℚ), hexp, mul_one]
    simp only [hquot, roundHalfEven_intCast]
    rw [← hquot, div_mul_cancel₀ _ hulp]

/-- Amounts of two decimals are exact below `10^26`. -/
theorem context_cents {n : ℤ} (hn : |n| < 10 ^ 28) :
    context ((n : ℚ) / 100) = (n : ℚ) / 100 := by
  have h := context_digits 2 hn
  norm_num at h
  exact h

/-- Rounding to 28 digits makes no value negative. -/
theorem context_nonneg {x : ℚ} (hx : 0 ≤ x) : 0 ≤ context x := by
  unfold context
  split
  · exact le_rfl
  · have hulp : (0 : ℚ) < 10 ^ (Int.log 10 |x| - 27) := zpow_pos (by norm_num) _
    have hround := roundHalfEven_nonneg (div_nonneg hx hulp.le)
    exact mul_nonneg (by exact_mod_cast hround) hulp.le

/-- Rounding to 28 digits keeps a negative value negative. -/
theorem context_neg {x : ℚ} (hx : x < 0) : context x < 0 := by
  unfold context
  rw [if_neg hx.ne]
  set ulp : ℚ := 10 ^ (Int.log 10 |x| - 27) with hulp
  have hpos : 0 < ulp := zpow_pos (by norm_num) _
  have hlog : (10 : ℚ) ^ Int.log 10 |x| ≤ |x| := by
    exact_mod_cast Int.zpow_log_le_self (by norm_num) (abs_pos.mpr hx.ne)
  have hdigits : 10 ^ 27 * ulp ≤ -x := by
    rw [abs_of_neg hx] at hlog
    calc (10 : ℚ) ^ 27 * ulp = 10 ^ Int.log 10 |x| := by
          rw [hulp, ← zpow_natCast (10 : ℚ) 27, ← zpow_add₀ (by norm_num)]
          norm_num
      _ ≤ -x := by rwa [abs_of_neg hx]
  have hquot : x / ulp ≤ -2 := by
    rw [div_le_iff₀ hpos]
    nlinarith
  have hfloor : ⌊x / ulp⌋ ≤ -2 := Int.floor_le_iff.mpr (by push_cast; linarith)
  have hround : roundHalfEven (x / ulp) ≤ -1 := by
    unfold roundHalfEven
    split_ifs <;> omega
  have hcast : (roundHalfEven (x / ulp) : ℚ) < 0 := by exact_mod_cast (by omega)
  exact mul_neg_of_neg_of_pos hcast hpos

/-- Rounding to 28 digits does not take a value below a number of half cents. -/
theorem le_context {x : ℚ} {n : ℤ} (hn : 0 < n) (hfits : n < 10 ^ 26)
    (h : (n : ℚ) / 200 ≤ x) : (n : ℚ) / 200 ≤ context x := by
  have hpos : (0 : ℚ) < n := by exact_mod_cast hn
  have hx : 0 < x := (by positivity : (0 : ℚ) < n / 200).trans_le h
  unfold context
  rw [if_neg hx.ne', abs_of_pos hx]
  set k := Int.log 10 x with hk
  have hulp : (0 : ℚ) < 10 ^ (k - 27) := zpow_pos (by norm_num) _
  change (n : ℚ) / 200 ≤ roundHalfEven (x / 10 ^ (k - 27)) * 10 ^ (k - 27)
  rw [← div_le_iff₀ hulp]
  rcases le_or_gt k 24 with hsmall | hlarge
  · obtain ⟨d, hd⟩ : ∃ d : ℕ, (d : ℤ) = 24 - k := ⟨(24 - k).toNat, by omega⟩
    have hquot : (n : ℚ) / 200 / 10 ^ (k - 27) = ((5 * n * 10 ^ d : ℤ) : ℚ) := by
      have hexp : (10 : ℚ) ^ d * 10 ^ (k - 27) = 1 / 1000 := by
        rw [← zpow_natCast, ← zpow_add₀ (by norm_num), hd]
        norm_num
      rw [div_eq_iff hulp.ne']
      push_cast
      rw [mul_assoc, hexp]
      ring
    rw [hquot, Int.cast_le]
    refine le_roundHalfEven ?_
    rw [← hquot]
    exact div_le_div_of_nonneg_right h hulp.le
  · have hlog : (10 : ℚ) ^ k ≤ x := by
      exact_mod_cast Int.zpow_log_le_self (b := 10) (by norm_num) hx
    have hdigits : (10 : ℚ) ^ k / 10 ^ (k - 27) = ((10 ^ 27 : ℤ) : ℚ) := by
      rw [← zpow_sub₀ (by norm_num)]
      norm_num
    have hround : (10 ^ 27 : ℤ) ≤ roundHalfEven (x / 10 ^ (k - 27)) := by
      refine le_roundHalfEven ?_
      rw [← hdigits]
      exact div_le_div_of_nonneg_right hlog hulp.le
    have hbound : (n : ℚ) / 200 ≤ 10 ^ k := by
      have hcast : (n : ℚ) < 10 ^ 26 := by exact_mod_cast hfits
      calc (n : ℚ) / 200 ≤ 10 ^ (25 : ℤ) := by linarith
        _ ≤ 10 ^ k := zpow_le_zpow_right₀ (by norm_num) hlarge
    calc (n : ℚ) / 200 / 10 ^ (k - 27) ≤ 10 ^ k / 10 ^ (k - 27) :=
          div_le_div_of_nonneg_right hbound hulp.le
      _ = ((10 ^ 27 : ℤ) : ℚ) := hdigits
      _ ≤ roundHalfEven (x / 10 ^ (k - 27)) := by exact_mod_cast hround

/-- `Decimal.quantize(Decimal("0.01"), rounding=ROUND_HALF_UP)`, which raises
`InvalidOperation` where the result needs more than 28 digits. -/
def quantize (x : Decimal) : Option Decimal :=
  if |roundHalfUp (100 * x)| < 10 ^ 28 then some (roundHalfUp (100 * x) / 100) else none

/-! ## `NUMERIC(14,2)` columns -/

/-- An amount in a `NUMERIC(14,2)` column, in hundredths. -/
abbrev Numeric := ℤ

/-- What a `NUMERIC(14,2)` column stores for a value. -/
def toNumeric (x : Decimal) : Numeric := roundHalfUp (100 * x)

/-- The value read back from a `NUMERIC(14,2)` column. -/
def ofNumeric (c : Numeric) : Decimal := (c : ℚ) / 100

/-- The column overflows from `10^12` on. -/
def Numeric.fits (c : Numeric) : Bool := decide (|c| < 10 ^ 14)

theorem Numeric.fits_iff {c : Numeric} : Numeric.fits c = true ↔ |c| < 10 ^ 14 :=
  decide_eq_true_iff

@[simp]
theorem toNumeric_cents (c : ℤ) : toNumeric ((c : ℚ) / 100) = c := by
  unfold toNumeric
  rw [mul_div_cancel₀ (c : ℚ) (by norm_num : (100 : ℚ) ≠ 0), roundHalfUp_intCast]

@[simp]
theorem toNumeric_ofNumeric (c : Numeric) : toNumeric (ofNumeric c) = c :=
  toNumeric_cents c

theorem ofNumeric_add (a b : Numeric) : ofNumeric a + ofNumeric b = ofNumeric (a + b) := by
  unfold ofNumeric
  push_cast
  ring

theorem ofNumeric_neg (a : Numeric) : -ofNumeric a = ofNumeric (-a) := by
  unfold ofNumeric
  push_cast
  ring

@[simp]
theorem ofNumeric_lt_zero {a : Numeric} : ofNumeric a < 0 ↔ a < 0 := by
  unfold ofNumeric
  rw [div_lt_iff₀ (by norm_num : (0 : ℚ) < 100), zero_mul]
  exact_mod_cast Iff.rfl

@[simp]
theorem ofNumeric_le_zero {a : Numeric} : ofNumeric a ≤ 0 ↔ a ≤ 0 := by
  unfold ofNumeric
  rw [div_le_iff₀ (by norm_num : (0 : ℚ) < 100), zero_mul]
  exact_mod_cast Iff.rfl

theorem ofNumeric_injective : Function.Injective ofNumeric := fun a b h => by
  rw [← toNumeric_ofNumeric a, h, toNumeric_ofNumeric]

@[simp]
theorem zero_le_ofNumeric {a : Numeric} : 0 ≤ ofNumeric a ↔ 0 ≤ a := by
  unfold ofNumeric
  rw [le_div_iff₀ (by norm_num : (0 : ℚ) < 100), zero_mul]
  exact_mod_cast Iff.rfl

@[simp]
theorem zero_lt_ofNumeric {a : Numeric} : 0 < ofNumeric a ↔ 0 < a := by
  unfold ofNumeric
  rw [lt_div_iff₀ (by norm_num : (0 : ℚ) < 100), zero_mul]
  exact_mod_cast Iff.rfl

/-- The amount has at most two decimals. -/
def TwoDecimals (x : Decimal) : Prop := ofNumeric (toNumeric x) = x

instance (x : Decimal) : Decidable (TwoDecimals x) := inferInstanceAs (Decidable (_ = _))

theorem twoDecimals_ofNumeric (c : Numeric) : TwoDecimals (ofNumeric c) := by
  rw [TwoDecimals, toNumeric_ofNumeric]

theorem twoDecimals_of_quantize {x y : Decimal} (h : quantize x = some y) : TwoDecimals y := by
  unfold quantize at h
  split at h
  · cases h
    exact twoDecimals_ofNumeric _
  · cases h

/-- Stored amounts add without rounding. -/
theorem context_ofNumeric {c : Numeric} (hc : |c| < 10 ^ 28) :
    context (ofNumeric c) = ofNumeric c := context_cents hc

theorem half_le_of_toNumeric {x : Decimal} (hx : 0 ≤ x) :
    (toNumeric x : ℚ) - 1 / 2 ≤ 100 * x := by
  have hfloor := Int.floor_le (100 * x + 1 / 2)
  rw [toNumeric, roundHalfUp, if_pos (by positivity)]
  linarith

theorem le_toNumeric {x : Decimal} {c : Numeric} (hc : 0 < c)
    (h : (c : ℚ) - 1 / 2 ≤ 100 * x) : c ≤ toNumeric x := by
  have hcast : (1 : ℚ) ≤ c := by exact_mod_cast hc
  rw [toNumeric, roundHalfUp, if_pos (by linarith)]
  exact Int.le_floor.mpr (by linarith)

/-- A sum is stored as at least what its parts are stored as. -/
theorem add_toNumeric_le {c : Numeric} {x : Decimal} (hc : 0 ≤ c) (hfits : c < 10 ^ 14)
    (hx : 0 < toNumeric x) (hxfits : toNumeric x < 10 ^ 14) (hpos : 0 ≤ x) :
    c + toNumeric x ≤ toNumeric (context (ofNumeric c + x)) := by
  have hhalf := half_le_of_toNumeric hpos
  have hone : (1 : ℤ) ≤ toNumeric x := hx
  have hsum : ((2 * (c + toNumeric x) - 1 : ℤ) : ℚ) / 200 ≤ ofNumeric c + x := by
    rw [ofNumeric]
    push_cast
    linarith
  have hcontext := le_context (by linarith) (by linarith) hsum
  refine le_toNumeric (by linarith) ?_
  push_cast at hcontext ⊢
  linarith

end InfinityRadius.Amounts
