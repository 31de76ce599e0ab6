import InfinityRadius.Core.Amounts

/-!
# Half cents

An amount is rounded twice on its way into a column: to 28 digits by the arithmetic and to
two decimals by the column.  Both are compared with the half cents, which a number of 28
digits hits exactly.
-/

namespace InfinityRadius.Amounts

/-- A tie goes to the even neighbour. -/
theorem le_roundHalfEven_iff {x : ℚ} {n : ℤ} (hn : Even n) :
    n ≤ roundHalfEven x ↔ (n : ℚ) - 1 / 2 ≤ x := by
  have hfloor := Int.floor_le x
  have hlt := Int.lt_floor_add_one x
  constructor
  · intro h
    have hcast := (Int.cast_le (R := ℚ)).mpr h
    unfold roundHalfEven at hcast
    split_ifs at hcast <;> push_cast at hcast <;> linarith
  · intro h
    have hle : n - 1 ≤ ⌊x⌋ := Int.le_floor.mpr (by push_cast; linarith)
    rcases hle.eq_or_lt with heq | hgt
    · have hcast : (⌊x⌋ : ℚ) = n - 1 := by
        rw [← heq]
        push_cast
        ring
      have hodd : ⌊x⌋ % 2 ≠ 0 := by
        obtain ⟨m, rfl⟩ := hn
        omega
      unfold roundHalfEven
      rw [if_neg (by linarith), if_neg hodd]
      split <;> omega
    · unfold roundHalfEven
      split_ifs <;> omega

theorem roundHalfEven_le_iff {x : ℚ} {n : ℤ} (hn : Even n) :
    roundHalfEven x ≤ n ↔ x ≤ (n : ℚ) + 1 / 2 := by
  have hfloor := Int.floor_le x
  have hlt := Int.lt_floor_add_one x
  constructor
  · intro h
    have hcast := (Int.cast_le (R := ℚ)).mpr h
    unfold roundHalfEven at hcast
    split_ifs at hcast <;> push_cast at hcast <;> linarith
  · intro h
    have hle : ⌊x⌋ ≤ n := by
      have hstrict : (⌊x⌋ : ℚ) < (n + 1 : ℤ) := by
        push_cast
        linarith
      exact Int.lt_add_one_iff.mp (Int.cast_lt.mp hstrict)
    rcases hle.eq_or_lt with heq | hgt
    · have hcast : (⌊x⌋ : ℚ) = n := by rw [heq]
      have heven : ⌊x⌋ % 2 = 0 := by
        obtain ⟨m, rfl⟩ := hn
        omega
      unfold roundHalfEven
      rw [if_neg (c := 1 / 2 < x - ⌊x⌋) (by linarith), if_pos heven]
      split <;> omega
    · unfold roundHalfEven
      split_ifs <;> omega

theorem roundHalfEven_neg (x : ℚ) : roundHalfEven (-x) = -roundHalfEven x := by
  have hfloor := Int.floor_le x
  have hlt := Int.lt_floor_add_one x
  rcases hfloor.eq_or_lt with heq | hgt
  · rw [← heq, ← Int.cast_neg, roundHalfEven_intCast, roundHalfEven_intCast]
  · have hneg : ⌊-x⌋ = -⌊x⌋ - 1 := by
      rw [Int.floor_eq_iff]
      push_cast
      constructor <;> linarith
    unfold roundHalfEven
    rw [hneg]
    push_cast
    split_ifs <;> first | omega | linarith

/-! ## Against half cents -/

/-- Half a unit in the last of the 28 digits of a value. -/
def halfUlp (x : ℚ) : ℚ := 10 ^ (Int.log 10 |x| - 27) / 2

theorem halfUlp_pos (x : ℚ) : 0 < halfUlp x := half_pos (zpow_pos (by norm_num) _)

theorem log_lt {x : ℚ} (hx : |x| < 10 ^ 23) : Int.log 10 |x| < 23 := by
  rcases (abs_nonneg x).eq_or_lt with hzero | hpos
  · rw [← hzero, Int.log_zero_right]
    norm_num
  · have hcast : |x| < ((10 : ℕ) : ℚ) ^ (23 : ℤ) := by exact_mod_cast hx
    exact (Int.lt_zpow_iff_log_lt (by norm_num) hpos).mp hcast

theorem halfUlp_lt {x : ℚ} (hx : |x| < 10 ^ 23) : halfUlp x < 1 / 200 := by
  have hlog := log_lt hx
  have hulp : (10 : ℚ) ^ (Int.log 10 |x| - 27) ≤ 10 ^ (-5 : ℤ) :=
    zpow_le_zpow_right₀ (by norm_num) (by omega)
  calc halfUlp x ≤ (10 : ℚ) ^ (-5 : ℤ) / 2 := div_le_div_of_nonneg_right hulp (by norm_num)
    _ < 1 / 200 := by norm_num

theorem context_eq (x : ℚ) :
    context x = roundHalfEven (x / (2 * halfUlp x)) * (2 * halfUlp x) := by
  have hulp : 2 * halfUlp x = 10 ^ (Int.log 10 |x| - 27) := mul_div_cancel₀ _ two_ne_zero
  rw [hulp, context]
  split
  · rename_i hzero
    rw [hzero, zero_div, ← Int.cast_zero, roundHalfEven_intCast, Int.cast_zero, zero_mul]
  · rfl

/-- Rounding to 28 digits does not see the sign. -/
theorem context_neg_eq (x : ℚ) : context (-x) = -context x := by
  rw [context_eq, context_eq, halfUlp, abs_neg, ← halfUlp, neg_div, roundHalfEven_neg]
  push_cast
  exact neg_mul _ _

/-- A half cent is an even number of units. -/
theorem half_cent_units {x : ℚ} (hx : |x| < 10 ^ 23) (n : ℤ) :
    ∃ m : ℤ, Even m ∧ (n : ℚ) / 200 = m * (2 * halfUlp x) := by
  have hlog := log_lt hx
  obtain ⟨d, hd⟩ : ∃ d : ℕ, (d : ℤ) + 1 = 24 - Int.log 10 |x| :=
    ⟨(23 - Int.log 10 |x|).toNat, by omega⟩
  refine ⟨n * 5 * 10 ^ d * 10, ⟨n * 5 * 10 ^ d * 5, by ring⟩, ?_⟩
  have hexp : (10 : ℚ) ^ d * 10 * 10 ^ (Int.log 10 |x| - 27) = 1 / 1000 := by
    rw [← zpow_natCast, ← zpow_add_one₀ (by norm_num), ← zpow_add₀ (by norm_num), hd]
    norm_num
  rw [halfUlp, mul_div_cancel₀ _ two_ne_zero]
  push_cast
  calc (n : ℚ) / 200 = n * 5 * (1 / 1000) := by ring
    _ = n * 5 * 10 ^ d * 10 * 10 ^ (Int.log 10 |x| - 27) := by
      rw [← hexp]
      ring

/-- The result reaches a half cent where the value does, up to half a unit. -/
theorem le_context_iff {x : ℚ} (hx : |x| < 10 ^ 23) (n : ℤ) :
    (n : ℚ) / 200 ≤ context x ↔ (n : ℚ) / 200 - halfUlp x ≤ x := by
  obtain ⟨m, heven, hunits⟩ := half_cent_units hx n
  have hpos : 0 < 2 * halfUlp x := mul_pos two_pos (halfUlp_pos x)
  rw [context_eq, hunits, mul_le_mul_iff_left₀ hpos, Int.cast_le, le_roundHalfEven_iff heven,
    le_div_iff₀ hpos]
  constructor <;> intro h <;> linarith

theorem context_le_iff {x : ℚ} (hx : |x| < 10 ^ 23) (n : ℤ) :
    context x ≤ (n : ℚ) / 200 ↔ x ≤ (n : ℚ) / 200 + halfUlp x := by
  obtain ⟨m, heven, hunits⟩ := half_cent_units hx n
  have hpos : 0 < 2 * halfUlp x := mul_pos two_pos (halfUlp_pos x)
  rw [context_eq, hunits, mul_le_mul_iff_left₀ hpos, Int.cast_le, roundHalfEven_le_iff heven,
    div_le_iff₀ hpos]
  constructor <;> intro h <;> linarith

/-- What the column stores of a result that is not negative. -/
theorem le_toNumeric_context_iff {x : ℚ} (hx : |x| < 10 ^ 23) (hnonneg : 0 ≤ context x) (n : ℤ) :
    n ≤ toNumeric (context x) ↔ ((2 * n - 1 : ℤ) : ℚ) / 200 - halfUlp x ≤ x := by
  rw [← le_context_iff hx, toNumeric, roundHalfUp, if_pos (mul_nonneg (by norm_num) hnonneg),
    Int.le_floor]
  push_cast
  constructor <;> intro h <;> linarith

/-- A number one of whose two values is above a mark. -/
theorem eq_add_ite {n low : ℤ} {mark : Prop} [Decidable mark] (hlow : low ≤ n)
    (hhigh : ¬low + 2 ≤ n) (hmark : low + 1 ≤ n ↔ mark) : n = low + if mark then 1 else 0 := by
  split
  · have hreached := hmark.mpr ‹_›
    omega
  · have hmissed := mt hmark.mp ‹_›
    omega

end InfinityRadius.Amounts
