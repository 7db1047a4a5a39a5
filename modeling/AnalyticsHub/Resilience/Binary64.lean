import Mathlib.Data.Rat.Floor

set_option autoImplicit false

/- The f64 arithmetic of the backoff in resilience/retry.rs: a finite binary64 value, the
   conversion of an integer to f64, the product rounded to nearest with ties to even, and the
   saturating cast back to u64. A value is a sign and a significand of at most 53 bits scaled
   by a power of two. The exponent is not bounded: a product past f64's range, infinite in the
   code, is a huge finite value here, and the saturating cast and max_delay cap the two alike.
   NaN and the infinities are left out. -/
namespace AnalyticsHub.Resilience

-- n / d to the nearest natural number, ties to the even one.
def roundHalfEven (n d : Nat) : Nat :=
  if 2 * (n % d) < d then n / d
  else if d < 2 * (n % d) then n / d + 1
  else if n / d % 2 = 0 then n / d else n / d + 1

theorem round_half_even_ge (n d : Nat) : n / d ≤ roundHalfEven n d := by
  unfold roundHalfEven
  split_ifs <;> omega

theorem round_half_even_le (n d : Nat) : roundHalfEven n d ≤ n / d + 1 := by
  unfold roundHalfEven
  split_ifs <;> omega

-- The number of binary digits of n, halving at most fuel times.
def bitsWithin : Nat → Nat → Nat
  | 0, _ => 0
  | fuel + 1, n => if n = 0 then 0 else bitsWithin fuel (n / 2) + 1

def bitLength (n : Nat) : Nat := bitsWithin n n

theorem bits_within_bounds (fuel n : Nat) (enough : n ≤ fuel) (nonzero : n ≠ 0) :
    2 ^ bitsWithin fuel n ≤ 2 * n ∧ n < 2 ^ bitsWithin fuel n := by
  induction fuel generalizing n with
  | zero => omega
  | succ fuel ih =>
      rw [bitsWithin, if_neg nonzero, pow_succ]
      by_cases last : n / 2 = 0
      · have empty : bitsWithin fuel (n / 2) = 0 := by rw [last]; cases fuel <;> rfl
        rw [empty]
        omega
      · obtain ⟨lower, upper⟩ := ih (n / 2) (by omega) last
        omega

-- n rounded to 53 significant bits: the significand and the power of two that scales it.
def roundSignificand (n : Nat) : Nat × Nat :=
  if n < 2 ^ 53 then (n, 0) else (roundHalfEven n (2 ^ (bitLength n - 53)), bitLength n - 53)

theorem round_significand_of_lt {n : Nat} (small : n < 2 ^ 53) : roundSignificand n = (n, 0) :=
  if_pos small

theorem binade_bounds {n : Nat} (large : 2 ^ 53 ≤ n) :
    2 ^ 52 * 2 ^ (bitLength n - 53) ≤ n ∧ n < 2 ^ 53 * 2 ^ (bitLength n - 53) := by
  obtain ⟨lower, upper⟩ : 2 ^ bitLength n ≤ 2 * n ∧ n < 2 ^ bitLength n :=
    bits_within_bounds n n le_rfl (by omega)
  have wide : 53 ≤ bitLength n := by
    by_contra narrow
    have := Nat.pow_le_pow_right (show 0 < 2 by decide) (show bitLength n ≤ 52 by omega)
    omega
  rw [← Nat.add_sub_cancel' wide, Nat.pow_add] at lower upper
  omega

theorem round_significand_bounded (n : Nat) : (roundSignificand n).1 ≤ 2 ^ 53 := by
  unfold roundSignificand
  split_ifs with small
  · exact Nat.le_of_lt small
  · have quotient : n / 2 ^ (bitLength n - 53) < 2 ^ 53 :=
      (Nat.div_lt_iff_lt_mul (Nat.two_pow_pos _)).mpr (binade_bounds (Nat.le_of_not_lt small)).2
    exact (round_half_even_le _ _).trans quotient

theorem le_round_significand (n m q : Nat) (fits : m ≤ 2 ^ 53) (below : m * 2 ^ q ≤ n) :
    m * 2 ^ q ≤ (roundSignificand n).1 * 2 ^ (roundSignificand n).2 := by
  unfold roundSignificand
  split_ifs with small
  · simpa using below
  · have lower := (binade_bounds (Nat.le_of_not_lt small)).1
    generalize bitLength n - 53 = s at lower
    have truncated : n / 2 ^ s * 2 ^ s ≤ roundHalfEven n (2 ^ s) * 2 ^ s :=
      Nat.mul_le_mul_right _ (round_half_even_ge _ _)
    refine le_trans ?_ truncated
    -- m * 2^q is a multiple of the ulp 2^s, or lies below the binade's least value 2^52 * 2^s
    by_cases coarse : s ≤ q
    · have split : m * 2 ^ q = m * 2 ^ (q - s) * 2 ^ s := by
        rw [Nat.mul_assoc, ← Nat.pow_add, Nat.sub_add_cancel coarse]
      rw [split] at below ⊢
      exact Nat.mul_le_mul_right _ ((Nat.le_div_iff_mul_le (Nat.two_pow_pos _)).mpr below)
    · calc m * 2 ^ q
          ≤ 2 ^ 53 * 2 ^ (s - 1) := Nat.mul_le_mul fits (Nat.pow_le_pow_right (by decide) (by omega))
        _ = 2 ^ 52 * 2 ^ s := by rw [← Nat.pow_add, ← Nat.pow_add]; congr 1; omega
        _ ≤ n / 2 ^ s * 2 ^ s :=
            Nat.mul_le_mul_right _ ((Nat.le_div_iff_mul_le (Nat.two_pow_pos _)).mpr lower)

/-- A finite f64: (-1)^negative · significand · 2^exponent. -/
structure F64 where
  negative : Bool
  significand : Nat
  exponent : Int
  bounded : significand ≤ 2 ^ 53
deriving DecidableEq

namespace F64

def toRat (x : F64) : ℚ := (if x.negative then -1 else 1) * x.significand * 2 ^ x.exponent

-- An integer as f64 (u128 as f64 in the code): rounded to nearest.
def ofNat (n : Nat) : F64 :=
  ⟨false, (roundSignificand n).1, (roundSignificand n).2, round_significand_bounded n⟩

instance (n : Nat) : OfNat F64 n := ⟨ofNat n⟩

-- The product, rounded to nearest.
def mul (x y : F64) : F64 :=
  ⟨x.negative != y.negative, (roundSignificand (x.significand * y.significand)).1,
    x.exponent + y.exponent + (roundSignificand (x.significand * y.significand)).2,
    round_significand_bounded _⟩

instance : Mul F64 := ⟨mul⟩

-- as u64: toward zero, saturating at both ends.
def toU64 (x : F64) : Nat :=
  if x.negative then 0
  else min (if 0 ≤ x.exponent then x.significand * 2 ^ x.exponent.toNat
    else x.significand / 2 ^ (-x.exponent).toNat) (2 ^ 64 - 1)

theorem of_nat_of_lt {n : Nat} (small : n < 2 ^ 53) :
    ofNat n = ⟨false, n, 0, Nat.le_of_lt small⟩ := by
  simp only [ofNat, round_significand_of_lt small, Nat.cast_zero]

theorem to_u64_eq (x : F64) (nonnegative : x.negative = false) :
    x.toU64 = min ⌊x.toRat⌋₊ (2 ^ 64 - 1) := by
  simp only [toU64, toRat, nonnegative, Bool.false_eq_true, if_false, one_mul]
  congr 1
  split_ifs with sign
  · obtain ⟨k, exponent⟩ := Int.eq_ofNat_of_zero_le sign
    rw [exponent, Int.toNat_ofNat, zpow_natCast,
      show (x.significand : ℚ) * 2 ^ k = ((x.significand * 2 ^ k : Nat) : ℚ) by push_cast; rfl,
      Nat.floor_natCast]
  · obtain ⟨k, exponent⟩ := Int.exists_eq_neg_ofNat (by omega : x.exponent ≤ 0)
    rw [exponent, neg_neg, Int.toNat_ofNat, zpow_neg, zpow_natCast, ← div_eq_mul_inv,
      show (x.significand : ℚ) / 2 ^ k = ((x.significand : Nat) : ℚ) / ((2 ^ k : Nat) : ℚ) by
        push_cast; rfl,
      Nat.floor_div_eq_div]

/-- A 53-bit integer times an f64 of at least 1, cast back to u64, is at least the integer. -/
theorem le_to_u64_mul (c : Nat) (small : c < 2 ^ 53) (y : F64) (growing : 1 ≤ y.toRat) :
    c ≤ (ofNat c * y).toU64 := by
  obtain ⟨negative, M, E, bounded⟩ := y
  have positive : negative = false := by
    cases negative
    · rfl
    · simp only [toRat, if_true] at growing
      have : 0 ≤ (M : ℚ) * 2 ^ E := mul_nonneg (Nat.cast_nonneg _) (zpow_nonneg zero_le_two _)
      linarith
  subst positive
  simp only [toRat, Bool.false_eq_true, if_false, one_mul] at growing
  generalize rounded : roundSignificand (c * M) = r
  have product : ofNat c * ⟨false, M, E, bounded⟩ =
      ⟨false, r.1, E + r.2, rounded ▸ round_significand_bounded _⟩ := by
    show mul _ _ = _
    simp only [mul, of_nat_of_lt small, rounded, zero_add]
    rfl
  rw [product, to_u64_eq _ rfl, le_min_iff]
  refine ⟨Nat.le_floor ?_, by omega⟩
  have value : (⟨false, r.1, E + r.2, rounded ▸ round_significand_bounded _⟩ : F64).toRat =
      ((r.1 * 2 ^ r.2 : Nat) : ℚ) * 2 ^ E := by
    simp only [toRat, Bool.false_eq_true, if_false, one_mul, Nat.cast_mul, Nat.cast_pow,
      Nat.cast_ofNat]
    rw [zpow_add₀ two_ne_zero, zpow_natCast]
    ring
  rw [value]
  -- the exact product c · M · 2^E is at least c; round it at the exponent E
  obtain ⟨k, rfl | rfl⟩ := Int.eq_nat_or_neg E
  · have someBits : 1 ≤ M := by
      by_contra none
      simp only [show M = 0 by omega, Nat.cast_zero, zero_mul] at growing
      linarith
    have kept := le_round_significand (c * M) c 0 small.le (by simpa using Nat.le_mul_of_pos_right c someBits)
    rw [rounded, pow_zero, mul_one] at kept
    calc (c : ℚ) ≤ ((r.1 * 2 ^ r.2 : Nat) : ℚ) := by exact_mod_cast kept
      _ ≤ ((r.1 * 2 ^ r.2 : Nat) : ℚ) * 2 ^ (k : Int) := by
        rw [zpow_natCast]
        exact le_mul_of_one_le_right (Nat.cast_nonneg _) (one_le_pow₀ one_le_two)
  · have enough : 2 ^ k ≤ M := by
      rw [zpow_neg, zpow_natCast, ← div_eq_mul_inv, one_le_div (by positivity)] at growing
      exact_mod_cast growing
    have kept := le_round_significand (c * M) c k small.le (Nat.mul_le_mul_left c enough)
    rw [rounded] at kept
    rw [zpow_neg, zpow_natCast, ← div_eq_mul_inv, le_div_iff₀ (by positivity)]
    exact_mod_cast kept

end F64

end AnalyticsHub.Resilience
