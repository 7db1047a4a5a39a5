import Mathlib.Data.Real.Sqrt

set_option autoImplicit false

/- f64 arithmetic is modelled exactly: values are rationals. The one irrational quantity
   the analytics compute is a square root (the standard deviation, and the z-score that
   divides by it), kept as the rational it is the root of; the lemmas below say what each
   operation means over the reals. -/
namespace AnalyticsHub.Analytics

/-- A non-negative real number, given as the square root of a rational. -/
structure Surd where
  square : ℚ
deriving DecidableEq, Repr

namespace Surd

def sqrt (q : ℚ) : Surd := ⟨q⟩

-- A non-negative rational, as the root of its square.
def ofRat (q : ℚ) : Surd := ⟨q * q⟩

def max (x y : Surd) : Surd := ⟨Max.max x.square y.square⟩

def div (x y : Surd) : Surd := ⟨x.square / y.square⟩

-- x > r
def gt (x : Surd) (r : ℚ) : Prop := r < 0 ∨ r * r < x.square

instance (x : Surd) (r : ℚ) : Decidable (x.gt r) := inferInstanceAs (Decidable (_ ∨ _))

theorem of_rat_real (q : ℚ) : Real.sqrt ((ofRat q).square : ℝ) = |(q : ℝ)| := by
  simp [ofRat, Real.sqrt_mul_self_eq_abs]

theorem max_real (x y : Surd) :
    Real.sqrt ((max x y).square : ℝ) = Max.max (Real.sqrt x.square) (Real.sqrt y.square) := by
  rcases le_total x.square y.square with order | order
  · simp [max, order, Real.sqrt_le_sqrt (Rat.cast_le.mpr order)]
  · simp [max, order, Real.sqrt_le_sqrt (Rat.cast_le.mpr order)]

theorem div_real (x y : Surd) (nonneg : 0 ≤ x.square) :
    Real.sqrt ((div x y).square : ℝ) = Real.sqrt x.square / Real.sqrt y.square := by
  simp [div, Real.sqrt_div (Rat.cast_nonneg.mpr nonneg)]

theorem gt_iff (x : Surd) (r : ℚ) :
    x.gt r ↔ (r : ℝ) < Real.sqrt x.square := by
  by_cases negative : r < 0
  · simp only [gt, negative, true_or, true_iff]
    exact lt_of_lt_of_le (Rat.cast_lt_zero.mpr negative) (Real.sqrt_nonneg _)
  · have nonnegR : (0 : ℝ) ≤ r := Rat.cast_nonneg.mpr (not_lt.mp negative)
    rw [Real.lt_sqrt nonnegR, sq, ← Rat.cast_mul, Rat.cast_lt]
    simp [gt, negative]

theorem gt_of_le (x : Surd) {r r' : ℚ} (le : r ≤ r') (above : x.gt r') : x.gt r :=
  (x.gt_iff r).mpr (lt_of_le_of_lt (Rat.cast_le.mpr le) ((x.gt_iff r').mp above))

end Surd

end AnalyticsHub.Analytics
