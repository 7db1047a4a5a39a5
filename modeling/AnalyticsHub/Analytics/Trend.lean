import AnalyticsHub.Analytics.Prediction
import Mathlib.Algebra.BigOperators.Group.Finset
import Mathlib.Algebra.Order.BigOperators.Ring.Finset
import Mathlib.Data.List.GetD
import Mathlib.Tactic.FieldSimp
import Mathlib.Tactic.Ring

set_option autoImplicit false

/- calculate_trend as least squares: the sums it builds over the history are the index sums
   of the normal equations, their determinant is n^2 (n^2 - 1) / 12, and the pair it returns
   is the one line of least squared error. -/
namespace AnalyticsHub.Analytics

namespace PredictionEngine

theorem sum_list_range (f : Nat → ℚ) (count : Nat) :
    ((List.range count).map f).sum = ∑ i ∈ Finset.range count, f i := by
  induction count with
  | zero => rfl
  | succ count ih => rw [List.range_succ, List.map_append, List.sum_append, ih, Finset.sum_range_succ]; simp

/-- The code writes its index list as a map into f64, which elaborates as the list monad's
lift of the natural indices; this is the plain map. -/
theorem index_list (count : Nat) :
    ((List.range count : List Nat) : List ℚ) = (List.range count).map (Nat.cast : Nat → ℚ) :=
  List.flatMap_pure_eq_map _ _

theorem sum_index_list (count : Nat) :
    ((List.range count).map fun i => (i : ℚ)).sum = ∑ i ∈ Finset.range count, (i : ℚ) := by
  rw [List.map_id', index_list, sum_list_range]

theorem sum_squared_index_list (count : Nat) :
    ((List.range count).map fun i => (i : ℚ) ^ 2).sum = ∑ i ∈ Finset.range count, (i : ℚ) ^ 2 := by
  rw [index_list, List.map_map, sum_list_range]; rfl

theorem sum_values (values : List ℚ) :
    values.sum = ∑ i ∈ Finset.range values.length, values.getD i 0 := by
  induction values using List.reverseRecOn with
  | nil => rfl
  | append_singleton values last ih =>
      rw [List.sum_append, ih, List.length_append, List.length_singleton, Finset.sum_range_succ,
        List.getD_append_right _ _ _ _ le_rfl, Nat.sub_self]
      congr 1
      · exact Finset.sum_congr rfl fun i listed =>
          (List.getD_append _ _ _ _ (Finset.mem_range.mp listed)).symm
      · simp

theorem sum_enum (values : List ℚ) :
    (values.enum.map fun point => (point.1 : ℚ) * point.2).sum =
      ∑ i ∈ Finset.range values.length, (i : ℚ) * values.getD i 0 := by
  induction values using List.reverseRecOn with
  | nil => rfl
  | append_singleton values last ih =>
      rw [List.enum_append, List.enumFrom_singleton, List.map_append, List.sum_append, ih,
        List.length_append, List.length_singleton, Finset.sum_range_succ,
        List.getD_append_right _ _ _ _ le_rfl, Nat.sub_self]
      congr 1
      · exact Finset.sum_congr rfl fun i listed => by
          rw [List.getD_append _ _ _ _ (Finset.mem_range.mp listed)]
      · simp

theorem sum_indices (count : Nat) :
    ∑ i ∈ Finset.range count, (i : ℚ) = count * (count - 1) / 2 := by
  induction count with
  | zero => simp
  | succ count ih => rw [Finset.sum_range_succ, ih]; push_cast; ring

theorem sum_squared_indices (count : Nat) :
    ∑ i ∈ Finset.range count, (i : ℚ) ^ 2 = count * (count - 1) * (2 * count - 1) / 6 := by
  induction count with
  | zero => simp
  | succ count ih => rw [Finset.sum_range_succ, ih]; push_cast; ring

/-- The squared error of the line `slope * k + intercept` against the history. -/
def squaredError (values : List ℚ) (line : ℚ × ℚ) : ℚ :=
  ∑ k ∈ Finset.range values.length, (values.getD k 0 - (line.1 * k + line.2)) ^ 2

theorem trend_determinant (count : Nat) :
    (count : ℚ) * (∑ i ∈ Finset.range count, (i : ℚ) ^ 2) - (∑ i ∈ Finset.range count, (i : ℚ)) ^ 2 =
      (count : ℚ) ^ 2 * ((count : ℚ) ^ 2 - 1) / 12 := by
  rw [sum_indices, sum_squared_indices]
  ring

theorem trend_determinant_pos (count : Nat) (two : 2 ≤ count) :
    0 < (count : ℚ) ^ 2 * ((count : ℚ) ^ 2 - 1) / 12 := by
  have atLeastTwo : (2 : ℚ) ≤ count := by exact_mod_cast two
  have above : (0 : ℚ) < (count : ℚ) ^ 2 - 1 := by nlinarith
  positivity

theorem calculate_trend_eq (values : List ℚ) :
    calculateTrend values =
      let n : ℚ := values.length
      let xSum := ∑ i ∈ Finset.range values.length, (i : ℚ)
      let ySum := ∑ i ∈ Finset.range values.length, values.getD i 0
      let xySum := ∑ i ∈ Finset.range values.length, (i : ℚ) * values.getD i 0
      let xSquaredSum := ∑ i ∈ Finset.range values.length, (i : ℚ) ^ 2
      let slope := (n * xySum - xSum * ySum) / (n * xSquaredSum - xSum ^ 2)
      (slope, (ySum - slope * xSum) / n) := by
  simp only [calculateTrend]
  rw [sum_index_list, sum_squared_index_list, sum_enum, sum_values]

/-- The sums of a line's residuals, and of its residuals weighted by the index. -/
theorem residual_sums (values : List ℚ) (slope intercept : ℚ) :
    ∑ k ∈ Finset.range values.length, (values.getD k 0 - (slope * k + intercept)) =
      ∑ k ∈ Finset.range values.length, values.getD k 0 -
        (slope * ∑ k ∈ Finset.range values.length, (k : ℚ) + values.length * intercept) ∧
    ∑ k ∈ Finset.range values.length, (k : ℚ) * (values.getD k 0 - (slope * k + intercept)) =
      ∑ k ∈ Finset.range values.length, (k : ℚ) * values.getD k 0 -
        (slope * ∑ k ∈ Finset.range values.length, (k : ℚ) ^ 2 +
          intercept * ∑ k ∈ Finset.range values.length, (k : ℚ)) := by
  constructor
  · rw [Finset.sum_sub_distrib, Finset.sum_add_distrib, ← Finset.mul_sum, Finset.sum_const,
      Finset.card_range, nsmul_eq_mul]
  · rw [Finset.sum_congr rfl fun (k : Nat) _ => show (k : ℚ) * (values.getD k 0 - (slope * k + intercept)) =
        k * values.getD k 0 - (slope * k ^ 2 + intercept * k) by ring,
      Finset.sum_sub_distrib, Finset.sum_add_distrib, ← Finset.mul_sum, ← Finset.mul_sum]

/-- The normal equations: the residuals of the returned line sum to zero, also weighted by the
index. -/
theorem trend_normal_equations (values : List ℚ) (two : 2 ≤ values.length) :
    ∑ k ∈ Finset.range values.length,
        (values.getD k 0 - ((calculateTrend values).1 * k + (calculateTrend values).2)) = 0 ∧
    ∑ k ∈ Finset.range values.length, (k : ℚ) *
        (values.getD k 0 - ((calculateTrend values).1 * k + (calculateTrend values).2)) = 0 := by
  obtain ⟨plain, weighted⟩ := residual_sums values (calculateTrend values).1 (calculateTrend values).2
  rw [plain, weighted, calculate_trend_eq]
  have determinant := trend_determinant values.length
  have positive := trend_determinant_pos values.length two
  have count : (values.length : ℚ) ≠ 0 := by exact_mod_cast (by omega : values.length ≠ 0)
  generalize ∑ i ∈ Finset.range values.length, (i : ℚ) = xSum at determinant ⊢
  generalize ∑ i ∈ Finset.range values.length, (i : ℚ) ^ 2 = xSquaredSum at determinant ⊢
  generalize ∑ i ∈ Finset.range values.length, values.getD i 0 = ySum
  generalize ∑ i ∈ Finset.range values.length, (i : ℚ) * values.getD i 0 = xySum
  have nonzero : (values.length : ℚ) * xSquaredSum - xSum ^ 2 ≠ 0 := by
    rw [determinant]
    exact positive.ne'
  constructor <;> field_simp <;> ring

/-- Every line's squared error is the returned line's plus the squares of their difference. -/
theorem squared_error_split (values : List ℚ) (two : 2 ≤ values.length) (line : ℚ × ℚ) :
    squaredError values line = squaredError values (calculateTrend values) +
      ∑ k ∈ Finset.range values.length,
        ((line.1 - (calculateTrend values).1) * k + (line.2 - (calculateTrend values).2)) ^ 2 := by
  obtain ⟨plain, weighted⟩ := trend_normal_equations values two
  unfold squaredError
  rw [Finset.sum_congr rfl fun (k : Nat) _ =>
    show (values.getD k 0 - (line.1 * k + line.2)) ^ 2 =
      (values.getD k 0 - ((calculateTrend values).1 * k + (calculateTrend values).2)) ^ 2 +
        ((line.1 - (calculateTrend values).1) * k + (line.2 - (calculateTrend values).2)) ^ 2 -
        2 * (line.1 - (calculateTrend values).1) * ((k : ℚ) *
          (values.getD k 0 - ((calculateTrend values).1 * k + (calculateTrend values).2))) -
        2 * (line.2 - (calculateTrend values).2) *
          (values.getD k 0 - ((calculateTrend values).1 * k + (calculateTrend values).2)) by ring,
    Finset.sum_sub_distrib, Finset.sum_sub_distrib, Finset.sum_add_distrib, ← Finset.mul_sum,
    ← Finset.mul_sum, plain, weighted]
  ring

/-- A line of the same squared error as the returned one is the returned one: its difference
vanishes at the indices 0 and 1. -/
theorem trend_unique (values : List ℚ) (two : 2 ≤ values.length) (line : ℚ × ℚ)
    (same : squaredError values line = squaredError values (calculateTrend values)) :
    line = calculateTrend values := by
  rw [squared_error_split values two line, add_right_eq_self,
    Finset.sum_eq_zero_iff_of_nonneg fun k _ => sq_nonneg _] at same
  have atZero := pow_eq_zero_iff (two_ne_zero) |>.mp (same 0 (Finset.mem_range.mpr (by omega)))
  have atOne := pow_eq_zero_iff (two_ne_zero) |>.mp (same 1 (Finset.mem_range.mpr (by omega)))
  simp only [Nat.cast_zero, mul_zero, zero_add, Nat.cast_one, mul_one] at atZero atOne
  exact Prod.ext (by linarith) (by linarith)

theorem trend_minimal (values : List ℚ) (two : 2 ≤ values.length) (line : ℚ × ℚ) :
    squaredError values (calculateTrend values) ≤ squaredError values line := by
  rw [squared_error_split values two line]
  exact le_add_of_nonneg_right (Finset.sum_nonneg fun _ _ => sq_nonneg _)

theorem squared_error_nonneg (values : List ℚ) (line : ℚ × ℚ) : 0 ≤ squaredError values line :=
  Finset.sum_nonneg fun _ _ => sq_nonneg _

/-- A history that lies on a line has no error against that line. -/
theorem squared_error_linear (slope intercept : ℚ) (count : Nat) :
    squaredError ((List.range count).map fun k : Nat => slope * k + intercept)
      (slope, intercept) = 0 :=
  Finset.sum_eq_zero fun k listed => by
    simp_all [List.getD_eq_getElem?_getD, List.getElem?_range]

theorem calculate_trend_least_squares (values : List ℚ) (two : 2 ≤ values.length) :
    (values.length : ℚ) * ((List.range values.length).map fun i => (i : ℚ) ^ 2).sum -
        ((List.range values.length).map fun i => (i : ℚ)).sum ^ 2 =
      (values.length : ℚ) ^ 2 * ((values.length : ℚ) ^ 2 - 1) / 12 ∧
    0 < (values.length : ℚ) ^ 2 * ((values.length : ℚ) ^ 2 - 1) / 12 ∧
    (∀ line, squaredError values (calculateTrend values) ≤ squaredError values line ∧
      (squaredError values line = squaredError values (calculateTrend values) →
        line = calculateTrend values)) ∧
    ∀ slope intercept : ℚ,
      values = (List.range values.length).map (fun k : Nat => slope * k + intercept) →
      calculateTrend values = (slope, intercept) := by
  refine ⟨?_, trend_determinant_pos _ two,
    fun line => ⟨trend_minimal values two line, trend_unique values two line⟩,
    fun slope intercept linear => ?_⟩
  · rw [sum_index_list, sum_squared_index_list]
    exact trend_determinant _
  · have exact : squaredError values (slope, intercept) = 0 := by
      rw [linear]
      exact squared_error_linear slope intercept _
    refine (trend_unique values two _ ?_).symm
    exact exact.trans (le_antisymm (exact ▸ trend_minimal values two _)
      (squared_error_nonneg _ _)).symm

theorem calculate_trend_recovers_line :
    2 ≤ [1, 3, 5].length ∧ calculateTrend [1, 3, 5] = (2, 1) :=
  ⟨by decide, (calculate_trend_least_squares [1, 3, 5] (by decide)).2.2.2 2 1
    (by norm_num [List.range_succ])⟩

end PredictionEngine

end AnalyticsHub.Analytics
