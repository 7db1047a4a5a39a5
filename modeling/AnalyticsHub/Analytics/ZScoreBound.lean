import AnalyticsHub.Analytics.Anomaly
import Mathlib.Algebra.Order.Chebyshev
import Mathlib.Algebra.BigOperators.Fin

set_option autoImplicit false

/- The z-score check_anomaly computes is bounded by the size of its window. The window it
   tests already ends with the value under test, so the value pulls the mean towards itself:
   by Samuelson's inequality its distance from the mean is at most (n - 1) / sqrt n standard
   deviations. Small windows can therefore never reach a high threshold. -/
namespace AnalyticsHub.Analytics

/-- Cauchy-Schwarz for a list: the square of the sum is at most the length times the sum of
the squares. -/
theorem sq_sum_le_length_mul_sum_sq (l : List ℚ) :
    l.sum ^ 2 ≤ l.length * (l.map (· ^ 2)).sum := by
  have cauchy : (∑ i, l.get i) ^ 2 ≤
      (Finset.univ : Finset (Fin l.length)).card * ∑ i, l.get i ^ 2 :=
    sq_sum_le_card_mul_sum_sq
  have squares : (List.ofFn fun i => l.get i ^ 2) = l.map (· ^ 2) :=
    List.ext_get (by simp) (by simp)
  rwa [Finset.card_univ, Fintype.card_fin, ← List.sum_ofFn, ← List.sum_ofFn, squares,
    List.ofFn_get] at cauchy

theorem sum_map_sub_const (l : List ℚ) (c : ℚ) :
    (l.map fun x => x - c).sum = l.sum - l.length * c := by
  induction l with
  | nil => simp
  | cons x l ih => simp only [List.map_cons, List.sum_cons, ih, List.length_cons]; push_cast; ring

/-- Samuelson's inequality for a window ending in value: n (value - mean)^2 is at most
(n - 1) times the sum of squared deviations. -/
theorem samuelson (earlier : List ℚ) (value : ℚ) :
    let window := earlier ++ [value]
    let mean := window.sum / window.length
    (window.length : ℚ) * (value - mean) ^ 2 ≤
      (window.length - 1) * (window.map fun v => (v - mean) * (v - mean)).sum := by
  intro window mean
  have count : (window.length : ℚ) = earlier.length + 1 := by simp [window]
  have total : mean * (earlier.length + 1) = earlier.sum + value := by
    rw [← count, div_mul_cancel₀ _ (by rw [count]; positivity)]
    simp [window]
  have centred : (earlier.map fun v => v - mean).sum = mean - value := by
    rw [sum_map_sub_const]
    linarith
  have cauchy := sq_sum_le_length_mul_sum_sq (earlier.map fun v => v - mean)
  rw [centred, List.length_map, List.map_map] at cauchy
  have split : (window.map fun v => (v - mean) * (v - mean)).sum =
      (earlier.map ((· ^ 2) ∘ fun v => v - mean)).sum + (value - mean) ^ 2 := by
    simp [window, sq, Function.comp_def]
  rw [split, count]
  nlinarith [cauchy]

namespace AnomalyDetector

/-- The z-score check_anomaly computes for value against the window it has pushed value onto:
|value - mean| / max(stddev, 0.0001). -/
def zScoreOf (baseline : MetricBaseline) (value : ℚ) : Surd :=
  let mean := baseline.calculateMean
  Surd.div (Surd.ofRat |value - mean|) (baseline.calculateStddev mean)

/-- check_anomaly's reply, with its z-score named. -/
theorem check_anomaly_reply (d : AnomalyDetector) (metricName : String) (value : ℚ)
    (timestamp : DateTime) :
    let baseline := (d.baselineOf metricName).addValue value timestamp
    (d.checkAnomaly metricName value timestamp).1 =
      if baseline.values.length < 10 then none
      else if (zScoreOf baseline value).gt d.getThresholdForSensitivity then
        some ⟨metricName, timestamp, value, baseline.calculateMean, zScoreOf baseline value,
          classifyAnomaly value baseline.calculateMean baseline,
          calculateSeverity (zScoreOf baseline value)⟩
      else none := by
  simp only [checkAnomaly, getThresholdForSensitivity, zScoreOf]
  split_ifs <;> rfl

/-- The self-inclusion bound on squares: a window of n ≥ 2 values ending in value gives value
a squared z-score of at most (n - 1)^2 / n. -/
theorem z_score_square_le (baseline : MetricBaseline) (value : ℚ)
    (last : baseline.values.getLast? = some value) (two : 2 ≤ baseline.values.length) :
    (zScoreOf baseline value).square ≤
      ((baseline.values.length : ℚ) - 1) ^ 2 / baseline.values.length := by
  obtain ⟨earlier, window⟩ := List.getLast?_eq_some_iff.mp last
  have bound := samuelson earlier value
  rw [← window] at bound
  have positive : (0 : ℚ) < baseline.values.length := by positivity
  have spread : (0 : ℚ) < ((baseline.values.length - 1 : Nat) : ℚ) := by
    exact_mod_cast (by omega : 0 < baseline.values.length - 1)
  have nonempty : baseline.values.isEmpty = false := by
    cases values : baseline.values <;> simp_all
  simp only [zScoreOf, MetricBaseline.calculateStddev, MetricBaseline.calculateMean, nonempty,
    Bool.false_eq_true, Surd.div, Surd.ofRat, Surd.max, Surd.sqrt, abs_mul_abs_self,
    show ¬ baseline.values.length < 2 by omega, if_false] at bound ⊢
  generalize baseline.values.sum / baseline.values.length = mean at bound ⊢
  generalize (baseline.values.map fun v => (v - mean) * (v - mean)).sum = deviations at bound ⊢
  rw [Nat.cast_sub (by omega), Nat.cast_one] at spread ⊢
  rw [div_le_iff₀ (lt_max_of_lt_right (by norm_num))]
  have rescaled : ((baseline.values.length : ℚ) - 1) ^ 2 / baseline.values.length *
      (deviations / (baseline.values.length - 1)) =
        (baseline.values.length - 1) * deviations / baseline.values.length := by
    field_simp
    ring
  calc (value - mean) * (value - mean)
      ≤ (baseline.values.length - 1) * deviations / baseline.values.length := by
        rw [le_div_iff₀ positive]
        nlinarith [bound]
    _ = ((baseline.values.length : ℚ) - 1) ^ 2 / baseline.values.length *
          (deviations / (baseline.values.length - 1)) := rescaled.symm
    _ ≤ _ := by gcongr; exact le_max_left _ _

/-- The same bound over the reals: z ≤ (n - 1) / sqrt n. -/
theorem z_score_le (baseline : MetricBaseline) (value : ℚ)
    (last : baseline.values.getLast? = some value) (two : 2 ≤ baseline.values.length) :
    Real.sqrt (zScoreOf baseline value).square ≤
      ((baseline.values.length : ℝ) - 1) / Real.sqrt baseline.values.length := by
  have bound : ((zScoreOf baseline value).square : ℝ) ≤
      ((((baseline.values.length : ℚ) - 1) ^ 2 / baseline.values.length : ℚ) : ℝ) :=
    Rat.cast_le.mpr (z_score_square_le baseline value last two)
  have atLeastOne : (0 : ℝ) ≤ (baseline.values.length : ℝ) - 1 := by
    have : (2 : ℝ) ≤ baseline.values.length := by exact_mod_cast two
    linarith
  push_cast at bound
  calc Real.sqrt (zScoreOf baseline value).square
      ≤ Real.sqrt (((baseline.values.length : ℝ) - 1) ^ 2 / baseline.values.length) :=
        Real.sqrt_le_sqrt bound
    _ = _ := by
        rw [Real.sqrt_div' _ (Nat.cast_nonneg baseline.values.length : (0 : ℝ) ≤ _),
          Real.sqrt_sq atLeastOne]

/-- A threshold t ≥ 0 with t^2 at least (n - 1)^2 / n is never exceeded. -/
theorem not_gt_of_window (baseline : MetricBaseline) (value : ℚ)
    (last : baseline.values.getLast? = some value) (two : 2 ≤ baseline.values.length)
    (t : ℚ) (nonneg : 0 ≤ t)
    (small : ((baseline.values.length : ℚ) - 1) ^ 2 / baseline.values.length ≤ t * t) :
    ¬ (zScoreOf baseline value).gt t := by
  rintro (negative | above)
  · linarith
  · linarith [z_score_square_le baseline value last two]

/-- check_anomaly flags nothing when its z-score stays within the threshold whenever the
window holds ten values. -/
theorem check_anomaly_none (d : AnomalyDetector) (metricName : String) (value : ℚ)
    (timestamp : DateTime)
    (within : 10 ≤ ((d.baselineOf metricName).addValue value timestamp).values.length →
      ¬ (zScoreOf ((d.baselineOf metricName).addValue value timestamp) value).gt
        d.getThresholdForSensitivity) :
    (d.checkAnomaly metricName value timestamp).1 = none := by
  rw [check_anomaly_reply]
  split_ifs with short above
  · rfl
  · exact absurd above (within (by omega))
  · rfl

/-- A flagged value was tested against a window of ten values at least, and its severity is
that of its z-score. -/
theorem check_anomaly_severity (d : AnomalyDetector) (metricName : String) (value : ℚ)
    (timestamp : DateTime) (anomaly : Anomaly)
    (flagged : (d.checkAnomaly metricName value timestamp).1 = some anomaly) :
    10 ≤ ((d.baselineOf metricName).addValue value timestamp).values.length ∧
    anomaly.severity =
      calculateSeverity (zScoreOf ((d.baselineOf metricName).addValue value timestamp) value) := by
  rw [check_anomaly_reply] at flagged
  split_ifs at flagged with short above
  cases flagged
  exact ⟨by omega, rfl⟩

theorem calculate_severity_ne_critical (zScore : Surd) (notAbove : ¬ zScore.gt 5) :
    calculateSeverity zScore ≠ .critical := by
  simp only [calculateSeverity, if_neg notAbove]
  split_ifs <;> decide

/-- Samuelson's bound on check_anomaly: the z-score of the value under test is at most
(n - 1) / sqrt n for the window of n ≥ 10 values it is tested against, so nothing is flagged
while that bound is within the threshold 3 - 2 * sensitivity. At sensitivity 0 nothing is
flagged before the window holds 11 values, and nothing is Critical before it holds 27. -/
theorem z_score_self_inclusion_bound (d : AnomalyDetector) (metricName : String) (value : ℚ)
    (timestamp : DateTime) :
    let baseline := (d.baselineOf metricName).addValue value timestamp
    let n := baseline.values.length
    (10 ≤ n → Real.sqrt (zScoreOf baseline value).square ≤ ((n : ℝ) - 1) / Real.sqrt n) ∧
    (((n : ℝ) - 1) / Real.sqrt n ≤ 3 - 2 * (d.config.anomalySensitivity : ℝ) →
      (d.checkAnomaly metricName value timestamp).1 = none) ∧
    (d.config.anomalySensitivity = 0 → n < 11 →
      (d.checkAnomaly metricName value timestamp).1 = none) ∧
    (n < 27 → ∀ anomaly, (d.checkAnomaly metricName value timestamp).1 = some anomaly →
      anomaly.severity ≠ .critical) := by
  have last := add_value_last value timestamp (d.baselineOf metricName)
  refine ⟨fun ten => z_score_le _ value last (by omega), fun within => ?_, fun calm few => ?_,
    fun few anomaly flagged => ?_⟩
  · refine check_anomaly_none d metricName value timestamp fun ten above => ?_
    have exceeds := (Surd.gt_iff _ _).mp above
    have bounded := z_score_le _ value last (by omega)
    simp only [getThresholdForSensitivity] at exceeds
    push_cast at exceeds
    linarith
  · refine check_anomaly_none d metricName value timestamp fun ten => ?_
    have three : d.getThresholdForSensitivity = 3 := by simp [getThresholdForSensitivity, calm]
    have size : (((d.baselineOf metricName).addValue value timestamp).values.length : ℚ) = 10 :=
      by exact_mod_cast
        (by omega : ((d.baselineOf metricName).addValue value timestamp).values.length = 10)
    rw [three]
    exact not_gt_of_window _ value last (by omega) 3 (by norm_num) (by rw [size]; norm_num)
  · obtain ⟨ten, severity⟩ := check_anomaly_severity d metricName value timestamp anomaly flagged
    rw [severity]
    refine calculate_severity_ne_critical _
      (not_gt_of_window _ value last (by omega) 5 (by norm_num) ?_)
    have atLeastTen : (10 : ℚ) ≤ ((d.baselineOf metricName).addValue value timestamp).values.length :=
      by exact_mod_cast ten
    have atMost : (((d.baselineOf metricName).addValue value timestamp).values.length : ℚ) ≤ 26 :=
      by exact_mod_cast
        (by omega : ((d.baselineOf metricName).addValue value timestamp).values.length ≤ 26)
    rw [div_le_iff₀ (by positivity)]
    nlinarith

/-- Nine readings of 1 and then 5, a window of ten: 9 / √10 is within the threshold 3 of
sensitivity 0, so the 5 is not flagged there; at sensitivity 1/2 it is, and not as Critical. -/
theorem z_score_self_inclusion_bound_nine_ones :
    let calm := (List.replicate 9 ((1 : ℚ), (0 : DateTime))).foldl
      (fun d point => (d.checkAnomaly "cpu" point.1 point.2).2) (new ⟨0, 100⟩)
    let alert := (List.replicate 9 ((1 : ℚ), (0 : DateTime))).foldl
      (fun d point => (d.checkAnomaly "cpu" point.1 point.2).2) (new ⟨1 / 2, 100⟩)
    let n := ((calm.baselineOf "cpu").addValue 5 0).values.length
    10 ≤ n ∧
    Real.sqrt (zScoreOf ((calm.baselineOf "cpu").addValue 5 0) 5).square ≤ ((n : ℝ) - 1) / Real.sqrt n ∧
    ((n : ℝ) - 1) / Real.sqrt n ≤ 3 - 2 * (calm.config.anomalySensitivity : ℝ) ∧
    calm.config.anomalySensitivity = 0 ∧ n < 11 ∧ (calm.checkAnomaly "cpu" 5 0).1 = none ∧
    ((alert.baselineOf "cpu").addValue 5 0).values.length < 27 ∧
    ∃ anomaly, (alert.checkAnomaly "cpu" 5 0).1 = some anomaly ∧ anomaly.severity ≠ .critical := by
  intro calm alert n
  have calmSize : ((calm.baselineOf "cpu").addValue 5 0).values.length = 10 := by
    rw [window_after_nine_ones calm (baseline_of_fold _ _ _)]; rfl
  have alertSize : ((alert.baselineOf "cpu").addValue 5 0).values.length = 10 := by
    rw [window_after_nine_ones alert (baseline_of_fold _ _ _)]; rfl
  have ten : n = 10 := calmSize
  have calmConfig : calm.config.anomalySensitivity = 0 := by rw [config_of_fold]; rfl
  have threshold : ((n : ℝ) - 1) / Real.sqrt n ≤ 3 - 2 * (calm.config.anomalySensitivity : ℝ) := by
    have root : (3 : ℝ) ≤ Real.sqrt 10 := (Real.le_sqrt' (by norm_num)).mpr (by norm_num)
    rw [ten, calmConfig, div_le_iff₀ (by positivity)]
    push_cast
    linarith
  obtain ⟨bounded, within, -, -⟩ := z_score_self_inclusion_bound calm "cpu" 5 0
  obtain ⟨-, -, -, notCritical⟩ := z_score_self_inclusion_bound alert "cpu" 5 0
  obtain ⟨anomaly, flagged⟩ := Option.isSome_iff_exists.mp
    (check_anomaly_after_nine_ones alert (by rw [config_of_fold]; norm_num [new])
      (baseline_of_fold _ _ _))
  exact ⟨by omega, bounded (by omega), threshold, calmConfig, by omega, within threshold,
    by omega, anomaly, flagged, notCritical (by omega) anomaly flagged⟩

end AnomalyDetector

end AnalyticsHub.Analytics
