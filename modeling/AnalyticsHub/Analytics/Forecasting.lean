import AnalyticsHub.Analytics.History
import Mathlib.Algebra.BigOperators.Group.Finset
import Mathlib.Algebra.Order.BigOperators.Group.Finset
import Mathlib.Data.List.GetD

set_option autoImplicit false

/- The two forecasters on the histories runs of the engines reach. A history of at least ten
   values has a last timestamp and a seasonal period of at least five, and a non-empty one has
   a first value and a last timestamp, so neither forecaster reaches a panic. -/
namespace AnalyticsHub.Analytics

namespace PredictionEngine

theorem last_timestamp_exists (data : TimeSeriesData)
    (parallel : data.values.length = data.timestamps.length) (nonempty : data.values ≠ []) :
    ∃ lastTimestamp, data.timestamps.getLast? = some lastTimestamp :=
  ⟨_, List.getLast?_eq_getLast _ (List.ne_nil_of_length_pos (parallel ▸ List.length_pos.mpr nonempty))⟩

theorem period_at_least_five (values : List ℚ) (enough : 10 ≤ values.length) :
    5 ≤ (calculateSeasonality values).length := by
  rw [seasonality_length]
  omega

theorem predict_arima_no_panic (e : PredictionEngine) (parallel : e.Parallel) (metricName : String)
    (stepsAhead : Nat) (now : DateTime) : (e.predictArima metricName stepsAhead now).1 ≠ none := by
  unfold predictArima
  split
  · simp
  · split
    · simp
    · rename_i tsData held
      split_ifs with short
      · simp
      · have enough : 10 ≤ tsData.values.length := by omega
        obtain ⟨lastTimestamp, stamped⟩ := last_timestamp_exists tsData
          (parallel metricName tsData held) (List.ne_nil_of_length_pos (by omega))
        rw [arima_forecast_points tsData stepsAhead lastTimestamp stamped (by omega)]
        simp

/-- With a first value and a last timestamp, the smoothing loop runs to its end. -/
theorem smoothing_forecast_points (tsData : TimeSeriesData) (stepsAhead : Nat) (alpha : ℚ)
    (first : ℚ) (rest : List ℚ) (history : tsData.values = first :: rest) (lastTimestamp : DateTime)
    (stamped : tsData.timestamps.getLast? = some lastTimestamp) :
    smoothingForecast tsData stepsAhead alpha = some ((List.range stepsAhead).map fun k =>
      let smoothed := rest.foldl (fun smoothed value => alpha * value + (1 - alpha) * smoothed) first
      ⟨lastTimestamp + Duration.minutes (k + 1 : Nat), smoothed,
        calculateConfidence (k + 1) stepsAhead, smoothed * 0.9, smoothed * 1.1⟩) := by
  simp [smoothingForecast, history, stamped]

theorem smoothing_no_panic (e : PredictionEngine) (parallel : e.Parallel) (metricName : String)
    (stepsAhead : Nat) (alpha : ℚ) : e.predictExponentialSmoothing metricName stepsAhead alpha ≠ none := by
  unfold predictExponentialSmoothing
  split
  · simp
  · rename_i tsData held
    split_ifs with empty
    · simp
    · obtain ⟨first, rest, history⟩ := List.exists_cons_of_ne_nil (by simpa using empty)
      obtain ⟨lastTimestamp, stamped⟩ := last_timestamp_exists tsData
        (parallel metricName tsData held) (by simpa using empty)
      rw [smoothing_forecast_points tsData stepsAhead alpha first rest history lastTimestamp stamped]
      simp

end PredictionEngine

namespace Engines

theorem replies_no_panic (s : Engines) (calls : List Call) (parallel : s.predictor.Parallel) :
    ∀ entry ∈ (s.run calls).1, entry.2 ≠ .forecast none := by
  induction calls generalizing s with
  | nil => simp [run]
  | cons call rest ih =>
      simp only [run, List.mem_cons, forall_eq_or_imp]
      refine ⟨?_, ih _ (parallel_step s call parallel)⟩
      cases call with
      | predictArima metricName stepsAhead now =>
          simpa [step] using PredictionEngine.predict_arima_no_panic _ parallel metricName stepsAhead now
      | predictExponentialSmoothing metricName stepsAhead alpha =>
          simpa [step] using PredictionEngine.smoothing_no_panic _ parallel metricName stepsAhead alpha
      | _ => simp [step]

end Engines

/-- Forecasting never panics on a reachable state: over any run of the engines, every forecast
reply is a result or an error, and so is every forecast from the state the run ends in. This
rests on the two deques of each history keeping one length, and on ten values giving a
seasonal period of at least five. -/
theorem forecasting_never_panics (config : AnalyticsConfig) (calls : List Call) :
    ((Engines.new config).run calls).2.predictor.Parallel ∧
    (∀ values : List ℚ, 10 ≤ values.length → 5 ≤ (PredictionEngine.calculateSeasonality values).length) ∧
    (∀ entry ∈ ((Engines.new config).run calls).1, entry.2 ≠ .forecast none) ∧
    ∀ metricName stepsAhead now alpha,
      (((Engines.new config).run calls).2.predictor.predictArima metricName stepsAhead now).1 ≠ none ∧
      ((Engines.new config).run calls).2.predictor.predictExponentialSmoothing metricName stepsAhead
        alpha ≠ none := by
  have parallel := Engines.parallel_run (Engines.new config) calls (PredictionEngine.parallel_new config)
  exact ⟨parallel, PredictionEngine.period_at_least_five,
    Engines.replies_no_panic (Engines.new config) calls (PredictionEngine.parallel_new config),
    fun metricName stepsAhead now alpha => ⟨PredictionEngine.predict_arima_no_panic _ parallel _ _ _,
      PredictionEngine.smoothing_no_panic _ parallel _ _ _⟩⟩

namespace PredictionEngine

/-- The weight of the k-th of n values (counted from 1) in the smoothed level:
(1 - alpha)^(n - 1) for the first, alpha * (1 - alpha)^(n - k) for each later one. -/
def smoothingWeight (alpha : ℚ) (n k : Nat) : ℚ :=
  if k = 1 then (1 - alpha) ^ (n - 1) else alpha * (1 - alpha) ^ (n - k)

theorem smoothing_weight_succ (alpha : ℚ) (n k : Nat) (positive : 1 ≤ n) (earlier : k < n) :
    smoothingWeight alpha (n + 1) (k + 1) = (1 - alpha) * smoothingWeight alpha n (k + 1) := by
  unfold smoothingWeight
  split_ifs with first
  · rw [show n + 1 - 1 = (n - 1) + 1 by omega, pow_succ]
    ring
  · rw [show n + 1 - (k + 1) = (n - (k + 1)) + 1 by omega, pow_succ]
    ring

theorem smoothing_weight_last (alpha : ℚ) (n : Nat) (positive : 1 ≤ n) :
    smoothingWeight alpha (n + 1) (n + 1) = alpha := by
  simp [smoothingWeight, show n ≠ 0 by omega]

/-- One more value scales every earlier weight by 1 - alpha and gives the new value alpha. -/
theorem weighted_sum_succ (alpha : ℚ) (n : Nat) (positive : 1 ≤ n) (f : Nat → ℚ) (last : ℚ) :
    ∑ k ∈ Finset.range (n + 1), smoothingWeight alpha (n + 1) (k + 1) * (if k < n then f k else last) =
      (1 - alpha) * (∑ k ∈ Finset.range n, smoothingWeight alpha n (k + 1) * f k) + alpha * last := by
  rw [Finset.sum_range_succ, if_neg (lt_irrefl n), smoothing_weight_last alpha n positive,
    Finset.mul_sum]
  congr 1
  refine Finset.sum_congr rfl fun k listed => ?_
  have earlier := Finset.mem_range.mp listed
  rw [if_pos earlier, smoothing_weight_succ alpha n k positive earlier]
  ring

/-- The smoothing loop from the first value computes the weighted sum of the history. -/
theorem smoothing_level (alpha first : ℚ) (rest : List ℚ) :
    rest.foldl (fun smoothed value => alpha * value + (1 - alpha) * smoothed) first =
      ∑ k ∈ Finset.range (rest.length + 1),
        smoothingWeight alpha (rest.length + 1) (k + 1) * (first :: rest).getD k 0 := by
  induction rest using List.reverseRecOn with
  | nil => simp [smoothingWeight]
  | append_singleton rest last ih =>
      have entries : ∀ k ∈ Finset.range (rest.length + 1 + 1),
          (first :: (rest ++ [last])).getD k 0 =
            if k < rest.length + 1 then (first :: rest).getD k 0 else last := by
        intro k within
        rw [← List.cons_append]
        split_ifs with earlier
        · exact List.getD_append _ _ _ _ (by simpa using earlier)
        · obtain rfl : k = rest.length + 1 := by simp at within; omega
          rw [List.getD_append_right _ _ _ _ (by simp)]
          simp
      have shifted : ∑ k ∈ Finset.range (rest.length + 1 + 1),
          smoothingWeight alpha (rest.length + 1 + 1) (k + 1) * (first :: (rest ++ [last])).getD k 0 =
          ∑ k ∈ Finset.range (rest.length + 1 + 1), smoothingWeight alpha (rest.length + 1 + 1) (k + 1) *
            (if k < rest.length + 1 then (first :: rest).getD k 0 else last) :=
        Finset.sum_congr rfl fun k listed => by rw [entries k listed]
      rw [List.foldl_append, List.foldl_cons, List.foldl_nil, ih, List.length_append,
        List.length_singleton, shifted, weighted_sum_succ alpha _ (by omega)]
      ring

theorem smoothing_weights_sum (alpha : ℚ) (n : Nat) (positive : 1 ≤ n) :
    ∑ k ∈ Finset.range n, smoothingWeight alpha n (k + 1) = 1 := by
  induction n, positive using Nat.le_induction with
  | base => simp [smoothingWeight]
  | succ n positive ih =>
      have step := weighted_sum_succ alpha n positive (fun _ => 1) 1
      simp only [ite_self, mul_one] at step
      rw [step, ih]
      ring

theorem smoothing_weight_nonneg (alpha : ℚ) (low : 0 ≤ alpha) (high : alpha ≤ 1) (n k : Nat) :
    0 ≤ smoothingWeight alpha n k := by
  unfold smoothingWeight
  have base : 0 ≤ 1 - alpha := by linarith
  split_ifs
  · exact pow_nonneg base _
  · exact mul_nonneg low (pow_nonneg base _)

/-- A combination with non-negative weights summing to one lies between any bounds of the
values. -/
theorem weighted_sum_between (alpha : ℚ) (low : 0 ≤ alpha) (high : alpha ≤ 1) (values : List ℚ)
    (nonempty : values ≠ []) (lo hi : ℚ) (bounded : ∀ value ∈ values, lo ≤ value ∧ value ≤ hi) :
    lo ≤ ∑ k ∈ Finset.range values.length,
        smoothingWeight alpha values.length (k + 1) * values.getD k 0 ∧
      ∑ k ∈ Finset.range values.length,
        smoothingWeight alpha values.length (k + 1) * values.getD k 0 ≤ hi := by
  have total := smoothing_weights_sum alpha values.length (List.length_pos.mpr nonempty)
  have entry : ∀ k ∈ Finset.range values.length, lo ≤ values.getD k 0 ∧ values.getD k 0 ≤ hi :=
    fun k listed => by
      rw [List.getD_eq_getElem _ _ (Finset.mem_range.mp listed)]
      exact bounded _ (List.getElem_mem _)
  constructor
  · calc lo = ∑ k ∈ Finset.range values.length, smoothingWeight alpha values.length (k + 1) * lo := by
          rw [← Finset.sum_mul, total, one_mul]
      _ ≤ _ := Finset.sum_le_sum fun k listed =>
          mul_le_mul_of_nonneg_left (entry k listed).1 (smoothing_weight_nonneg alpha low high _ _)
  · calc _ ≤ ∑ k ∈ Finset.range values.length, smoothingWeight alpha values.length (k + 1) * hi :=
          Finset.sum_le_sum fun k listed =>
            mul_le_mul_of_nonneg_left (entry k listed).2 (smoothing_weight_nonneg alpha low high _ _)
      _ = hi := by rw [← Finset.sum_mul, total, one_mul]

end PredictionEngine

/-- Exponential smoothing over any history a run leaves: for alpha in [0, 1], the forecast has
one point per step, the i-th a further minute after the last timestamp, all at one level, the
average of the history with weights (1 - alpha)^(n-1) and alpha * (1 - alpha)^(n-k), which are
non-negative and sum to one, so the level lies between the least and the greatest value. -/
theorem exponential_smoothing_convex (config : AnalyticsConfig) (calls : List Call)
    (metricName : String) (data : TimeSeriesData)
    (held : ((Engines.new config).run calls).2.predictor.timeSeries metricName = some data)
    (nonempty : data.values ≠ []) (alpha : ℚ) (low : 0 ≤ alpha) (high : alpha ≤ 1)
    (stepsAhead : Nat) :
    ∃ points lastTimestamp,
      ((Engines.new config).run calls).2.predictor.predictExponentialSmoothing metricName stepsAhead
        alpha = some (.ok points) ∧
      data.timestamps.getLast? = some lastTimestamp ∧
      points.map PredictionPoint.timestamp =
        (List.range stepsAhead).map (fun i => lastTimestamp + Duration.minutes (i + 1 : Nat)) ∧
      points.map PredictionPoint.value = List.replicate stepsAhead
        (∑ k ∈ Finset.range data.values.length,
          PredictionEngine.smoothingWeight alpha data.values.length (k + 1) * data.values.getD k 0) ∧
      (∀ k < data.values.length, 0 ≤ PredictionEngine.smoothingWeight alpha data.values.length (k + 1)) ∧
      ∑ k ∈ Finset.range data.values.length,
        PredictionEngine.smoothingWeight alpha data.values.length (k + 1) = 1 ∧
      ∀ lo hi, (∀ value ∈ data.values, lo ≤ value ∧ value ≤ hi) →
        lo ≤ ∑ k ∈ Finset.range data.values.length,
          PredictionEngine.smoothingWeight alpha data.values.length (k + 1) * data.values.getD k 0 ∧
        ∑ k ∈ Finset.range data.values.length,
          PredictionEngine.smoothingWeight alpha data.values.length (k + 1) * data.values.getD k 0 ≤ hi := by
  obtain ⟨first, rest, history⟩ := List.exists_cons_of_ne_nil nonempty
  have parallel := Engines.parallel_run (Engines.new config) calls
    (PredictionEngine.parallel_new config) metricName data held
  obtain ⟨lastTimestamp, stamped⟩ := PredictionEngine.last_timestamp_exists data parallel nonempty
  have served : ((Engines.new config).run calls).2.predictor.predictExponentialSmoothing metricName
      stepsAhead alpha = (PredictionEngine.smoothingForecast data stepsAhead alpha).map .ok := by
    simp [PredictionEngine.predictExponentialSmoothing, held, history]
  rw [PredictionEngine.smoothing_forecast_points data stepsAhead alpha first rest history
    lastTimestamp stamped, Option.map_some'] at served
  refine ⟨_, lastTimestamp, served, stamped, by simp [List.map_map, Function.comp_def], ?_,
    fun k _ => PredictionEngine.smoothing_weight_nonneg alpha low high _ _,
    PredictionEngine.smoothing_weights_sum alpha _ (List.length_pos.mpr nonempty),
    PredictionEngine.weighted_sum_between alpha low high data.values nonempty⟩
  simp only [List.map_map, Function.comp_def, List.map_const', List.length_range]
  rw [PredictionEngine.smoothing_level, history, List.length_cons]

theorem exponential_smoothing_three_points :
    let calls := [Call.addDataPoint "load" 2 (Duration.minutes 0),
      .addDataPoint "load" 4 (Duration.minutes 1), .addDataPoint "load" 8 (Duration.minutes 2)]
    let data : TimeSeriesData :=
      ⟨[2, 4, 8], [Duration.minutes 0, Duration.minutes 1, Duration.minutes 2], 100⟩
    ((Engines.new ⟨0, 100⟩).run calls).2.predictor.timeSeries "load" = some data ∧
    data.values ≠ [] ∧ (0 : ℚ) ≤ 1 / 2 ∧ (1 / 2 : ℚ) ≤ 1 ∧
    ∃ points lastTimestamp,
      ((Engines.new ⟨0, 100⟩).run calls).2.predictor.predictExponentialSmoothing "load" 2
        (1 / 2) = some (.ok points) ∧
      data.timestamps.getLast? = some lastTimestamp ∧
      points.map PredictionPoint.timestamp =
        (List.range 2).map (fun i => lastTimestamp + Duration.minutes (i + 1 : Nat)) ∧
      points.map PredictionPoint.value = List.replicate 2
        (∑ k ∈ Finset.range data.values.length,
          PredictionEngine.smoothingWeight (1 / 2) data.values.length (k + 1) * data.values.getD k 0) ∧
      (∀ k < data.values.length, 0 ≤ PredictionEngine.smoothingWeight (1 / 2) data.values.length (k + 1)) ∧
      ∑ k ∈ Finset.range data.values.length,
        PredictionEngine.smoothingWeight (1 / 2) data.values.length (k + 1) = 1 ∧
      ∀ lo hi, (∀ value ∈ data.values, lo ≤ value ∧ value ≤ hi) →
        lo ≤ ∑ k ∈ Finset.range data.values.length,
          PredictionEngine.smoothingWeight (1 / 2) data.values.length (k + 1) * data.values.getD k 0 ∧
        ∑ k ∈ Finset.range data.values.length,
          PredictionEngine.smoothingWeight (1 / 2) data.values.length (k + 1) * data.values.getD k 0 ≤ hi := by
  intro calls data
  have held : ((Engines.new ⟨0, 100⟩).run calls).2.predictor.timeSeries "load" = some data := by
    simp [calls, data, Engines.new, Engines.run, Engines.step, PredictionEngine.new,
      PredictionEngine.addDataPoint, PredictionEngine.seriesOf, TimeSeriesData.addPoint,
      TimeSeriesData.new, Window.new, Window.push]
  have nonempty : data.values ≠ [] := by simp [data]
  exact ⟨held, nonempty, by norm_num, by norm_num,
    exponential_smoothing_convex _ calls "load" data held nonempty (1 / 2) (by norm_num) (by norm_num) 2⟩

end AnalyticsHub.Analytics
