import AnalyticsHub.Analytics.Engines

set_option autoImplicit false

/- The prediction engine's get_stats over a run of calls. get_stats counts the entries of its
   two DashMaps and adds up the points of every cached forecast; DashMap iterates its entries in
   an order the code does not fix, so get_stats takes the keys of each map as a list. A series
   is created by add_data_point and never removed: cleanup_old_data trims its points and keeps
   its entry. predict_arima caches a forecast only for a metric with a series, so there are
   never more cached forecasts than series, and each cached forecast has as many points as the
   call that computed it asked for. -/
namespace AnalyticsHub.Analytics

structure PredictionStats where
  totalTimeSeries : Nat
  totalCachedPredictions : Nat
  totalPredictionPoints : Nat
deriving DecidableEq, Repr

namespace Call

/-- The metric an add_data_point call adds a point to. -/
def addedMetric : Call → Option String
  | .addDataPoint metricName _ _ => some metricName
  | _ => none

/-- The number of steps a predict_arima call asks for. -/
def arimaSteps : Call → Option Nat
  | .predictArima _ stepsAhead _ => some stepsAhead
  | _ => none

end Call

namespace PredictionEngine

/-- get_stats, visiting the keys of the two maps in the orders given. -/
def getStats (e : PredictionEngine) (seriesKeys predictionKeys : List String) : PredictionStats :=
  let totalPredictions := (predictionKeys.map fun metricName =>
    ((e.predictions metricName).map fun cached => cached.points.length).getD 0).sum
  ⟨seriesKeys.length, predictionKeys.length, totalPredictions⟩

theorem arima_forecast_length (tsData : TimeSeriesData) (steps : Nat)
    (predictions : List PredictionPoint) (two : 2 ≤ tsData.values.length)
    (forecast : arimaForecast tsData steps = some predictions) : predictions.length = steps := by
  cases stamped : tsData.timestamps.getLast? with
  | none => simp [arimaForecast, stamped] at forecast
  | some lastTimestamp =>
      rw [arima_forecast_points tsData steps lastTimestamp stamped two, Option.some.injEq] at forecast
      simp [← forecast]

/-- Every cached forecast belongs to a metric with a series and has at most `bound` points. -/
def CacheBounded (bound : Nat) (e : PredictionEngine) : Prop :=
  ∀ metricName cached, e.predictions metricName = some cached →
    (e.timeSeries metricName).isSome ∧ cached.points.length ≤ bound

variable {bound : Nat} {e : PredictionEngine}

theorem CacheBounded.add_data_point (bounded : CacheBounded bound e) (metricName : String)
    (value : ℚ) (timestamp : DateTime) : CacheBounded bound (e.addDataPoint metricName value timestamp) := by
  intro other cached found
  by_cases same : other = metricName
  · subst same
    simp [addDataPoint] at found
  · simp only [addDataPoint, Function.update_noteq same] at found ⊢
    exact bounded other cached found

theorem CacheBounded.predict_arima (bounded : CacheBounded bound e) (metricName : String)
    (stepsAhead : Nat) (now : DateTime) (asked : stepsAhead ≤ bound) :
    CacheBounded bound (e.predictArima metricName stepsAhead now).2 := by
  unfold predictArima
  split
  · exact bounded
  · cases series : e.timeSeries metricName with
    | none => exact bounded
    | some tsData =>
        simp only
        split_ifs with short
        · exact bounded
        · cases forecast : arimaForecast tsData stepsAhead with
          | none => exact bounded
          | some predictions =>
              intro other cached found
              by_cases same : other = metricName
              · subst same
                simp only [Function.update_same, Option.some.injEq] at found
                subst found
                exact ⟨by simp [series], (arima_forecast_length tsData stepsAhead predictions
                  (by omega) forecast).le.trans asked⟩
              · simp only [Function.update_noteq same] at found
                exact bounded other cached found

theorem CacheBounded.cleanup_old_data (bounded : CacheBounded bound e) (retentionHours : Int)
    (now : DateTime) : CacheBounded bound (e.cleanupOldData retentionHours now) := by
  intro metricName cached found
  simpa [cleanupOldData] using bounded metricName cached found

end PredictionEngine

namespace Engines

variable {bound : Nat} {s : Engines}

theorem cache_bounded_step (bounded : s.predictor.CacheBounded bound) (call : Call)
    (asked : ∀ stepsAhead, call.arimaSteps = some stepsAhead → stepsAhead ≤ bound) :
    (s.step call).2.predictor.CacheBounded bound := by
  cases call with
  | addDataPoint metricName value timestamp => exact bounded.add_data_point metricName value timestamp
  | predictArima metricName stepsAhead now =>
      exact bounded.predict_arima metricName stepsAhead now (asked stepsAhead rfl)
  | cleanupOldData retentionHours now => exact bounded.cleanup_old_data retentionHours now
  | _ => exact bounded

theorem cache_bounded_run (bounded : s.predictor.CacheBounded bound) (calls : List Call)
    (asked : ∀ stepsAhead ∈ calls.filterMap Call.arimaSteps, stepsAhead ≤ bound) :
    (s.run calls).2.predictor.CacheBounded bound := by
  induction calls generalizing s with
  | nil => exact bounded
  | cons call rest ih =>
      refine ih (cache_bounded_step bounded call fun stepsAhead found => asked stepsAhead ?_)
        fun stepsAhead member => asked stepsAhead ?_
      · simp [List.filterMap_cons, found]
      · simp only [List.filterMap_cons]
        split <;> simp [member]

theorem series_is_some_step (call : Call) (metricName : String) :
    ((s.step call).2.predictor.timeSeries metricName).isSome ↔
      (s.predictor.timeSeries metricName).isSome ∨ call.addedMetric = some metricName := by
  cases call with
  | addDataPoint named value timestamp =>
      by_cases same : metricName = named
      · subst same
        simp [step, PredictionEngine.addDataPoint, Call.addedMetric]
      · simp [step, PredictionEngine.addDataPoint, Call.addedMetric, Function.update_noteq same,
          Ne.symm same]
  | predictArima named stepsAhead now =>
      rcases PredictionEngine.predict_arima_state s.predictor named stepsAhead now with
        same | ⟨cached, cachedEq⟩
      · simp [step, same, Call.addedMetric]
      · simp [step, cachedEq, Call.addedMetric]
  | cleanupOldData retentionHours now =>
      simp [step, PredictionEngine.cleanupOldData, Call.addedMetric]
  | _ => simp [step, Call.addedMetric]

/-- A metric has a series after a run exactly when it had one before or the run added a point
to it. -/
theorem series_is_some_run (calls : List Call) (metricName : String) :
    ((s.run calls).2.predictor.timeSeries metricName).isSome ↔
      (s.predictor.timeSeries metricName).isSome ∨ metricName ∈ calls.filterMap Call.addedMetric := by
  induction calls generalizing s with
  | nil => simp [run]
  | cons call rest ih =>
      simp only [run, ih, series_is_some_step]
      cases added : call.addedMetric with
      | none => simp [List.filterMap_cons, added]
      | some named => simp [List.filterMap_cons, added, or_assoc, @eq_comm _ named metricName]

end Engines

/-- get_stats of the prediction engine after any run of calls from fresh engines, given the keys
of its two maps: total_time_series is the number of distinct metrics add_data_point was called
on, there are never more cached forecasts than series, and the cached forecasts hold at most as
many points each as the largest steps_ahead a predict_arima call asked for. -/
theorem prediction_get_stats_accounting (config : AnalyticsConfig) (calls : List Call)
    (seriesKeys predictionKeys : List String) (seriesDistinct : seriesKeys.Nodup)
    (seriesKeyed : ∀ metricName, metricName ∈ seriesKeys ↔
      (((Engines.new config).run calls).2.predictor.timeSeries metricName).isSome)
    (predictionDistinct : predictionKeys.Nodup)
    (predictionKeyed : ∀ metricName, metricName ∈ predictionKeys ↔
      (((Engines.new config).run calls).2.predictor.predictions metricName).isSome) :
    (((Engines.new config).run calls).2.predictor.getStats seriesKeys predictionKeys).totalTimeSeries =
        (calls.filterMap Call.addedMetric).dedup.length ∧
      (((Engines.new config).run calls).2.predictor.getStats seriesKeys
          predictionKeys).totalCachedPredictions ≤
        (((Engines.new config).run calls).2.predictor.getStats seriesKeys predictionKeys).totalTimeSeries ∧
      (((Engines.new config).run calls).2.predictor.getStats seriesKeys
          predictionKeys).totalPredictionPoints ≤
        (((Engines.new config).run calls).2.predictor.getStats seriesKeys
          predictionKeys).totalCachedPredictions * (calls.filterMap Call.arimaSteps).foldr max 0 := by
  have asked : ∀ stepsAhead ∈ calls.filterMap Call.arimaSteps,
      stepsAhead ≤ (calls.filterMap Call.arimaSteps).foldr max 0 := fun stepsAhead member =>
    List.le_max_of_le member le_rfl
  have fresh : (Engines.new config).predictor.CacheBounded ((calls.filterMap Call.arimaSteps).foldr max 0) :=
    fun _ _ found => nomatch found
  have bounded := Engines.cache_bounded_run fresh calls asked
  have series : ∀ metricName, metricName ∈ seriesKeys ↔
      metricName ∈ (calls.filterMap Call.addedMetric).dedup := fun metricName => by
    rw [seriesKeyed, Engines.series_is_some_run, List.mem_dedup]
    simp [Engines.new, PredictionEngine.new]
  have cachedSeries : predictionKeys ⊆ seriesKeys := fun metricName member => by
    obtain ⟨cached, found⟩ := Option.isSome_iff_exists.mp ((predictionKeyed metricName).mp member)
    exact (seriesKeyed metricName).mpr (bounded metricName cached found).1
  refine ⟨((List.perm_ext_iff_of_nodup seriesDistinct (List.nodup_dedup _)).mpr series).length_eq,
    (predictionDistinct.subperm cachedSeries).length_le, ?_⟩
  generalize ((Engines.new config).run calls).2.predictor = e at bounded
  have each : ∀ points ∈ predictionKeys.map (fun metricName =>
      ((e.predictions metricName).map fun cached => cached.points.length).getD 0),
      points ≤ (calls.filterMap Call.arimaSteps).foldr max 0 := fun points member => by
    obtain ⟨metricName, -, rfl⟩ := List.mem_map.mp member
    cases found : e.predictions metricName with
    | none => simp
    | some cached => simpa using (bounded metricName cached found).2
  simpa [PredictionEngine.getStats] using List.sum_le_card_nsmul _ _ each

/-- Ten points on one metric and a forecast of two steps: one series and one cached forecast of
two points. -/
theorem prediction_get_stats_accounting_one_forecast :
    let calls : List Call := [.addDataPoint "cpu" 1 0, .addDataPoint "cpu" 2 60,
      .addDataPoint "cpu" 3 120, .addDataPoint "cpu" 4 180, .addDataPoint "cpu" 5 240,
      .addDataPoint "cpu" 6 300, .addDataPoint "cpu" 7 360, .addDataPoint "cpu" 8 420,
      .addDataPoint "cpu" 9 480, .addDataPoint "cpu" 10 540, .predictArima "cpu" 2 600]
    let final := ((Engines.new ⟨0, 100⟩).run calls).2.predictor
    ["cpu"].Nodup ∧ (∀ metricName, metricName ∈ ["cpu"] ↔ (final.timeSeries metricName).isSome) ∧
    ["cpu"].Nodup ∧ (∀ metricName, metricName ∈ ["cpu"] ↔ (final.predictions metricName).isSome) ∧
    (final.getStats ["cpu"] ["cpu"]).totalPredictionPoints = 2 ∧
    ((final.getStats ["cpu"] ["cpu"]).totalTimeSeries = (calls.filterMap Call.addedMetric).dedup.length ∧
      (final.getStats ["cpu"] ["cpu"]).totalCachedPredictions ≤
        (final.getStats ["cpu"] ["cpu"]).totalTimeSeries ∧
      (final.getStats ["cpu"] ["cpu"]).totalPredictionPoints ≤
        (final.getStats ["cpu"] ["cpu"]).totalCachedPredictions *
          (calls.filterMap Call.arimaSteps).foldr max 0) := by
  intro calls final
  have seriesKeyed : ∀ metricName, metricName ∈ ["cpu"] ↔ (final.timeSeries metricName).isSome :=
    fun metricName => by
      rw [Engines.series_is_some_run]
      simp [calls, Call.addedMetric, Engines.new, PredictionEngine.new]
  have predictionKeyed : ∀ metricName, metricName ∈ ["cpu"] ↔ (final.predictions metricName).isSome :=
    fun metricName => by
      by_cases same : metricName = "cpu"
      · subst same
        simpa using (by decide : (final.predictions "cpu").isSome = true)
      · have away : calls.filter (Call.touches metricName) = [] := by
          simp [calls, Call.touches, Call.metric, Ne.symm same]
        have unchanged := congrArg Engines.View.cached
          (@Engines.run_touching (Engines.new ⟨0, 100⟩) (Engines.new ⟨0, 100⟩) metricName calls rfl).2
        rw [away] at unchanged
        have uncached : final.predictions metricName = none := unchanged
        simp [same, uncached]
  exact ⟨by decide, seriesKeyed, by decide, predictionKeyed, by decide,
    prediction_get_stats_accounting _ calls _ _ (by decide) seriesKeyed (by decide) predictionKeyed⟩

end AnalyticsHub.Analytics
