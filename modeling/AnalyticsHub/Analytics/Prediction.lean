import AnalyticsHub.Analytics.Window
import Mathlib.Logic.Function.Basic
import Mathlib.Algebra.Order.Field.Rat
import Mathlib.Algebra.Order.Field.Basic
import Mathlib.Tactic.NormNum
import Mathlib.Tactic.Linarith

set_option autoImplicit false

namespace AnalyticsHub.Analytics

structure PredictionPoint where
  timestamp : DateTime
  value : ℚ
  confidence : ℚ
  lowerBound : ℚ
  upperBound : ℚ
deriving DecidableEq, Repr

structure CachedPrediction where
  points : List PredictionPoint
  createdAt : DateTime
  ttlSeconds : Int
deriving DecidableEq, Repr

def CachedPrediction.isValid (cached : CachedPrediction) (now : DateTime) : Bool :=
  Duration.numSeconds (now - cached.createdAt) < cached.ttlSeconds

structure PredictionEngine where
  config : AnalyticsConfig
  timeSeries : String → Option TimeSeriesData
  predictions : String → Option CachedPrediction

/-- The result of a call that returns an `anyhow::Result` and can panic; `none` is a panic. -/
abbrev Outcome (α : Type) := Option (Except String α)

namespace PredictionEngine

def new (config : AnalyticsConfig) : PredictionEngine := ⟨config, fun _ => none, fun _ => none⟩

-- The series the entry API hands to add_data_point: the stored one, or a fresh one.
def seriesOf (e : PredictionEngine) (metricName : String) : TimeSeriesData :=
  (e.timeSeries metricName).getD (TimeSeriesData.new e.config.predictionHistorySize)

def addDataPoint (e : PredictionEngine) (metricName : String) (value : ℚ) (timestamp : DateTime) :
    PredictionEngine :=
  let data := (e.seriesOf metricName).addPoint value timestamp
  { e with timeSeries := Function.update e.timeSeries metricName (some data),
           predictions := Function.update e.predictions metricName none }

def calculateTrend (values : List ℚ) : ℚ × ℚ :=
  let n : ℚ := values.length
  let xSum := ((List.range values.length).map fun i => (i : ℚ)).sum
  let ySum := values.sum
  let xySum := (values.enum.map fun point => (point.1 : ℚ) * point.2).sum
  let xSquaredSum := ((List.range values.length).map fun i => (i : ℚ) ^ 2).sum
  let slope := (n * xySum - xSum * ySum) / (n * xSquaredSum - xSum ^ 2)
  let intercept := (ySum - slope * xSum) / n
  (slope, intercept)

-- The inner while loop of calculate_seasonality: from index j, add up every period-th value.
def phaseLoop (values : List ℚ) (period : Nat) : Nat → Nat → ℚ → Nat → ℚ × Nat
  | 0, _, sum, count => (sum, count)
  | fuel + 1, j, sum, count =>
      if j < values.length then
        phaseLoop values period fuel (j + period) (sum + values.getD j 0) (count + 1)
      else (sum, count)

def calculateSeasonality (values : List ℚ) : List ℚ :=
  let period := min 24 (values.length / 2)
  let seasonal := (List.range period).map fun i =>
    let phase := phaseLoop values period (values.length + 1) i 0 0
    if phase.2 > 0 then phase.1 / phase.2 else 0
  let mean := seasonal.sum / seasonal.length
  seasonal.map fun v => v - mean

def calculateConfidence (step totalSteps : Nat) : ℚ :=
  max (0.95 - 0.05 * ((step : ℚ) / totalSteps)) 0.5

-- One iteration of the forecast loop of arima_forecast; `none` where indexing `seasonal`
-- (or taking the remainder by its length) panics.
def arimaStep (n steps : Nat) (lastTimestamp : DateTime) (slope intercept : ℚ)
    (seasonal : List ℚ) (i : Nat) : Option PredictionPoint := do
  let trendValue := slope * ((n + i : Nat) : ℚ) + intercept
  let seasonalValue ← seasonal[(n + i) % seasonal.length]?
  let predictedValue := trendValue + seasonalValue
  let confidence := calculateConfidence i steps
  pure ⟨lastTimestamp + Duration.minutes i, predictedValue, confidence,
    predictedValue * (1 - 0.1 * (1 - confidence)), predictedValue * (1 + 0.1 * (1 - confidence))⟩

def arimaForecast (tsData : TimeSeriesData) (steps : Nat) : Option (List PredictionPoint) := do
  let values := tsData.values
  let lastTimestamp ← tsData.timestamps.getLast?
  let trend := calculateTrend values
  let seasonal := calculateSeasonality values
  (List.range steps).mapM fun k =>
    arimaStep values.length steps lastTimestamp trend.1 trend.2 seasonal (k + 1)

-- The cached points predict_arima serves without recomputing, if any.
def cacheHit (e : PredictionEngine) (metricName : String) (now : DateTime) :
    Option (List PredictionPoint) :=
  match e.predictions metricName with
  | some cached => if cached.isValid now then some cached.points else none
  | none => none

def predictArima (e : PredictionEngine) (metricName : String) (stepsAhead : Nat) (now : DateTime) :
    Outcome (List PredictionPoint) × PredictionEngine :=
  match e.cacheHit metricName now with
  | some points => (some (.ok points), e)
  | none =>
      match e.timeSeries metricName with
      | none => (some (.error ("No time series data for " ++ metricName)), e)
      | some tsData =>
          if tsData.values.length < 10 then
            (some (.error "Insufficient data for prediction (need at least 10 points)"), e)
          else
            match arimaForecast tsData stepsAhead with
            | none => (none, e)
            | some predictions =>
                let cached : CachedPrediction := ⟨predictions, now, 300⟩
                (some (.ok predictions),
                  { e with predictions := Function.update e.predictions metricName (some cached) })

-- The body of predict_exponential_smoothing after its two checks; `none` where it panics.
def smoothingForecast (tsData : TimeSeriesData) (stepsAhead : Nat) (alpha : ℚ) :
    Option (List PredictionPoint) := do
  let values := tsData.values
  let lastTimestamp ← tsData.timestamps.getLast?
  let first ← values[0]?
  let smoothed := (values.drop 1).foldl
    (fun smoothed value => alpha * value + (1 - alpha) * smoothed) first
  pure ((List.range stepsAhead).map fun k =>
    ⟨lastTimestamp + Duration.minutes (k + 1 : Nat), smoothed,
      calculateConfidence (k + 1) stepsAhead, smoothed * 0.9, smoothed * 1.1⟩)

def predictExponentialSmoothing (e : PredictionEngine) (metricName : String) (stepsAhead : Nat)
    (alpha : ℚ) : Outcome (List PredictionPoint) :=
  match e.timeSeries metricName with
  | none => some (.error ("No time series data for " ++ metricName))
  | some tsData =>
      if tsData.values.isEmpty then some (.error "No data available for prediction")
      else (smoothingForecast tsData stepsAhead alpha).map .ok

def cleanupOldData (e : PredictionEngine) (retentionHours : Int) (now : DateTime) :
    PredictionEngine :=
  let cutoff := now - Duration.hours retentionHours
  { e with timeSeries := fun metricName => (e.timeSeries metricName).map (·.cleanupBefore cutoff) }

theorem add_data_points (e : PredictionEngine) (metricName : String) (point : ℚ × DateTime)
    (points : List (ℚ × DateTime)) :
    let fed := (point :: points).foldl (fun e point => e.addDataPoint metricName point.1 point.2) e
    fed.timeSeries metricName = some ((e.seriesOf metricName).pushAll (point :: points)) ∧
      fed.predictions metricName = none ∧ fed.config = e.config := by
  induction points generalizing e point with
  | nil => simp [addDataPoint, Window.pushAll, TimeSeriesData.addPoint]
  | cons next rest ih =>
      obtain ⟨series, cleared, config⟩ := ih (e.addDataPoint metricName point.1 point.2) next
      refine ⟨?_, cleared, config⟩
      rw [List.foldl_cons, series]
      simp [addDataPoint, seriesOf, Window.pushAll, TimeSeriesData.addPoint]

/-- predict_arima either leaves the engine as it is or caches a forecast for its metric. -/
theorem predict_arima_state (e : PredictionEngine) (metricName : String) (stepsAhead : Nat)
    (now : DateTime) :
    (e.predictArima metricName stepsAhead now).2 = e ∨ ∃ cached : CachedPrediction,
      (e.predictArima metricName stepsAhead now).2 =
        { e with predictions := Function.update e.predictions metricName (some cached) } := by
  unfold predictArima
  split
  · exact .inl rfl
  · split
    · exact .inl rfl
    · split_ifs
      · exact .inl rfl
      · split
        · exact .inl rfl
        · exact .inr ⟨_, rfl⟩

/-- predict_arima reads only the metric's series and cache entry: engines that agree there give
the same reply and cache the same entry. -/
theorem predict_arima_local (e e' : PredictionEngine) (metricName : String) (stepsAhead : Nat)
    (now : DateTime) (series : e.timeSeries metricName = e'.timeSeries metricName)
    (cached : e.predictions metricName = e'.predictions metricName) :
    (e.predictArima metricName stepsAhead now).1 = (e'.predictArima metricName stepsAhead now).1 ∧
    (e.predictArima metricName stepsAhead now).2.predictions metricName =
      (e'.predictArima metricName stepsAhead now).2.predictions metricName := by
  have hit : e.cacheHit metricName now = e'.cacheHit metricName now := by simp [cacheHit, cached]
  simp only [predictArima, hit, series]
  split
  · exact ⟨rfl, cached⟩
  · split
    · exact ⟨rfl, cached⟩
    · split_ifs
      · exact ⟨rfl, cached⟩
      · split <;> simp [cached]

theorem map_m_some {α β : Type} (f : α → Option β) (g : α → β) (l : List α)
    (total : ∀ a ∈ l, f a = some (g a)) : l.mapM f = some (l.map g) := by
  induction l with
  | nil => rfl
  | cons a rest ih =>
      rw [List.mapM_cons, total a (.head _), ih (fun a member => total a (.tail _ member))]
      rfl

theorem seasonality_length (values : List ℚ) :
    (calculateSeasonality values).length = min 24 (values.length / 2) := by
  simp [calculateSeasonality]

-- The point arima_forecast emits at step i, once `seasonal` is known to be non-empty.
def arimaPoint (n steps : Nat) (lastTimestamp : DateTime) (slope intercept : ℚ)
    (seasonal : List ℚ) (i : Nat) : PredictionPoint :=
  let predictedValue := slope * ((n + i : Nat) : ℚ) + intercept +
    seasonal.getD ((n + i) % seasonal.length) 0
  let confidence := calculateConfidence i steps
  ⟨lastTimestamp + Duration.minutes i, predictedValue, confidence,
    predictedValue * (1 - 0.1 * (1 - confidence)), predictedValue * (1 + 0.1 * (1 - confidence))⟩

theorem arima_step_some (n steps : Nat) (lastTimestamp : DateTime) (slope intercept : ℚ)
    (seasonal : List ℚ) (i : Nat) (nonempty : seasonal ≠ []) :
    arimaStep n steps lastTimestamp slope intercept seasonal i =
      some (arimaPoint n steps lastTimestamp slope intercept seasonal i) := by
  have bound : (n + i) % seasonal.length < seasonal.length :=
    Nat.mod_lt _ (List.length_pos.mpr nonempty)
  simp [arimaStep, arimaPoint, List.getElem?_eq_getElem bound, List.getD_eq_getElem?_getD]

/-- With a last timestamp and at least two values, arima_forecast emits one point per step,
the i-th evaluated at index `n + i`. -/
theorem arima_forecast_points (tsData : TimeSeriesData) (steps : Nat) (lastTimestamp : DateTime)
    (stamped : tsData.timestamps.getLast? = some lastTimestamp) (two : 2 ≤ tsData.values.length) :
    arimaForecast tsData steps = some ((List.range steps).map fun k =>
      arimaPoint tsData.values.length steps lastTimestamp (calculateTrend tsData.values).1
        (calculateTrend tsData.values).2 (calculateSeasonality tsData.values) (k + 1)) := by
  have nonempty : calculateSeasonality tsData.values ≠ [] := by
    apply List.ne_nil_of_length_pos
    rw [seasonality_length]
    omega
  simp only [arimaForecast, stamped, Option.bind_eq_bind, Option.some_bind]
  exact map_m_some _ _ _ fun k _ => arima_step_some _ _ _ _ _ _ _ nonempty

/-- A history with a peak at minutes 2 and 7: the next peak is due at index 12, three steps
after the last point, but predict_arima, which evaluates step i at index `n + i`, puts it at
the second step. -/
theorem predict_arima_shifted_peak :
    let history : List (ℚ × DateTime) := [(0, Duration.minutes 0), (0, Duration.minutes 1),
      (1, Duration.minutes 2), (0, Duration.minutes 3), (0, Duration.minutes 4), (0, Duration.minutes 5),
      (0, Duration.minutes 6), (1, Duration.minutes 7), (0, Duration.minutes 8), (0, Duration.minutes 9)]
    let e := history.foldl (fun e point => e.addDataPoint "load" point.1 point.2) (new ⟨0, 100⟩)
    ∃ points, (e.predictArima "load" 3 (Duration.minutes 10)).1 = some (.ok points) ∧
      points.map PredictionPoint.value = [0, 1, 0] := by
  intro history e
  have fed : e.timeSeries "load" = some ((TimeSeriesData.new 100).pushAll history) ∧
      e.predictions "load" = none :=
    ⟨(add_data_points (new ⟨0, 100⟩) "load" _ _).1, (add_data_points (new ⟨0, 100⟩) "load" _ _).2.1⟩
  have window := Window.push_all_new 100 history
  clear_value e
  simp only [history, List.rtake, List.map, List.length, TimeSeriesData.new] at window fed
  obtain ⟨⟨series, cleared⟩, values, stamps⟩ := And.intro fed window
  have trend : calculateTrend [0, 0, 1, 0, 0, 0, 0, 1, 0, 0] = (0, 1 / 5) := by
    norm_num [calculateTrend, List.range_succ, List.enum]
  have seasonal : calculateSeasonality [0, 0, 1, 0, 0, 0, 0, 1, 0, 0] =
      [-1 / 5, -1 / 5, 4 / 5, -1 / 5, -1 / 5] := by
    simp only [calculateSeasonality, List.length_cons, List.length_nil, Nat.reduceAdd,
      Nat.reduceDiv, show min 24 5 = 5 from rfl, show List.range 5 = [0, 1, 2, 3, 4] from rfl]
    simp only [List.map_cons, List.map_nil, phaseLoop, List.length_cons, List.length_nil,
      Nat.reduceAdd, Nat.reduceLT, if_true, if_false, List.getD_cons_succ, List.getD_cons_zero]
    norm_num
  have miss : e.cacheHit "load" (Duration.minutes 10) = none := by simp [cacheHit, cleared]
  simp only [predictArima, miss, series]
  rw [if_neg (by simp [values]),
    arima_forecast_points _ 3 (Duration.minutes 9) (by simp [stamps]) (by simp [values])]
  refine ⟨_, rfl, ?_⟩
  norm_num [values, trend, seasonal, arimaPoint, List.range_succ]

theorem calculate_confidence_range (i steps : Nat) (positive : 1 ≤ i) (within : i ≤ steps) :
    9 / 10 ≤ calculateConfidence i steps ∧ calculateConfidence i steps < 19 / 20 := by
  have stepsPos : (0 : ℚ) < steps := by exact_mod_cast (by omega : 0 < steps)
  have ratio : (0 : ℚ) < (i : ℚ) / steps ∧ (i : ℚ) / steps ≤ 1 := by
    refine ⟨div_pos (by exact_mod_cast positive) stepsPos, (div_le_one stepsPos).mpr (by exact_mod_cast within)⟩
  have above : (0.5 : ℚ) ≤ 0.95 - 0.05 * ((i : ℚ) / steps) := by linarith
  rw [calculateConfidence, max_eq_left above]
  constructor <;> linarith

/-- A band `v * (1 - d)`, `v * (1 + d)` with `d > 0` contains `v` exactly when `v ≥ 0`. -/
theorem band_contains_iff (v d : ℚ) (positive : 0 < d) :
    (v * (1 - d) ≤ v ∧ v ≤ v * (1 + d)) ↔ 0 ≤ v := by
  constructor
  · rintro ⟨lower, -⟩
    nlinarith
  · intro nonneg
    constructor <;> nlinarith

/-- Every arima point lies in the confidence range, and its band contains the forecast exactly
when the forecast is not negative. -/
theorem arima_point_band (n steps : Nat) (lastTimestamp : DateTime) (slope intercept : ℚ)
    (seasonal : List ℚ) (i : Nat) (positive : 1 ≤ i) (within : i ≤ steps) :
    let point := arimaPoint n steps lastTimestamp slope intercept seasonal i
    1 / 2 ≤ point.confidence ∧ point.confidence ≤ 19 / 20 ∧
      ((point.lowerBound ≤ point.value ∧ point.value ≤ point.upperBound) ↔ 0 ≤ point.value) := by
  obtain ⟨low, high⟩ := calculate_confidence_range i steps positive within
  refine ⟨by simp only [arimaPoint]; linarith, by simp only [arimaPoint]; linarith, ?_⟩
  exact band_contains_iff _ _ (by linarith)

/-- A metric falling steadily from 100 to 10: the second forecast step extrapolates to -20, and
its lower bound -19.8 lies above the forecast and its upper bound -20.2 below it. -/
theorem predict_arima_bounds_swapped :
    let history : List (ℚ × DateTime) := [(100, Duration.minutes 0), (90, Duration.minutes 1),
      (80, Duration.minutes 2), (70, Duration.minutes 3), (60, Duration.minutes 4), (50, Duration.minutes 5),
      (40, Duration.minutes 6), (30, Duration.minutes 7), (20, Duration.minutes 8), (10, Duration.minutes 9)]
    let e := history.foldl (fun e point => e.addDataPoint "cpu" point.1 point.2) (new ⟨0, 100⟩)
    ∃ points, (e.predictArima "cpu" 2 (Duration.minutes 10)).1 = some (.ok points) ∧
      points.map (fun point => (point.lowerBound, point.value, point.upperBound)) =
        [(0, 0, 0), (-99 / 5, -20, -101 / 5)] := by
  intro history e
  have fed : e.timeSeries "cpu" = some ((TimeSeriesData.new 100).pushAll history) ∧
      e.predictions "cpu" = none :=
    ⟨(add_data_points (new ⟨0, 100⟩) "cpu" _ _).1, (add_data_points (new ⟨0, 100⟩) "cpu" _ _).2.1⟩
  have window := Window.push_all_new 100 history
  clear_value e
  simp only [history, List.rtake, List.map, List.length, TimeSeriesData.new] at window fed
  obtain ⟨⟨series, cleared⟩, values, stamps⟩ := And.intro fed window
  have trend : calculateTrend [100, 90, 80, 70, 60, 50, 40, 30, 20, 10] = (-10, 100) := by
    norm_num [calculateTrend, List.range_succ, List.enum]
  have seasonal : calculateSeasonality [100, 90, 80, 70, 60, 50, 40, 30, 20, 10] =
      [20, 10, 0, -10, -20] := by
    simp only [calculateSeasonality, List.length_cons, List.length_nil, Nat.reduceAdd,
      Nat.reduceDiv, show min 24 5 = 5 from rfl, show List.range 5 = [0, 1, 2, 3, 4] from rfl]
    simp only [List.map_cons, List.map_nil, phaseLoop, List.length_cons, List.length_nil,
      Nat.reduceAdd, Nat.reduceLT, if_true, if_false, List.getD_cons_succ, List.getD_cons_zero]
    norm_num
  have miss : e.cacheHit "cpu" (Duration.minutes 10) = none := by simp [cacheHit, cleared]
  simp only [predictArima, miss, series]
  rw [if_neg (by simp [values]),
    arima_forecast_points _ 2 (Duration.minutes 9) (by simp [stamps]) (by simp [values])]
  refine ⟨_, rfl, ?_⟩
  norm_num [values, trend, seasonal, arimaPoint, calculateConfidence, List.range_succ]

end PredictionEngine

end AnalyticsHub.Analytics
