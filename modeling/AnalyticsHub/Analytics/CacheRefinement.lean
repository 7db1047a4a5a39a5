import AnalyticsHub.Analytics.Engines

set_option autoImplicit false

/- predict_arima against a forecasting service with no cache, which answers every call with the
   forecast of the metric's current series. The cache is transparent when every predict_arima
   on a metric asks for the same number of steps and no cleanup_old_data runs: each cached
   forecast is then the forecast of the metric's current series, so a hit and a miss answer
   alike, whatever the TTL and the clock. Both conditions are needed: a hit returns the points
   cached for the steps of the call that filled it, and cleanup_old_data drops points without
   dropping the forecasts made from them. -/
namespace AnalyticsHub.Analytics

namespace PredictionEngine

/-- predict_arima without its cache: the forecast of the metric's current series. -/
def predictArimaUncached (e : PredictionEngine) (metricName : String) (stepsAhead : Nat) :
    Outcome (List PredictionPoint) :=
  match e.timeSeries metricName with
  | none => some (.error ("No time series data for " ++ metricName))
  | some tsData =>
      if tsData.values.length < 10 then
        some (.error "Insufficient data for prediction (need at least 10 points)")
      else (arimaForecast tsData stepsAhead).map .ok

/-- Every cached forecast is the forecast of its metric's current series, for the steps that
metric is always asked for. -/
def Coherent (steps : String → Nat) (e : PredictionEngine) : Prop :=
  ∀ metricName cached, e.predictions metricName = some cached →
    ∃ tsData, e.timeSeries metricName = some tsData ∧ ¬ tsData.values.length < 10 ∧
      arimaForecast tsData (steps metricName) = some cached.points

variable (steps : String → Nat) (e : PredictionEngine)

theorem coherent_new (config : AnalyticsConfig) : Coherent steps (new config) :=
  fun _ _ found => nomatch found

theorem add_data_point_coherent (coherent : Coherent steps e) (metricName : String) (value : ℚ)
    (timestamp : DateTime) : Coherent steps (e.addDataPoint metricName value timestamp) := by
  intro other cached found
  by_cases same : other = metricName
  · subst same
    simp [addDataPoint] at found
  · simp only [addDataPoint, Function.update_noteq same] at found ⊢
    exact coherent other cached found

theorem cache_hit_points (metricName : String) (now : DateTime) (points : List PredictionPoint)
    (hit : e.cacheHit metricName now = some points) :
    ∃ cached, e.predictions metricName = some cached ∧ cached.points = points := by
  unfold cacheHit at hit
  split at hit
  · rename_i cached found
    split_ifs at hit
    cases hit
    exact ⟨cached, found, rfl⟩
  · cases hit

/-- On a coherent engine predict_arima answers as the uncached service, and leaves the engine
coherent. -/
theorem predict_arima_coherent (coherent : Coherent steps e) (metricName : String) (now : DateTime) :
    (e.predictArima metricName (steps metricName) now).1 = e.predictArimaUncached metricName (steps metricName) ∧
      Coherent steps (e.predictArima metricName (steps metricName) now).2 := by
  unfold predictArima
  cases hit : e.cacheHit metricName now with
  | some points =>
      obtain ⟨cached, found, rfl⟩ := cache_hit_points e metricName now points hit
      obtain ⟨tsData, series, long, forecast⟩ := coherent metricName cached found
      exact ⟨by simp [predictArimaUncached, series, long, forecast], coherent⟩
  | none =>
      simp only [predictArimaUncached]
      cases series : e.timeSeries metricName with
      | none => exact ⟨rfl, coherent⟩
      | some tsData =>
          simp only
          split_ifs with short
          · exact ⟨rfl, coherent⟩
          · cases forecast : arimaForecast tsData (steps metricName) with
            | none => exact ⟨rfl, coherent⟩
            | some predictions =>
                refine ⟨rfl, fun other cached found => ?_⟩
                by_cases same : other = metricName
                · subst same
                  simp only [Function.update_same, Option.some.injEq] at found
                  subst found
                  exact ⟨tsData, series, short, forecast⟩
                · simp only [Function.update_noteq same] at found
                  exact coherent other cached found

end PredictionEngine

namespace Engines

/-- The engines with predict_arima answered by the uncached service. -/
def stepUncached (s : Engines) : Call → Reply × Engines
  | .predictArima metricName stepsAhead _ =>
      (.forecast (s.predictor.predictArimaUncached metricName stepsAhead), s)
  | call => s.step call

def runUncached (s : Engines) : List Call → List (Call × Reply) × Engines
  | [] => ([], s)
  | call :: rest =>
      let next := s.stepUncached call
      let after := next.2.runUncached rest
      ((call, next.1) :: after.1, after.2)

/-- The cached engines against the uncached ones: the same detector and series, and a coherent
cache. -/
structure CacheRefines (steps : String → Nat) (s₁ s₂ : Engines) : Prop where
  detector : s₁.detector = s₂.detector
  config : s₁.predictor.config = s₂.predictor.config
  series : s₁.predictor.timeSeries = s₂.predictor.timeSeries
  coherent : PredictionEngine.Coherent steps s₁.predictor

variable {steps : String → Nat} {s₁ s₂ : Engines}

theorem CacheRefines.uncached (refines : CacheRefines steps s₁ s₂) (metricName : String)
    (stepsAhead : Nat) :
    s₁.predictor.predictArimaUncached metricName stepsAhead =
      s₂.predictor.predictArimaUncached metricName stepsAhead := by
  simp only [PredictionEngine.predictArimaUncached, refines.series]

/-- A call other than cleanup_old_data, asking for its metric's steps if it is a predict_arima,
gets the same reply from both engines and keeps them related. -/
theorem CacheRefines.step (refines : CacheRefines steps s₁ s₂) (call : Call)
    (noCleanup : ∀ retentionHours now, call ≠ .cleanupOldData retentionHours now)
    (sameSteps : ∀ metricName stepsAhead now, call = .predictArima metricName stepsAhead now →
      stepsAhead = steps metricName) :
    (s₁.step call).1 = (s₂.stepUncached call).1 ∧
      CacheRefines steps (s₁.step call).2 (s₂.stepUncached call).2 := by
  obtain ⟨detector, config, series, coherent⟩ := refines
  cases call with
  | checkAnomaly metricName value timestamp =>
      exact ⟨by simp [Engines.step, stepUncached, detector], by simp [Engines.step, stepUncached, detector],
        config, series, coherent⟩
  | resetBaseline metricName =>
      exact ⟨rfl, by simp [Engines.step, stepUncached, detector], config, series, coherent⟩
  | getAnomalies metricName limit =>
      exact ⟨by simp [Engines.step, stepUncached, detector], detector, config, series, coherent⟩
  | addDataPoint metricName value timestamp =>
      refine ⟨rfl, detector, config, ?_, PredictionEngine.add_data_point_coherent steps _ coherent _ _ _⟩
      simp [Engines.step, stepUncached, PredictionEngine.addDataPoint, PredictionEngine.seriesOf, config, series]
  | predictArima metricName stepsAhead now =>
      obtain rfl := sameSteps metricName stepsAhead now rfl
      obtain ⟨reply, after⟩ := PredictionEngine.predict_arima_coherent steps _ coherent metricName now
      have unchanged : (s₁.predictor.predictArima metricName (steps metricName) now).2.config =
            s₁.predictor.config ∧
          (s₁.predictor.predictArima metricName (steps metricName) now).2.timeSeries =
            s₁.predictor.timeSeries := by
        rcases PredictionEngine.predict_arima_state s₁.predictor metricName (steps metricName) now with
          same | ⟨cached, cachedEq⟩
        · simp only [same, and_self]
        · simp only [cachedEq, and_self]
      refine ⟨?_, detector, ?_, ?_, after⟩
      · simp [Engines.step, stepUncached, reply,
          CacheRefines.uncached ⟨detector, config, series, coherent⟩ metricName (steps metricName)]
      · simp [Engines.step, stepUncached, unchanged.1, config]
      · simp [Engines.step, stepUncached, unchanged.2, series]
  | predictExponentialSmoothing metricName stepsAhead alpha =>
      exact ⟨by simp [Engines.step, stepUncached, PredictionEngine.predictExponentialSmoothing, series],
        detector, config, series, coherent⟩
  | cleanupOldData retentionHours now => exact absurd rfl (noCleanup retentionHours now)

theorem CacheRefines.run (refines : CacheRefines steps s₁ s₂) (calls : List Call)
    (noCleanup : ∀ retentionHours now, Call.cleanupOldData retentionHours now ∉ calls)
    (sameSteps : ∀ metricName stepsAhead now, Call.predictArima metricName stepsAhead now ∈ calls →
      stepsAhead = steps metricName) :
    (s₁.run calls).1 = (s₂.runUncached calls).1 := by
  induction calls generalizing s₁ s₂ with
  | nil => rfl
  | cons call rest ih =>
      obtain ⟨reply, after⟩ := refines.step call
        (fun hours now same => noCleanup hours now (same ▸ .head _))
        (fun metricName stepsAhead now same => sameSteps metricName stepsAhead now (same ▸ .head _))
      simp only [Engines.run, runUncached, reply, List.cons.injEq, true_and]
      exact ih after (fun hours now member => noCleanup hours now (.tail _ member))
        (fun metricName stepsAhead now member => sameSteps metricName stepsAhead now (.tail _ member))

end Engines

/-- The forecast cache refines the uncached forecasting service: over any run of calls with no
cleanup_old_data, in which every predict_arima on a metric asks for that metric's fixed number
of steps, every reply (each forecast, cache hit or miss, whatever the clock) is the reply of
the engines that forecast from the current series on every call. -/
theorem predict_arima_cache_transparent (config : AnalyticsConfig) (calls : List Call)
    (steps : String → Nat)
    (noCleanup : ∀ retentionHours now, Call.cleanupOldData retentionHours now ∉ calls)
    (sameSteps : ∀ metricName stepsAhead now, Call.predictArima metricName stepsAhead now ∈ calls →
      stepsAhead = steps metricName) :
    ((Engines.new config).run calls).1 = ((Engines.new config).runUncached calls).1 :=
  Engines.CacheRefines.run ⟨rfl, rfl, rfl, PredictionEngine.coherent_new steps config⟩ calls noCleanup
    sameSteps

/-- Ten points, then two forecasts of two steps a minute apart, the second served from the
cache, then a point that invalidates it and a forecast of the new series. -/
theorem predict_arima_cache_transparent_cache_hit :
    let history : List Call :=
      (List.range 10).map fun (k : Nat) => .addDataPoint "cpu" (k : ℚ) (Duration.minutes k)
    let calls := history ++ [.predictArima "cpu" 2 (Duration.minutes 10),
      .predictArima "cpu" 2 (Duration.minutes 11), .addDataPoint "cpu" 20 (Duration.minutes 12),
      .predictArima "cpu" 2 (Duration.minutes 13)]
    (((Engines.new ⟨0, 100⟩).run (history ++ [.predictArima "cpu" 2 (Duration.minutes 10)])).2.predictor.cacheHit
      "cpu" (Duration.minutes 11)).isSome = true ∧
    (∀ retentionHours now, Call.cleanupOldData retentionHours now ∉ calls) ∧
    (∀ metricName stepsAhead now, Call.predictArima metricName stepsAhead now ∈ calls →
      stepsAhead = (fun _ => 2) metricName) ∧
    ((Engines.new ⟨0, 100⟩).run calls).1 = ((Engines.new ⟨0, 100⟩).runUncached calls).1 := by
  intro history calls
  have noCleanup : ∀ retentionHours now, Call.cleanupOldData retentionHours now ∉ calls := by
    simp [calls, history]
  have sameSteps : ∀ metricName stepsAhead now, Call.predictArima metricName stepsAhead now ∈ calls →
      stepsAhead = (fun _ => 2) metricName := by
    intro metricName stepsAhead now member
    simp only [calls, history, List.mem_append, List.mem_map, List.mem_cons, Call.predictArima.injEq,
      List.mem_singleton, List.not_mem_nil, or_false, reduceCtorEq, false_or, and_false,
      exists_false] at member
    rcases member with ⟨-, rfl, -⟩ | ⟨-, rfl, -⟩ | ⟨-, rfl, -⟩ <;> rfl
  exact ⟨by decide, noCleanup, sameSteps, predict_arima_cache_transparent _ calls _ noCleanup sameSteps⟩

end AnalyticsHub.Analytics
