import AnalyticsHub.Analytics.Anomaly
import AnalyticsHub.Analytics.Prediction

set_option autoImplicit false

/- The anomaly detector and the prediction engine driven by one sequence of calls, as the
   aggregation engine drives them. Each call runs to completion before the next, and every
   input a call reads from its environment (a clock reading) is an argument of the call. -/
namespace AnalyticsHub.Analytics

structure Engines where
  detector : AnomalyDetector
  predictor : PredictionEngine

inductive Call where
  | checkAnomaly (metricName : String) (value : ℚ) (timestamp : DateTime)
  | resetBaseline (metricName : String)
  | getAnomalies (metricName : String) (limit : Nat)
  | addDataPoint (metricName : String) (value : ℚ) (timestamp : DateTime)
  | predictArima (metricName : String) (stepsAhead : Nat) (now : DateTime)
  | predictExponentialSmoothing (metricName : String) (stepsAhead : Nat) (alpha : ℚ)
  | cleanupOldData (retentionHours : Int) (now : DateTime)
deriving DecidableEq, Repr

inductive Reply where
  | anomaly (result : Option Anomaly)
  | anomalies (recent : List Anomaly)
  | forecast (result : Outcome (List PredictionPoint))
  | done

namespace Call

-- The metric a call names; cleanup_old_data names none and touches every metric.
def metric : Call → Option String
  | .checkAnomaly metricName _ _ | .resetBaseline metricName | .getAnomalies metricName _
  | .addDataPoint metricName _ _ | .predictArima metricName _ _
  | .predictExponentialSmoothing metricName _ _ => some metricName
  | .cleanupOldData _ _ => none

def touches (metricName : String) (call : Call) : Bool :=
  match call.metric with
  | some named => named = metricName
  | none => true

-- The value and timestamp the call adds to the metric's baseline, if any.
def baselineInput (metricName : String) : Call → Option (ℚ × DateTime)
  | .checkAnomaly named value timestamp => if named = metricName then some (value, timestamp) else none
  | _ => none

-- The value and timestamp the call adds to the metric's series, if any.
def seriesInput (metricName : String) : Call → Option (ℚ × DateTime)
  | .addDataPoint named value timestamp => if named = metricName then some (value, timestamp) else none
  | _ => none

end Call

namespace Engines

def new (config : AnalyticsConfig) : Engines :=
  ⟨AnomalyDetector.new config, PredictionEngine.new config⟩

def step (s : Engines) : Call → Reply × Engines
  | .checkAnomaly metricName value timestamp =>
      let result := s.detector.checkAnomaly metricName value timestamp
      (.anomaly result.1, { s with detector := result.2 })
  | .resetBaseline metricName => (.done, { s with detector := s.detector.resetBaseline metricName })
  | .getAnomalies metricName limit => (.anomalies (s.detector.getAnomalies metricName limit), s)
  | .addDataPoint metricName value timestamp =>
      (.done, { s with predictor := s.predictor.addDataPoint metricName value timestamp })
  | .predictArima metricName stepsAhead now =>
      let result := s.predictor.predictArima metricName stepsAhead now
      (.forecast result.1, { s with predictor := result.2 })
  | .predictExponentialSmoothing metricName stepsAhead alpha =>
      (.forecast (s.predictor.predictExponentialSmoothing metricName stepsAhead alpha), s)
  | .cleanupOldData retentionHours now =>
      (.done, { s with predictor := s.predictor.cleanupOldData retentionHours now })

-- The calls of a run paired with their replies, and the final state.
def run (s : Engines) : List Call → List (Call × Reply) × Engines
  | [] => ([], s)
  | call :: rest =>
      let next := s.step call
      let after := next.2.run rest
      ((call, next.1) :: after.1, after.2)

/-- Everything the engines hold about one metric, with the configuration they share. -/
structure View where
  detectorConfig : AnalyticsConfig
  baseline : Option MetricBaseline
  log : Option (List Anomaly)
  predictorConfig : AnalyticsConfig
  series : Option TimeSeriesData
  cached : Option CachedPrediction

def view (s : Engines) (metricName : String) : View :=
  ⟨s.detector.config, s.detector.baselines metricName, s.detector.anomalies metricName,
    s.predictor.config, s.predictor.timeSeries metricName, s.predictor.predictions metricName⟩

variable {s s' : Engines}

/-- A call that does not touch a metric leaves everything held about it. -/
theorem step_frame (call : Call) (metricName : String) (away : call.touches metricName = false) :
    (s.step call).2.view metricName = s.view metricName := by
  cases call with
  | checkAnomaly named value timestamp =>
      have different : metricName ≠ named := by simpa [Call.touches, Call.metric, eq_comm] using away
      simp [step, view, Function.update_noteq different,
        AnomalyDetector.check_anomaly_anomalies_other _ _ _ _ _ different]
  | resetBaseline named =>
      have different : metricName ≠ named := by simpa [Call.touches, Call.metric, eq_comm] using away
      simp [step, view, AnomalyDetector.resetBaseline, Function.update_noteq different]
  | getAnomalies => rfl
  | addDataPoint named value timestamp =>
      have different : metricName ≠ named := by simpa [Call.touches, Call.metric, eq_comm] using away
      simp [step, view, PredictionEngine.addDataPoint, Function.update_noteq different]
  | predictArima named stepsAhead now =>
      have different : metricName ≠ named := by simpa [Call.touches, Call.metric, eq_comm] using away
      rcases PredictionEngine.predict_arima_state s.predictor named stepsAhead now with kept | ⟨cached, cachedEq⟩
      · simp [step, view, kept]
      · simp [step, view, cachedEq, Function.update_noteq different]
  | predictExponentialSmoothing => rfl
  | cleanupOldData => simp [Call.touches, Call.metric] at away

/-- A call that touches a metric reads only what the engines hold about it: engines that agree
there give the same reply and agree there afterwards. -/
theorem step_local (call : Call) (metricName : String) (touch : call.touches metricName = true)
    (same : s.view metricName = s'.view metricName) :
    (s.step call).1 = (s'.step call).1 ∧
      (s.step call).2.view metricName = (s'.step call).2.view metricName := by
  simp only [view, View.mk.injEq] at same
  obtain ⟨detectorConfig, baseline, log, predictorConfig, series, cached⟩ := same
  cases call with
  | checkAnomaly named value timestamp =>
      obtain rfl : named = metricName := by simpa [Call.touches, Call.metric] using touch
      obtain ⟨reply, logAfter⟩ := AnomalyDetector.check_anomaly_local s.detector named value timestamp
        s'.detector detectorConfig baseline log
      simp [step, view, reply, logAfter, detectorConfig, baseline, predictorConfig, series, cached,
        AnomalyDetector.baselineOf]
  | resetBaseline named =>
      obtain rfl : named = metricName := by simpa [Call.touches, Call.metric] using touch
      simp [step, view, AnomalyDetector.resetBaseline, detectorConfig, log, predictorConfig, series,
        cached]
  | getAnomalies named limit =>
      obtain rfl : named = metricName := by simpa [Call.touches, Call.metric] using touch
      simp [step, view, AnomalyDetector.getAnomalies, detectorConfig, baseline, log, predictorConfig,
        series, cached]
  | addDataPoint named value timestamp =>
      obtain rfl : named = metricName := by simpa [Call.touches, Call.metric] using touch
      simp [step, view, PredictionEngine.addDataPoint, PredictionEngine.seriesOf, detectorConfig,
        baseline, log, predictorConfig, series]
  | predictArima named stepsAhead now =>
      obtain rfl : named = metricName := by simpa [Call.touches, Call.metric] using touch
      obtain ⟨reply, cachedAfter⟩ := PredictionEngine.predict_arima_local s.predictor s'.predictor
        named stepsAhead now series cached
      refine ⟨by simp [step, reply], ?_⟩
      rcases PredictionEngine.predict_arima_state s.predictor named stepsAhead now with kept | ⟨c, left⟩ <;>
      rcases PredictionEngine.predict_arima_state s'.predictor named stepsAhead now with kept' | ⟨c', right⟩ <;>
      simp_all [step, view]
  | predictExponentialSmoothing named stepsAhead alpha =>
      obtain rfl : named = metricName := by simpa [Call.touches, Call.metric] using touch
      simp [step, view, PredictionEngine.predictExponentialSmoothing, detectorConfig, baseline, log,
        predictorConfig, series, cached]
  | cleanupOldData retentionHours now =>
      simp [step, view, PredictionEngine.cleanupOldData, detectorConfig, baseline, log,
        predictorConfig, series, cached]

-- The calls of a transcript that name the metric, with their replies.
def observed (metricName : String) (transcript : List (Call × Reply)) : List (Call × Reply) :=
  transcript.filter fun entry => entry.1.metric = some metricName

theorem observed_cons (metricName : String) (call : Call) (reply : Reply)
    (transcript : List (Call × Reply)) :
    observed metricName ((call, reply) :: transcript) =
      if call.metric = some metricName then (call, reply) :: observed metricName transcript
      else observed metricName transcript := by
  by_cases named : call.metric = some metricName <;> simp [observed, List.filter_cons, named]

theorem not_touches_not_named (call : Call) (metricName : String)
    (away : call.touches metricName = false) : call.metric ≠ some metricName := by
  intro named
  simp [Call.touches, named] at away

/-- Running all calls, or only those that touch the metric from a state that agrees on it,
observes the same of the metric and ends in states that agree on it. -/
theorem run_touching (metricName : String) (calls : List Call)
    (same : s.view metricName = s'.view metricName) :
    observed metricName (s.run calls).1 =
        observed metricName (s'.run (calls.filter (Call.touches metricName))).1 ∧
      (s.run calls).2.view metricName =
        (s'.run (calls.filter (Call.touches metricName))).2.view metricName := by
  induction calls generalizing s s' with
  | nil => exact ⟨rfl, same⟩
  | cons call rest ih =>
      by_cases touch : call.touches metricName = true
      · obtain ⟨reply, after⟩ := step_local call metricName touch same
        obtain ⟨seen, final⟩ := ih after
        simp only [run, List.filter_cons, touch, if_true, observed_cons, reply, seen, final, and_self]
      · have away : call.touches metricName = false := by simpa using touch
        obtain ⟨seen, final⟩ := ih ((step_frame call metricName away).trans same)
        simp only [run, List.filter_cons, away, Bool.false_eq_true, if_false, observed_cons,
          not_touches_not_named call metricName away, seen, final, and_self]

/-- Two runs that make the same calls touching a metric, in the same order and at the same
clock readings, from states that agree on it, observe the same of it: every call naming the
metric gets the same reply, and the anomaly logs of the metric end equal. Calls on other
metrics, in any number and order, change nothing observed of it. -/
theorem metric_noninterference (metricName : String) (s₁ s₂ : Engines) (calls₁ calls₂ : List Call)
    (same : s₁.view metricName = s₂.view metricName)
    (agree : calls₁.filter (Call.touches metricName) = calls₂.filter (Call.touches metricName)) :
    observed metricName (s₁.run calls₁).1 = observed metricName (s₂.run calls₂).1 ∧
      ∀ limit, (s₁.run calls₁).2.detector.getAnomalies metricName limit =
        (s₂.run calls₂).2.detector.getAnomalies metricName limit := by
  obtain ⟨seen₁, final₁⟩ := run_touching metricName calls₁ same
  obtain ⟨seen₂, final₂⟩ := run_touching metricName calls₂ (rfl : s₂.view metricName = _)
  rw [agree] at seen₁ final₁
  have logs : (s₁.run calls₁).2.detector.anomalies metricName =
      (s₂.run calls₂).2.detector.anomalies metricName :=
    congrArg View.log (final₁.trans final₂.symm)
  exact ⟨seen₁.trans seen₂.symm, fun limit => by simp [AnomalyDetector.getAnomalies, logs]⟩

theorem metric_noninterference_other_metrics :
    (new ⟨0, 100⟩).view "latency" = (new ⟨0, 100⟩).view "latency" ∧
    [Call.checkAnomaly "latency" 5 0, .addDataPoint "cpu" 1 0].filter (Call.touches "latency") =
      [Call.addDataPoint "cpu" 7 0, .resetBaseline "cpu", .checkAnomaly "latency" 5 0].filter
        (Call.touches "latency") ∧
    observed "latency" ((new ⟨0, 100⟩).run [.checkAnomaly "latency" 5 0, .addDataPoint "cpu" 1 0]).1 =
      observed "latency" ((new ⟨0, 100⟩).run
        [.addDataPoint "cpu" 7 0, .resetBaseline "cpu", .checkAnomaly "latency" 5 0]).1 ∧
    ∀ limit, ((new ⟨0, 100⟩).run [.checkAnomaly "latency" 5 0, .addDataPoint "cpu" 1 0]).2.detector.getAnomalies
        "latency" limit = ((new ⟨0, 100⟩).run
          [.addDataPoint "cpu" 7 0, .resetBaseline "cpu", .checkAnomaly "latency" 5 0]).2.detector.getAnomalies
        "latency" limit :=
  ⟨rfl, by decide, metric_noninterference "latency" _ _ _ _ rfl (by decide)⟩

theorem step_baseline (call : Call) (metricName : String)
    (kept : call ≠ .resetBaseline metricName) :
    (s.step call).2.detector.baselineOf metricName =
      (s.detector.baselineOf metricName).pushAll (call.baselineInput metricName).toList := by
  cases call with
  | checkAnomaly named value timestamp =>
      by_cases same : named = metricName
      · subst same
        simp [step, Call.baselineInput, AnomalyDetector.baselineOf, Window.pushAll,
          MetricBaseline.addValue]
      · simp [step, Call.baselineInput, AnomalyDetector.baselineOf, same, Window.pushAll,
          Function.update_noteq (Ne.symm same)]
  | resetBaseline named =>
      have different : metricName ≠ named := fun same => kept (by rw [same])
      simp [step, Call.baselineInput, AnomalyDetector.resetBaseline, AnomalyDetector.baselineOf,
        Window.pushAll, Function.update_noteq different]
  | _ => rfl

theorem step_series (call : Call) (metricName : String)
    (kept : ∀ retentionHours now, call ≠ .cleanupOldData retentionHours now) :
    (s.step call).2.predictor.seriesOf metricName =
      (s.predictor.seriesOf metricName).pushAll (call.seriesInput metricName).toList := by
  cases call with
  | addDataPoint named value timestamp =>
      by_cases same : named = metricName
      · subst same
        simp [step, Call.seriesInput, PredictionEngine.addDataPoint, PredictionEngine.seriesOf,
          Window.pushAll, TimeSeriesData.addPoint]
      · simp [step, Call.seriesInput, PredictionEngine.addDataPoint, PredictionEngine.seriesOf, same,
          Window.pushAll, Function.update_noteq (Ne.symm same)]
  | predictArima named stepsAhead now =>
      rcases PredictionEngine.predict_arima_state s.predictor named stepsAhead now with same | ⟨c, cachedEq⟩
      · simp [step, same, Call.seriesInput, Window.pushAll]
      · simp [step, cachedEq, Call.seriesInput, Window.pushAll, PredictionEngine.seriesOf]
  | cleanupOldData retentionHours now => exact absurd rfl (kept retentionHours now)
  | _ => rfl

theorem run_baseline (calls : List Call) (metricName : String)
    (kept : ∀ call ∈ calls, call ≠ .resetBaseline metricName) :
    (s.run calls).2.detector.baselineOf metricName =
      (s.detector.baselineOf metricName).pushAll (calls.filterMap (Call.baselineInput metricName)) := by
  induction calls generalizing s with
  | nil => rfl
  | cons call rest ih =>
      rw [run, ih (fun call member => kept call (.tail _ member)),
        step_baseline call metricName (kept call (.head _))]
      cases input : call.baselineInput metricName <;> simp [Window.pushAll, List.filterMap_cons, input]

theorem run_series (calls : List Call) (metricName : String)
    (kept : ∀ retentionHours now, Call.cleanupOldData retentionHours now ∉ calls) :
    (s.run calls).2.predictor.seriesOf metricName =
      (s.predictor.seriesOf metricName).pushAll (calls.filterMap (Call.seriesInput metricName)) := by
  induction calls generalizing s with
  | nil => rfl
  | cons call rest ih =>
      rw [run, ih (fun hours now member => kept hours now (.tail _ member)),
        step_series call metricName (fun hours now same => kept hours now (same ▸ .head _))]
      cases input : call.seriesInput metricName <;> simp [Window.pushAll, List.filterMap_cons, input]

theorem run_detector_config (calls : List Call) :
    (s.run calls).2.detector.config = s.detector.config := by
  induction calls generalizing s with
  | nil => rfl
  | cons call rest ih =>
      rw [run, ih]
      cases call
      case checkAnomaly => exact AnomalyDetector.check_anomaly_config _ _ _ _
      all_goals rfl

theorem rtake_length {α : Type} (l : List α) (n : Nat) : (l.rtake n).length = min l.length n := by
  simp only [List.rtake, List.length_drop]
  omega

/-- The rolling windows over whole runs. From the moment a metric's baseline is created or
dropped by reset_baseline, and from the moment its series is created (with no cleanup after),
each window holds exactly the last `max c 1` insertions, values and timestamps paired in
arrival order; and check_anomaly flags nothing before the tenth insertion. -/
theorem rolling_window_law :
    (∀ (maxSize : Nat) (inserted : List (ℚ × DateTime)),
      ((Window.new maxSize).pushAll inserted).values = (inserted.map Prod.fst).rtake (max maxSize 1) ∧
      ((Window.new maxSize).pushAll inserted).timestamps =
        (inserted.map Prod.snd).rtake (max maxSize 1) ∧
      ((Window.new maxSize).pushAll inserted).values.length =
        ((Window.new maxSize).pushAll inserted).timestamps.length ∧
      ((Window.new maxSize).pushAll inserted).values.length ≤ max maxSize 1) ∧
    (∀ (s : Engines) (metricName : String) (calls : List Call), s.detector.baselines metricName = none →
      (∀ call ∈ calls, call ≠ .resetBaseline metricName) →
      (s.run calls).2.detector.baselineOf metricName =
        (MetricBaseline.new 100).pushAll (calls.filterMap (Call.baselineInput metricName))) ∧
    (∀ (s : Engines) (metricName : String) (calls : List Call), s.predictor.timeSeries metricName = none →
      (∀ retentionHours now, Call.cleanupOldData retentionHours now ∉ calls) →
      (s.run calls).2.predictor.seriesOf metricName =
        (TimeSeriesData.new s.predictor.config.predictionHistorySize).pushAll
          (calls.filterMap (Call.seriesInput metricName))) ∧
    (∀ (s : Engines) (metricName : String) (calls : List Call) (value : ℚ) (timestamp : DateTime)
      (anomaly : Anomaly), s.detector.baselines metricName = none →
      (∀ call ∈ calls, call ≠ .resetBaseline metricName) →
      ((s.run calls).2.detector.checkAnomaly metricName value timestamp).1 = some anomaly →
      10 ≤ (calls.filterMap (Call.baselineInput metricName)).length + 1) := by
  refine ⟨fun maxSize inserted => ?_, fun s metricName calls fresh kept => ?_,
    fun s metricName calls fresh kept => ?_, fun s metricName calls value timestamp anomaly fresh kept flagged => ?_⟩
  · obtain ⟨values, timestamps⟩ := Window.push_all_new maxSize inserted
    refine ⟨values, timestamps, by simp [values, timestamps, rtake_length], ?_⟩
    simpa [values, rtake_length] using Nat.min_le_right inserted.length (max maxSize 1)
  · rw [run_baseline calls metricName kept]
    simp [AnomalyDetector.baselineOf, fresh, MetricBaseline.new]
  · rw [run_series calls metricName kept]
    simp [PredictionEngine.seriesOf, fresh, TimeSeriesData.new]
  · have enough := (AnomalyDetector.check_anomaly_flagged _ _ _ _ anomaly flagged).1
    rw [run_baseline calls metricName kept] at enough
    have window := (Window.push_all_new 100
      (calls.filterMap (Call.baselineInput metricName) ++ [(value, timestamp)])).1
    simp only [Window.pushAll, List.foldl_append, List.foldl_cons, List.foldl_nil] at window
    simp only [AnomalyDetector.baselineOf, fresh, Option.getD_none, MetricBaseline.new,
      MetricBaseline.addValue, Window.pushAll, window, rtake_length] at enough
    simp at enough
    omega

/-- Nine checks of 1 and one data point on a fresh metric, at sensitivity 1/2: the baseline
holds the nine readings, the series the one point, and a tenth check, of 5, is flagged. -/
theorem rolling_window_law_nine_checks :
    let calls : List Call := (List.replicate 9 ((1 : ℚ), (0 : DateTime))).map
      (fun point => .checkAnomaly "cpu" point.1 point.2) ++ [.addDataPoint "cpu" 1 0]
    (new ⟨1 / 2, 100⟩).detector.baselines "cpu" = none ∧
    (∀ call ∈ calls, call ≠ .resetBaseline "cpu") ∧
    ((new ⟨1 / 2, 100⟩).run calls).2.detector.baselineOf "cpu" =
      (MetricBaseline.new 100).pushAll (List.replicate 9 (1, 0)) ∧
    (new ⟨1 / 2, 100⟩).predictor.timeSeries "cpu" = none ∧
    (∀ retentionHours now, Call.cleanupOldData retentionHours now ∉ calls) ∧
    ((new ⟨1 / 2, 100⟩).run calls).2.predictor.seriesOf "cpu" = (TimeSeriesData.new 100).pushAll [(1, 0)] ∧
    ∃ anomaly, (((new ⟨1 / 2, 100⟩).run calls).2.detector.checkAnomaly "cpu" 5 0).1 = some anomaly ∧
      10 ≤ (calls.filterMap (Call.baselineInput "cpu")).length + 1 := by
  intro calls
  have kept : ∀ call ∈ calls, call ≠ .resetBaseline "cpu" := by decide
  have noCleanup : ∀ retentionHours now, Call.cleanupOldData retentionHours now ∉ calls := by
    simp [calls]
  have inputs : calls.filterMap (Call.baselineInput "cpu") = List.replicate 9 (1, 0) := rfl
  have baseline := rolling_window_law.2.1 (new ⟨1 / 2, 100⟩) "cpu" calls rfl kept
  rw [inputs] at baseline
  obtain ⟨anomaly, flagged⟩ := Option.isSome_iff_exists.mp
    (AnomalyDetector.check_anomaly_after_nine_ones _ (by rw [run_detector_config]; rfl)
      baseline)
  exact ⟨rfl, kept, baseline, rfl, noCleanup,
    rolling_window_law.2.2.1 (new ⟨1 / 2, 100⟩) "cpu" calls rfl noCleanup, anomaly, flagged,
    rolling_window_law.2.2.2 (new ⟨1 / 2, 100⟩) "cpu" calls 5 0 anomaly rfl kept flagged⟩

/-- With prediction_history_size 0 the window is not kept within its capacity: one
add_data_point leaves one value in it. -/
theorem history_size_zero_keeps_one :
    ((PredictionEngine.new ⟨0, 0⟩).addDataPoint "m" 1 0).timeSeries "m" = some ⟨[1], [0], 0⟩ := by
  simp [PredictionEngine.addDataPoint, PredictionEngine.seriesOf, PredictionEngine.new,
    TimeSeriesData.addPoint, TimeSeriesData.new, Window.new, Window.push]

end Engines

end AnalyticsHub.Analytics
