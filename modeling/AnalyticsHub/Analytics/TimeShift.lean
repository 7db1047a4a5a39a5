import AnalyticsHub.Analytics.Engines

set_option autoImplicit false

/- The engines fed a run of calls with every timestamp and clock reading moved by d. Nothing
   they compute compares a time with a fixed instant: the cache compares two clock readings,
   cleanup compares timestamps with a cutoff taken from the clock, and forecasts count minutes
   from the last timestamp. So each reply is the reply of the unmoved run with every time in
   it moved by d, and each state is the unmoved state with its times moved by d. -/
namespace AnalyticsHub.Analytics

namespace Window

/-- The window with every timestamp moved by d. -/
def delay (d : Int) (w : Window) : Window := { w with timestamps := w.timestamps.map (· + d) }

variable (d : Int) (w : Window)

@[simp] theorem delay_values : (w.delay d).values = w.values := rfl

@[simp] theorem delay_timestamps : (w.delay d).timestamps = w.timestamps.map (· + d) := rfl

@[simp] theorem delay_max_size : (w.delay d).maxSize = w.maxSize := rfl

theorem push_delay (value : ℚ) (timestamp : DateTime) :
    (w.delay d).push value (timestamp + d) = (w.push value timestamp).delay d := by
  unfold push
  split_ifs <;> simp_all [delay]

end Window

theorem cleanup_loop_delay (cutoff d : Int) (timestamps : List DateTime) (values : List ℚ) :
    cleanupLoop (cutoff + d) (timestamps.map (· + d)) values =
      ((cleanupLoop cutoff timestamps values).1.map (· + d), (cleanupLoop cutoff timestamps values).2) := by
  induction timestamps generalizing values with
  | nil => rfl
  | cons timestamp rest ih =>
      simp only [List.map_cons, cleanupLoop, add_lt_add_iff_right]
      split_ifs
      · exact ih _
      · rfl

theorem cleanup_before_delay (tsData : TimeSeriesData) (cutoff d : Int) :
    TimeSeriesData.cleanupBefore (tsData.delay d) (cutoff + d) = (tsData.cleanupBefore cutoff).delay d := by
  simp [TimeSeriesData.cleanupBefore, Window.delay, cleanup_loop_delay]

def Anomaly.delay (d : Int) (anomaly : Anomaly) : Anomaly :=
  { anomaly with timestamp := anomaly.timestamp + d }

def PredictionPoint.delay (d : Int) (point : PredictionPoint) : PredictionPoint :=
  { point with timestamp := point.timestamp + d }

def CachedPrediction.delay (d : Int) (cached : CachedPrediction) : CachedPrediction :=
  { cached with points := cached.points.map (PredictionPoint.delay d), createdAt := cached.createdAt + d }

theorem CachedPrediction.is_valid_delay (d : Int) (cached : CachedPrediction) (now : DateTime) :
    (cached.delay d).isValid (now + d) = cached.isValid now := by
  simp [isValid, delay]

namespace AnomalyDetector

/-- The detector with every time it holds moved by d. -/
def delay (d : Int) (det : AnomalyDetector) : AnomalyDetector :=
  ⟨det.config, Option.map (Window.delay d) ∘ det.baselines,
    Option.map (List.map (Anomaly.delay d)) ∘ det.anomalies⟩

variable (d : Int) (det : AnomalyDetector) (metricName : String)

@[simp] theorem delay_config : (det.delay d).config = det.config := rfl

@[simp] theorem delay_baselines : (det.delay d).baselines = Option.map (Window.delay d) ∘ det.baselines := rfl

@[simp] theorem delay_anomalies :
    (det.delay d).anomalies = Option.map (List.map (Anomaly.delay d)) ∘ det.anomalies := rfl

-- The statistics and the classification read a window's values only.
@[simp] theorem calculate_mean_delay (w : MetricBaseline) :
    MetricBaseline.calculateMean (w.delay d) = w.calculateMean := rfl

@[simp] theorem calculate_stddev_delay (w : MetricBaseline) (mean : ℚ) :
    MetricBaseline.calculateStddev (w.delay d) mean = w.calculateStddev mean := rfl

@[simp] theorem classify_anomaly_delay (value mean : ℚ) (w : MetricBaseline) :
    classifyAnomaly value mean (w.delay d) = classifyAnomaly value mean w := rfl

theorem baseline_of_delay : (det.delay d).baselineOf metricName = (det.baselineOf metricName).delay d := by
  simp only [baselineOf, delay_baselines, Function.comp_apply]
  cases det.baselines metricName <;> rfl

theorem get_d_map_delay (log : Option (List Anomaly)) :
    (log.map (List.map (Anomaly.delay d))).getD [] = (log.getD []).map (Anomaly.delay d) := by
  cases log <;> rfl

/-- check_anomaly at a time moved by d, on the detector so moved: the same decision, a report
at the moved time, and the moved detector. -/
theorem check_anomaly_delay (value : ℚ) (timestamp : DateTime) :
    (det.delay d).checkAnomaly metricName value (timestamp + d) =
      ((det.checkAnomaly metricName value timestamp).1.map (Anomaly.delay d),
        (det.checkAnomaly metricName value timestamp).2.delay d) := by
  simp only [checkAnomaly, baseline_of_delay, MetricBaseline.addValue, Window.push_delay,
    Window.delay_values, calculate_mean_delay, calculate_stddev_delay, classify_anomaly_delay,
    getThresholdForSensitivity, delay_config]
  split_ifs <;> simp [delay, Function.comp_update, Anomaly.delay, get_d_map_delay]

theorem reset_baseline_delay :
    (det.delay d).resetBaseline metricName = (det.resetBaseline metricName).delay d := by
  simp [resetBaseline, delay, Function.comp_update]

theorem get_anomalies_delay (limit : Nat) :
    (det.delay d).getAnomalies metricName limit = (det.getAnomalies metricName limit).map (Anomaly.delay d) := by
  simp only [getAnomalies, delay_anomalies, Function.comp_apply, get_d_map_delay, List.map_reverse,
    List.map_take]

end AnomalyDetector

namespace PredictionEngine

/-- The engine with every time it holds moved by d. -/
def delay (d : Int) (e : PredictionEngine) : PredictionEngine :=
  ⟨e.config, Option.map (Window.delay d) ∘ e.timeSeries,
    Option.map (CachedPrediction.delay d) ∘ e.predictions⟩

variable (d : Int) (e : PredictionEngine) (metricName : String)

@[simp] theorem delay_config : (e.delay d).config = e.config := rfl

@[simp] theorem delay_time_series : (e.delay d).timeSeries = Option.map (Window.delay d) ∘ e.timeSeries := rfl

@[simp] theorem delay_predictions :
    (e.delay d).predictions = Option.map (CachedPrediction.delay d) ∘ e.predictions := rfl

theorem series_of_delay : (e.delay d).seriesOf metricName = (e.seriesOf metricName).delay d := by
  simp only [seriesOf, delay_time_series, delay_config, Function.comp_apply]
  cases e.timeSeries metricName <;> rfl

theorem add_data_point_delay (value : ℚ) (timestamp : DateTime) :
    (e.delay d).addDataPoint metricName value (timestamp + d) =
      (e.addDataPoint metricName value timestamp).delay d := by
  simp only [addDataPoint, series_of_delay, TimeSeriesData.addPoint, Window.push_delay]
  simp [delay, Function.comp_update]

theorem cache_hit_delay (now : DateTime) :
    (e.delay d).cacheHit metricName (now + d) =
      (e.cacheHit metricName now).map (List.map (PredictionPoint.delay d)) := by
  simp only [cacheHit, delay, Function.comp_apply]
  cases e.predictions metricName with
  | none => rfl
  | some cached =>
      simp only [Option.map_some', CachedPrediction.is_valid_delay]
      split <;> rfl

theorem arima_step_delay (n steps : Nat) (lastTimestamp : DateTime) (slope intercept : ℚ)
    (seasonal : List ℚ) (i : Nat) :
    arimaStep n steps (lastTimestamp + d) slope intercept seasonal i =
      (arimaStep n steps lastTimestamp slope intercept seasonal i).map (PredictionPoint.delay d) := by
  simp only [arimaStep, Option.bind_eq_bind, Option.pure_def]
  cases seasonal[(n + i) % seasonal.length]? <;> simp [PredictionPoint.delay, add_right_comm]

theorem map_m_map {α β γ : Type} (f : α → Option β) (g : β → γ) (l : List α) :
    l.mapM (fun a => (f a).map g) = (l.mapM f).map (List.map g) := by
  induction l with
  | nil => rfl
  | cons a rest ih =>
      rw [List.mapM_cons, List.mapM_cons, ih]
      cases f a <;> cases rest.mapM f <;> rfl

theorem arima_forecast_delay (tsData : TimeSeriesData) (steps : Nat) :
    arimaForecast (tsData.delay d) steps = (arimaForecast tsData steps).map (List.map (PredictionPoint.delay d)) := by
  simp only [arimaForecast, Window.delay_values, Window.delay_timestamps, List.getLast?_map,
    Option.bind_eq_bind]
  cases tsData.timestamps.getLast? with
  | none => rfl
  | some lastTimestamp => simp only [Option.map_some', Option.some_bind, arima_step_delay, map_m_map]

/-- predict_arima at a clock reading moved by d, on the engine so moved: the same cache
decision and errors, points at the moved times, and the moved engine. -/
theorem predict_arima_delay (stepsAhead : Nat) (now : DateTime) :
    (e.delay d).predictArima metricName stepsAhead (now + d) =
      ((e.predictArima metricName stepsAhead now).1.map (Except.map (List.map (PredictionPoint.delay d))),
        (e.predictArima metricName stepsAhead now).2.delay d) := by
  unfold predictArima
  rw [cache_hit_delay]
  cases e.cacheHit metricName now with
  | some points => rfl
  | none =>
      simp only [Option.map_none', delay, Function.comp_apply]
      cases e.timeSeries metricName with
      | none => rfl
      | some tsData =>
          simp only [Option.map_some', Window.delay_values]
          split_ifs
          · rfl
          · rw [arima_forecast_delay]
            cases arimaForecast tsData stepsAhead with
            | none => rfl
            | some predictions =>
                simp [Function.comp_update, CachedPrediction.delay, Except.map]

theorem smoothing_forecast_delay (tsData : TimeSeriesData) (stepsAhead : Nat) (alpha : ℚ) :
    smoothingForecast (tsData.delay d) stepsAhead alpha =
      (smoothingForecast tsData stepsAhead alpha).map (List.map (PredictionPoint.delay d)) := by
  simp only [smoothingForecast, Window.delay_values, Window.delay_timestamps, List.getLast?_map,
    Option.bind_eq_bind]
  cases tsData.timestamps.getLast? <;> cases tsData.values[0]? <;>
    simp [PredictionPoint.delay, add_right_comm]

theorem predict_exponential_smoothing_delay (stepsAhead : Nat) (alpha : ℚ) :
    (e.delay d).predictExponentialSmoothing metricName stepsAhead alpha =
      (e.predictExponentialSmoothing metricName stepsAhead alpha).map
        (Except.map (List.map (PredictionPoint.delay d))) := by
  simp only [predictExponentialSmoothing, delay, Function.comp_apply]
  cases e.timeSeries metricName with
  | none => rfl
  | some tsData =>
      simp only [Option.map_some', Window.delay_values]
      split_ifs
      · rfl
      · rw [smoothing_forecast_delay]
        cases smoothingForecast tsData stepsAhead alpha <;> rfl

theorem cleanup_old_data_delay (retentionHours : Int) (now : DateTime) :
    (e.delay d).cleanupOldData retentionHours (now + d) = (e.cleanupOldData retentionHours now).delay d := by
  simp only [cleanupOldData, delay, PredictionEngine.mk.injEq, true_and, and_true, add_sub_right_comm]
  funext metricName
  simp only [Function.comp_apply]
  cases e.timeSeries metricName <;> simp [cleanup_before_delay]

end PredictionEngine

namespace Call

/-- The call with its timestamp or clock reading moved by d. -/
def delay (d : Int) : Call → Call
  | .checkAnomaly metricName value timestamp => .checkAnomaly metricName value (timestamp + d)
  | .addDataPoint metricName value timestamp => .addDataPoint metricName value (timestamp + d)
  | .predictArima metricName stepsAhead now => .predictArima metricName stepsAhead (now + d)
  | .cleanupOldData retentionHours now => .cleanupOldData retentionHours (now + d)
  | call => call

end Call

/-- The reply with every time in it moved by d. -/
def Reply.delay (d : Int) : Reply → Reply
  | .anomaly result => .anomaly (result.map (Anomaly.delay d))
  | .anomalies recent => .anomalies (recent.map (Anomaly.delay d))
  | .forecast result => .forecast (result.map (Except.map (List.map (PredictionPoint.delay d))))
  | .done => .done

namespace Engines

def delay (d : Int) (s : Engines) : Engines := ⟨s.detector.delay d, s.predictor.delay d⟩

variable (d : Int)

theorem step_delay (s : Engines) (call : Call) :
    (s.delay d).step (call.delay d) = ((s.step call).1.delay d, (s.step call).2.delay d) := by
  cases call with
  | checkAnomaly metricName value timestamp =>
      simp [step, delay, Call.delay, Reply.delay, AnomalyDetector.check_anomaly_delay]
  | resetBaseline metricName =>
      simp [step, delay, Call.delay, Reply.delay, AnomalyDetector.reset_baseline_delay]
  | getAnomalies metricName limit =>
      simp [step, delay, Call.delay, Reply.delay, AnomalyDetector.get_anomalies_delay]
  | addDataPoint metricName value timestamp =>
      simp [step, delay, Call.delay, Reply.delay, PredictionEngine.add_data_point_delay]
  | predictArima metricName stepsAhead now =>
      simp [step, delay, Call.delay, Reply.delay, PredictionEngine.predict_arima_delay]
  | predictExponentialSmoothing metricName stepsAhead alpha =>
      simp [step, delay, Call.delay, Reply.delay, PredictionEngine.predict_exponential_smoothing_delay]
  | cleanupOldData retentionHours now =>
      simp [step, delay, Call.delay, Reply.delay, PredictionEngine.cleanup_old_data_delay]

end Engines

end AnalyticsHub.Analytics
