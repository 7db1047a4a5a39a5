import AnalyticsHub.Analytics.TimeShift
import AnalyticsHub.Analytics.CorrelationTimeShift
import AnalyticsHub.Analytics.Forecasting

set_option autoImplicit false

/- chrono's DateTime<Utc> holds a bounded range of instants, and DateTime + TimeDelta and
   DateTime - TimeDelta panic when the result leaves it. TimeDelta::minutes and
   TimeDelta::hours panic only past a bound wider than the whole range, so from an instant in
   the range it is the result's check that decides. Elsewhere the model takes DateTime to be
   an unbounded Int, on which no time arithmetic panics. Here a component runs under chrono's
   range: every time a call is given is a DateTime, and a call panics when a time it computes
   leaves the range; a panic ends the run. A run that stays within the range is the model's
   run, and moving a run's times by d moves the range it has to stay within by -d. The bounds
   depend on chrono's version, so they are parameters. -/
namespace AnalyticsHub.Analytics

structure ChronoRange where
  earliest : DateTime
  latest : DateTime
deriving DecidableEq, Repr

namespace ChronoRange

def holds (r : ChronoRange) (t : DateTime) : Bool := r.earliest ≤ t && t ≤ r.latest

def delay (d : Int) (r : ChronoRange) : ChronoRange := ⟨r.earliest + d, r.latest + d⟩

theorem holds_delay (d : Int) (r : ChronoRange) (t : DateTime) :
    r.holds (t + d) = (r.delay (-d)).holds t := by
  simp only [holds, delay, ← sub_eq_add_neg, sub_le_iff_le_add, le_sub_iff_add_le]

section Runs

variable {σ γ ρ : Type} (step : σ → γ → ρ × σ) (times : σ → γ → List DateTime) (r : ChronoRange)

/-- A run under chrono's range: the replies and the final state, or `none` where a call
computes a time outside the range and panics. -/
def runWithin : σ → List γ → Option (List ρ × σ)
  | s, [] => some ([], s)
  | s, call :: rest =>
      if (times s call).all r.holds then
        (runWithin (step s call).2 rest).map fun after => ((step s call).1 :: after.1, after.2)
      else none

-- The same run on unbounded times.
def runUnbounded : σ → List γ → List ρ × σ
  | s, [] => ([], s)
  | s, call :: rest =>
      let after := runUnbounded (step s call).2 rest
      ((step s call).1 :: after.1, after.2)

-- Whether every time the unbounded run computes lies in the range.
def staysWithin : σ → List γ → Bool
  | _, [] => true
  | s, call :: rest => (times s call).all r.holds && staysWithin (step s call).2 rest

theorem run_within_eq (s : σ) (calls : List γ) :
    runWithin step times r s calls =
      if staysWithin step times r s calls then some (runUnbounded step s calls) else none := by
  induction calls generalizing s with
  | nil => rfl
  | cons call rest ih =>
      simp only [runWithin, staysWithin, runUnbounded, ih]
      cases (times s call).all r.holds <;> cases staysWithin step times r (step s call).2 rest <;> rfl

theorem run_within_delay (d : Int) (delayState : σ → σ) (delayCall : γ → γ) (delayReply : ρ → ρ)
    (step_delay : ∀ s call,
      step (delayState s) (delayCall call) = (delayReply (step s call).1, delayState (step s call).2))
    (times_delay : ∀ s call, times (delayState s) (delayCall call) = (times s call).map (· + d))
    (s : σ) (calls : List γ) :
    runWithin step times r (delayState s) (calls.map delayCall) =
      (runWithin step times (r.delay (-d)) s calls).map
        fun result => (result.1.map delayReply, delayState result.2) := by
  induction calls generalizing s with
  | nil => rfl
  | cons call rest ih =>
      have moved : ((times s call).map (· + d)).all r.holds = (times s call).all (r.delay (-d)).holds := by
        simp only [List.all_map, Function.comp_def, holds_delay]
      simp only [List.map_cons, runWithin, step_delay, times_delay, moved, ih]
      split_ifs
      · cases runWithin step times (r.delay (-d)) (step s call).2 rest <;> rfl
      · rfl

end Runs

end ChronoRange

namespace PredictionEngine

-- The timestamps a forecast of `steps` points computes, each last_timestamp + Duration::minutes(i).
def forecastTimes (tsData : TimeSeriesData) (steps : Nat) : List DateTime :=
  match tsData.timestamps.getLast? with
  | some lastTimestamp => (List.range steps).map fun k => lastTimestamp + Duration.minutes (k + 1 : Nat)
  | none => []

theorem forecast_times_delay (d : Int) (tsData : TimeSeriesData) (steps : Nat) :
    forecastTimes (tsData.delay d) steps = (forecastTimes tsData steps).map (· + d) := by
  simp only [forecastTimes, Window.delay_timestamps, List.getLast?_map]
  cases tsData.timestamps.getLast? <;> simp [Function.comp_def, add_right_comm]

/-- From a last timestamp within the range, the forecast stays within it exactly when its
last point, steps minutes later, does. -/
theorem forecast_times_within (r : ChronoRange) (tsData : TimeSeriesData) (steps : Nat)
    (lastTimestamp : DateTime) (stamped : tsData.timestamps.getLast? = some lastTimestamp)
    (inRange : r.holds lastTimestamp = true) :
    (forecastTimes tsData steps).all r.holds = r.holds (lastTimestamp + Duration.minutes steps) := by
  simp only [ChronoRange.holds, Bool.and_eq_true, decide_eq_true_eq] at inRange
  rw [Bool.eq_iff_iff]
  simp only [forecastTimes, stamped, List.all_map, List.all_eq_true, List.mem_range,
    Function.comp_apply, ChronoRange.holds, Bool.and_eq_true, decide_eq_true_eq, Duration.minutes,
    List.forall_mem_map]
  dsimp only [DateTime] at *
  constructor
  · intro every
    cases steps with
    | zero => simpa using inRange
    | succ n => exact every n (by omega)
  · intro final k below
    omega

theorem smoothing_forecast_times (tsData : TimeSeriesData) (stepsAhead : Nat) (alpha : ℚ)
    (points : List PredictionPoint) (computed : smoothingForecast tsData stepsAhead alpha = some points) :
    points.map PredictionPoint.timestamp = forecastTimes tsData stepsAhead := by
  unfold smoothingForecast at computed
  unfold forecastTimes
  cases stamped : tsData.timestamps.getLast? with
  | none => simp [stamped] at computed
  | some lastTimestamp =>
      cases first : tsData.values[0]? with
      | none => simp [stamped, first] at computed
      | some value =>
          simp only [stamped, first, Option.bind_eq_bind, Option.some_bind, Option.pure_def,
            Option.some.injEq] at computed
          subst computed
          simp [Function.comp_def]

theorem arima_forecast_times (tsData : TimeSeriesData) (steps : Nat) (points : List PredictionPoint)
    (two : 2 ≤ tsData.values.length) (computed : arimaForecast tsData steps = some points) :
    points.map PredictionPoint.timestamp = forecastTimes tsData steps := by
  unfold forecastTimes
  cases stamped : tsData.timestamps.getLast? with
  | none => simp [arimaForecast, stamped] at computed
  | some lastTimestamp =>
      rw [arima_forecast_points tsData steps lastTimestamp stamped two] at computed
      cases computed
      simp [arimaPoint, Function.comp_def]

end PredictionEngine

namespace Engines

/-- The instants a call computes by DateTime ± TimeDelta: each timestamp of a forecast it
computes afresh, and the cutoff of a cleanup. -/
def computedTimes (s : Engines) : Call → List DateTime
  | .predictArima metricName stepsAhead now =>
      match s.predictor.cacheHit metricName now, s.predictor.timeSeries metricName with
      | none, some tsData =>
          if tsData.values.length < 10 then [] else PredictionEngine.forecastTimes tsData stepsAhead
      | _, _ => []
  | .predictExponentialSmoothing metricName stepsAhead _ =>
      match s.predictor.timeSeries metricName with
      | some tsData =>
          if tsData.values.isEmpty then [] else PredictionEngine.forecastTimes tsData stepsAhead
      | none => []
  | .cleanupOldData retentionHours now => [now - Duration.hours retentionHours]
  | _ => []

-- One call of a run, recorded in the transcript with its reply.
def transcriptStep (s : Engines) (call : Call) : (Call × Reply) × Engines :=
  ((call, (s.step call).1), (s.step call).2)

def runWithin (r : ChronoRange) (s : Engines) (calls : List Call) :
    Option (List (Call × Reply) × Engines) :=
  ChronoRange.runWithin transcriptStep computedTimes r s calls

def staysWithin (r : ChronoRange) (s : Engines) (calls : List Call) : Bool :=
  ChronoRange.staysWithin transcriptStep computedTimes r s calls

theorem run_unbounded (s : Engines) (calls : List Call) :
    ChronoRange.runUnbounded transcriptStep s calls = s.run calls := by
  induction calls generalizing s with
  | nil => rfl
  | cons call rest ih => simp only [ChronoRange.runUnbounded, ih, transcriptStep, run]

/-- The engines under chrono's range run as the model does when the run stays within the
range, and panic otherwise. -/
theorem run_within (r : ChronoRange) (s : Engines) (calls : List Call) :
    s.runWithin r calls = if s.staysWithin r calls then some (s.run calls) else none := by
  rw [runWithin, ChronoRange.run_within_eq, run_unbounded, staysWithin]

theorem computed_times_delay (d : Int) (s : Engines) (call : Call) :
    (s.delay d).computedTimes (call.delay d) = (s.computedTimes call).map (· + d) := by
  cases call with
  | predictArima metricName stepsAhead now =>
      simp only [computedTimes, Call.delay, delay, PredictionEngine.cache_hit_delay,
        PredictionEngine.delay_time_series, Function.comp_apply]
      cases s.predictor.cacheHit metricName now <;> cases s.predictor.timeSeries metricName <;>
        simp only [Option.map_none', Option.map_some', Window.delay_values, List.map_nil]
      split_ifs
      · rfl
      · exact PredictionEngine.forecast_times_delay d _ stepsAhead
  | predictExponentialSmoothing metricName stepsAhead alpha =>
      simp only [computedTimes, Call.delay, delay, PredictionEngine.delay_time_series,
        Function.comp_apply]
      cases s.predictor.timeSeries metricName <;>
        simp only [Option.map_none', Option.map_some', Window.delay_values, List.map_nil]
      split_ifs
      · rfl
      · exact PredictionEngine.forecast_times_delay d _ stepsAhead
  | cleanupOldData retentionHours now =>
      simp [computedTimes, Call.delay, add_sub_right_comm]
  | _ => rfl

/-- Moving every timestamp and clock reading of a run by d, under chrono's range: the run
panics exactly when the unmoved run panics within the range moved by -d, and otherwise gives
the unmoved transcript and state with every time moved by d. -/
theorem run_within_time_shift (r : ChronoRange) (d : Int) (s : Engines) (calls : List Call) :
    (s.delay d).runWithin r (calls.map (Call.delay d)) =
      (s.runWithin (r.delay (-d)) calls).map fun result =>
        (result.1.map fun entry => (entry.1.delay d, entry.2.delay d), result.2.delay d) :=
  ChronoRange.run_within_delay transcriptStep computedTimes r d (delay d)
    (Call.delay d) (fun entry => (entry.1.delay d, entry.2.delay d))
    (fun s call => by simp only [transcriptStep, step_delay]) (computed_times_delay d) s calls

/-- A forecast call that computes its points afresh computes exactly their timestamps: under
chrono's range it returns them when they all lie in it and panics otherwise. -/
theorem smoothing_computed_times (s : Engines) (metricName : String) (stepsAhead : Nat) (alpha : ℚ)
    (points : List PredictionPoint)
    (answered : s.predictor.predictExponentialSmoothing metricName stepsAhead alpha = some (.ok points)) :
    s.computedTimes (.predictExponentialSmoothing metricName stepsAhead alpha) =
      points.map PredictionPoint.timestamp := by
  simp only [PredictionEngine.predictExponentialSmoothing] at answered
  simp only [computedTimes]
  cases held : s.predictor.timeSeries metricName with
  | none => simp [held] at answered
  | some tsData =>
      simp only [held] at answered ⊢
      split_ifs at answered ⊢ with empty
      · simp at answered
      · obtain ⟨forecast, computed, wrapped⟩ := Option.map_eq_some'.mp answered
        injection wrapped with same
        subst same
        exact (PredictionEngine.smoothing_forecast_times tsData stepsAhead alpha forecast computed).symm

theorem arima_computed_times (s : Engines) (metricName : String) (stepsAhead : Nat) (now : DateTime)
    (points : List PredictionPoint) (miss : s.predictor.cacheHit metricName now = none)
    (answered : (s.predictor.predictArima metricName stepsAhead now).1 = some (.ok points)) :
    s.computedTimes (.predictArima metricName stepsAhead now) = points.map PredictionPoint.timestamp := by
  simp only [PredictionEngine.predictArima, miss] at answered
  simp only [computedTimes, miss]
  cases held : s.predictor.timeSeries metricName with
  | none => simp [held] at answered
  | some tsData =>
      simp only [held] at answered ⊢
      split_ifs at answered ⊢ with short
      · simp at answered
      · cases computed : PredictionEngine.arimaForecast tsData stepsAhead with
        | none => simp [computed] at answered
        | some forecast =>
            simp only [computed, Option.some.injEq, Except.ok.injEq] at answered
            subst answered
            exact (PredictionEngine.arima_forecast_times tsData stepsAhead forecast (by omega)
              computed).symm

end Engines

namespace CorrelationEngine

-- The instants a call computes by DateTime - TimeDelta: the cutoff of a cleanup.
def computedTimes (_ : CorrelationEngine) : Call → List DateTime
  | .addEvent _ => []
  | .cleanupOldEvents retentionHours now => [now - Duration.hours retentionHours]

-- One call of a run, with the count a cleanup returns.
def replyStep (c : CorrelationEngine) (call : Call) : Option Nat × CorrelationEngine :=
  (c.stepReply call, c.step call)

def runWithin (r : ChronoRange) (c : CorrelationEngine) (calls : List Call) :
    Option (List (Option Nat) × CorrelationEngine) :=
  ChronoRange.runWithin replyStep computedTimes r c calls

def staysWithin (r : ChronoRange) (c : CorrelationEngine) (calls : List Call) : Bool :=
  ChronoRange.staysWithin replyStep computedTimes r c calls

theorem run_unbounded (c : CorrelationEngine) (calls : List Call) :
    ChronoRange.runUnbounded replyStep c calls = (c.replies calls, c.run calls) := by
  induction calls generalizing c with
  | nil => rfl
  | cons call rest ih => simp only [ChronoRange.runUnbounded, ih, replyStep, replies, run_cons]

theorem run_within (r : ChronoRange) (c : CorrelationEngine) (calls : List Call) :
    c.runWithin r calls = if c.staysWithin r calls then some (c.replies calls, c.run calls) else none := by
  rw [runWithin, ChronoRange.run_within_eq, run_unbounded, staysWithin]

/-- Moving every event's timestamp and every clock reading of a run by d, under chrono's
range: the run panics exactly when the unmoved run panics within the range moved by -d, and
otherwise gives the same replies and the unmoved engine with its times moved by d. -/
theorem run_within_time_shift (r : ChronoRange) (d : Int) (c : CorrelationEngine) (calls : List Call) :
    (c.delay d).runWithin r (calls.map (Call.delay d)) =
      (c.runWithin (r.delay (-d)) calls).map fun result => (result.1, result.2.delay d) := by
  have moved := ChronoRange.run_within_delay replyStep computedTimes r d (delay d) (Call.delay d) id
    (fun c call => by simp only [replyStep, step_delay, step_reply_delay, id])
    (fun c call => by cases call <;> simp [computedTimes, Call.delay, add_sub_right_comm]) c calls
  simpa only [List.map_id] using moved

end CorrelationEngine

end AnalyticsHub.Analytics
