import AnalyticsHub.Analytics.Engines

set_option autoImplicit false

/- A metric's history over whole runs of the engines. add_point and cleanup_before pop and push
   the two deques together, so they stay of one length and pair each value with its timestamp;
   cleanup_before pops from the front while the front timestamp is expired, and stops at the
   first that is not. -/
namespace AnalyticsHub.Analytics

theorem push_parallel (w : Window) (value : ℚ) (timestamp : DateTime)
    (parallel : w.values.length = w.timestamps.length) :
    (w.push value timestamp).values.length = (w.push value timestamp).timestamps.length := by
  unfold Window.push
  split <;> simp [parallel]

theorem cleanup_loop_zip (cutoff : DateTime) (timestamps : List DateTime) (values : List ℚ)
    (parallel : values.length = timestamps.length) :
    (cleanupLoop cutoff timestamps values).2.length = (cleanupLoop cutoff timestamps values).1.length ∧
    (cleanupLoop cutoff timestamps values).2.zip (cleanupLoop cutoff timestamps values).1 =
      (values.zip timestamps).dropWhile fun point => decide (point.2 < cutoff) := by
  induction timestamps generalizing values with
  | nil =>
      obtain rfl : values = [] := List.eq_nil_of_length_eq_zero parallel
      simp [cleanupLoop]
  | cons timestamp rest ih =>
      cases values with
      | nil => simp at parallel
      | cons value others =>
          rw [List.length_cons, List.length_cons, Nat.succ.injEq] at parallel
          by_cases expired : timestamp < cutoff
          · simpa [cleanupLoop, expired, List.dropWhile_cons] using ih others parallel
          · simp [cleanupLoop, expired, List.dropWhile_cons, parallel]

/-- On a history in time order, dropping the expired front drops every expired point. -/
theorem drop_while_expired_sorted (points : List (ℚ × DateTime)) (cutoff : DateTime)
    (sorted : (points.map Prod.snd).Sorted (· ≤ ·)) :
    points.dropWhile (fun point => decide (point.2 < cutoff)) =
      points.filter fun point => ¬ point.2 < cutoff := by
  induction points with
  | nil => rfl
  | cons point rest ih =>
      rw [List.map_cons, List.sorted_cons] at sorted
      by_cases expired : point.2 < cutoff
      · simp [List.dropWhile_cons, expired, ih sorted.2]
      · have later : ∀ other ∈ rest, ¬ other.2 < cutoff := fun other listed => by
          have := sorted.1 other.2 (List.mem_map_of_mem _ listed)
          exact not_lt.mpr ((not_lt.mp expired).trans this)
        rw [List.dropWhile_cons, if_neg (by simpa using expired), eq_comm, List.filter_eq_self]
        intro other listed
        rcases List.mem_cons.mp listed with rfl | inRest
        · simpa using expired
        · simpa using later other inRest

namespace PredictionEngine

/-- Every history the engine holds has its two deques of one length. -/
def Parallel (e : PredictionEngine) : Prop :=
  ∀ metricName data, e.timeSeries metricName = some data → data.values.length = data.timestamps.length

theorem parallel_new (config : AnalyticsConfig) : (new config).Parallel :=
  fun _ _ held => by simp [new] at held

theorem parallel_add_data_point (e : PredictionEngine) (parallel : e.Parallel) (metricName : String)
    (value : ℚ) (timestamp : DateTime) : (e.addDataPoint metricName value timestamp).Parallel := by
  intro named data held
  by_cases same : named = metricName
  · subst same
    simp only [addDataPoint, Function.update_same, Option.some.injEq] at held
    subst held
    apply push_parallel
    cases found : e.timeSeries named with
    | none => simp [seriesOf, found, TimeSeriesData.new, Window.new]
    | some data => simpa [seriesOf, found] using parallel named data found
  · simp only [addDataPoint, Function.update_noteq same] at held
    exact parallel named data held

theorem parallel_cleanup_old_data (e : PredictionEngine) (parallel : e.Parallel)
    (retentionHours : Int) (now : DateTime) : (e.cleanupOldData retentionHours now).Parallel := by
  intro named data held
  simp only [cleanupOldData, Option.map_eq_some'] at held
  obtain ⟨old, found, rfl⟩ := held
  exact (cleanup_loop_zip _ _ _ (parallel named old found)).1

theorem parallel_predict_arima (e : PredictionEngine) (parallel : e.Parallel) (metricName : String)
    (stepsAhead : Nat) (now : DateTime) : (e.predictArima metricName stepsAhead now).2.Parallel := by
  rcases predict_arima_state e metricName stepsAhead now with same | ⟨cached, cachedEq⟩
  · rwa [same]
  · rw [cachedEq]
    exact parallel

end PredictionEngine

namespace Engines

theorem parallel_step (s : Engines) (call : Call) (parallel : s.predictor.Parallel) :
    (s.step call).2.predictor.Parallel := by
  cases call with
  | addDataPoint => exact PredictionEngine.parallel_add_data_point _ parallel _ _ _
  | predictArima => exact PredictionEngine.parallel_predict_arima _ parallel _ _ _
  | cleanupOldData => exact PredictionEngine.parallel_cleanup_old_data _ parallel _ _
  | _ => exact parallel

theorem parallel_run (s : Engines) (calls : List Call) (parallel : s.predictor.Parallel) :
    (s.run calls).2.predictor.Parallel := by
  induction calls generalizing s with
  | nil => exact parallel
  | cons call rest ih => exact ih _ (parallel_step s call parallel)

end Engines

/-- cleanup_old_data over any run: each metric's history loses its longest front of points
older than the cutoff, and keeps the rest in order with values and timestamps paired; on a
history whose timestamps arrived in time order, that is every point older than the cutoff. -/
theorem cleanup_old_data_law (config : AnalyticsConfig) (calls : List Call) (retentionHours : Int)
    (now : DateTime) (metricName : String) (data : TimeSeriesData)
    (held : ((Engines.new config).run calls).2.predictor.timeSeries metricName = some data) :
    ∃ cleaned, (((Engines.new config).run calls).2.predictor.cleanupOldData retentionHours
        now).timeSeries metricName = some cleaned ∧
      cleaned.values.length = cleaned.timestamps.length ∧
      cleaned.values.zip cleaned.timestamps = (data.values.zip data.timestamps).dropWhile
        (fun point => decide (point.2 < now - Duration.hours retentionHours)) ∧
      (data.timestamps.Sorted (· ≤ ·) → cleaned.values.zip cleaned.timestamps =
        (data.values.zip data.timestamps).filter
          fun point => ¬ point.2 < now - Duration.hours retentionHours) := by
  have parallel := Engines.parallel_run _ calls (PredictionEngine.parallel_new config) metricName data held
  obtain ⟨lengths, zipped⟩ := cleanup_loop_zip (now - Duration.hours retentionHours) _ _ parallel
  refine ⟨data.cleanupBefore (now - Duration.hours retentionHours),
    by simp [PredictionEngine.cleanupOldData, held], lengths, zipped, fun sorted => ?_⟩
  refine zipped.trans (drop_while_expired_sorted _ _ ?_)
  rwa [List.map_snd_zip _ _ (by omega)]

theorem cleanup_old_data_in_order :
    let history : List (ℚ × DateTime) :=
      [(5, Duration.minutes 0), (7, Duration.minutes 30), (9, Duration.minutes 70)]
    let calls := history.map fun point => Call.addDataPoint "load" point.1 point.2
    let data : TimeSeriesData :=
      ⟨[5, 7, 9], [Duration.minutes 0, Duration.minutes 30, Duration.minutes 70], 100⟩
    ((Engines.new ⟨0, 100⟩).run calls).2.predictor.timeSeries "load" = some data ∧
    ∃ cleaned, (((Engines.new ⟨0, 100⟩).run calls).2.predictor.cleanupOldData 1
        (Duration.minutes 100)).timeSeries "load" = some cleaned ∧
      cleaned.values.length = cleaned.timestamps.length ∧
      cleaned.values.zip cleaned.timestamps = (data.values.zip data.timestamps).dropWhile
        (fun point => decide (point.2 < Duration.minutes 100 - Duration.hours 1)) ∧
      (data.timestamps.Sorted (· ≤ ·) → cleaned.values.zip cleaned.timestamps =
        (data.values.zip data.timestamps).filter
          fun point => ¬ point.2 < Duration.minutes 100 - Duration.hours 1) := by
  intro history calls data
  have held : ((Engines.new ⟨0, 100⟩).run calls).2.predictor.timeSeries "load" = some data := by
    simp [calls, history, data, Engines.new, Engines.run, Engines.step, PredictionEngine.new,
      PredictionEngine.addDataPoint, PredictionEngine.seriesOf, TimeSeriesData.addPoint,
      TimeSeriesData.new, Window.new, Window.push]
  exact ⟨held, cleanup_old_data_law _ calls 1 (Duration.minutes 100) "load" data held⟩

/-- A point that arrives after a newer one: the cutoff falls between them, cleanup stops at the
newer front point, and the expired point behind it stays. -/
theorem cleanup_old_data_keeps_late_arrival :
    (((((PredictionEngine.new ⟨0, 100⟩).addDataPoint "load" 1 (Duration.minutes 10)).addDataPoint
      "load" 2 (Duration.minutes 0)).cleanupOldData 1 (Duration.hours 1 + Duration.minutes 5)).timeSeries
        "load").map (fun data => data.timestamps) = some [Duration.minutes 10, Duration.minutes 0] ∧
    Duration.minutes 0 < Duration.hours 1 + Duration.minutes 5 - Duration.hours 1 := by
  decide

end AnalyticsHub.Analytics
