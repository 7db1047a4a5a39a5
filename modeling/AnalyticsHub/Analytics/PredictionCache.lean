import AnalyticsHub.Analytics.Prediction

set_option autoImplicit false

/- Concurrent add_data_point, predict_arima and cleanup_old_data calls on one metric of the
   prediction engine. Each DashMap access is one atomic step that reads the clock, if at all, at
   its own `now`. predict_arima holds the read guard of the metric's time_series shard from its
   `get` until it returns, across its cache insert; add_data_point's `entry` and
   cleanup_old_data's `iter_mut` write that shard, and wait while a guard is held. Calls on other
   metrics touch neither this series nor this cache entry, and the guards they hold on the same
   shards are left out, which only admits more schedules. -/
namespace AnalyticsHub.Analytics

namespace PredictionEngine

inductive Call where
  | addDataPoint (value : ℚ) (timestamp : DateTime)
  | predictArima (stepsAhead : Nat)
  | cleanupOldData (retentionHours : Int)
deriving DecidableEq, Repr

-- Where a call is: add_data_point appends and then removes the cached prediction;
-- predict_arima checks the cache, then reads the series and computes while holding its guard,
-- inserts its forecast, and releases the guard as it returns.
inductive Pc where
  | start
  | removing
  | reading
  | inserting (points : List PredictionPoint)
  | releasing (points : List PredictionPoint)
  | returned (result : Outcome (List PredictionPoint))
  | done
deriving Repr

def Pc.holdsGuard : Pc → Bool
  | .inserting _ | .releasing _ => true
  | _ => false

-- The points a call has returned, if it returned Ok.
def Pc.returnedPoints : Pc → Option (List PredictionPoint)
  | .returned (some (.ok points)) => some points
  | _ => none

theorem Pc.eq_of_returned_points {pc : Pc} {points : List PredictionPoint}
    (returned : pc.returnedPoints = some points) : pc = .returned (some (.ok points)) := by
  rcases pc with _ | _ | _ | _ | _ | (_ | (_ | _)) | _ <;> simp_all [returnedPoints]

/-- The metric's series and cached prediction, and where each call is. -/
structure World where
  series : Option TimeSeriesData
  cache : Option CachedPrediction
  pc : Nat → Pc

/-- The calls on one metric, by thread, and what they read from the engine. -/
structure Workload where
  config : AnalyticsConfig
  metricName : String
  calls : List Call

def World.setPc (w : World) (thread : Nat) (pc : Pc) : World :=
  { w with pc := Function.update w.pc thread pc }

@[simp] theorem World.set_pc_series (w : World) (thread : Nat) (pc : Pc) :
    (w.setPc thread pc).series = w.series := rfl

@[simp] theorem World.set_pc_cache (w : World) (thread : Nat) (pc : Pc) :
    (w.setPc thread pc).cache = w.cache := rfl

@[simp] theorem World.set_pc_pc (w : World) (thread : Nat) (pc : Pc) :
    (w.setPc thread pc).pc = Function.update w.pc thread pc := rfl

namespace Workload

def guardHeld (ω : Workload) (w : World) : Bool :=
  (List.range ω.calls.length).any fun thread => (w.pc thread).holdsGuard

def addDataPointStep (ω : Workload) (w : World) (thread : Nat) (value : ℚ) (timestamp : DateTime) :
    World :=
  match w.pc thread with
  | .start =>
      if ω.guardHeld w then w
      else
        let data := (w.series.getD (TimeSeriesData.new ω.config.predictionHistorySize)).addPoint
          value timestamp
        { w.setPc thread .removing with series := some data }
  | .removing => { w.setPc thread .done with cache := none }
  | _ => w

-- The series predict_arima reads under its guard: an error, a panic, or the forecast to cache.
def readSeries (ω : Workload) (series : Option TimeSeriesData) (stepsAhead : Nat) : Pc :=
  match series with
  | none => .returned (some (.error ("No time series data for " ++ ω.metricName)))
  | some tsData =>
      if tsData.values.length < 10 then
        .returned (some (.error "Insufficient data for prediction (need at least 10 points)"))
      else
        match arimaForecast tsData stepsAhead with
        | none => .returned none
        | some predictions => .inserting predictions

def predictArimaStep (ω : Workload) (w : World) (thread : Nat) (now : DateTime) (stepsAhead : Nat) :
    World :=
  match w.pc thread with
  | .start =>
      match w.cache with
      | some cached =>
          if cached.isValid now then w.setPc thread (.returned (some (.ok cached.points)))
          else w.setPc thread .reading
      | none => w.setPc thread .reading
  | .reading => w.setPc thread (ω.readSeries w.series stepsAhead)
  | .inserting predictions =>
      { w.setPc thread (.releasing predictions) with cache := some ⟨predictions, now, 300⟩ }
  | .releasing predictions => w.setPc thread (.returned (some (.ok predictions)))
  | _ => w

def cleanupOldDataStep (ω : Workload) (w : World) (thread : Nat) (now : DateTime)
    (retentionHours : Int) : World :=
  match w.pc thread with
  | .start =>
      if ω.guardHeld w then w
      else
        let cutoff := now - Duration.hours retentionHours
        { w.setPc thread .done with series := w.series.map (·.cleanupBefore cutoff) }
  | _ => w

/-- One step of thread `move.1`, at clock reading `move.2`; a blocked or returned call stays. -/
def step (ω : Workload) (w : World) (move : Nat × DateTime) : World :=
  match ω.calls[move.1]? with
  | some (.addDataPoint value timestamp) => ω.addDataPointStep w move.1 value timestamp
  | some (.predictArima stepsAhead) => ω.predictArimaStep w move.1 move.2 stepsAhead
  | some (.cleanupOldData retentionHours) => ω.cleanupOldDataStep w move.1 move.2 retentionHours
  | none => w

def run (ω : Workload) (w : World) (schedule : List (Nat × DateTime)) : World :=
  schedule.foldl ω.step w

@[simp] theorem run_nil (ω : Workload) (w : World) : ω.run w [] = w := rfl

@[simp] theorem run_cons (ω : Workload) (w : World) (move : Nat × DateTime)
    (schedule : List (Nat × DateTime)) : ω.run w (move :: schedule) = ω.run (ω.step w move) schedule :=
  rfl

@[simp] theorem run_append (ω : Workload) (w : World) (first second : List (Nat × DateTime)) :
    ω.run w (first ++ second) = ω.run (ω.run w first) second := by
  simp [run]

theorem run_concat (ω : Workload) (w : World) (schedule : List (Nat × DateTime))
    (move : Nat × DateTime) : ω.run w (schedule ++ [move]) = ω.step (ω.run w schedule) move := by
  simp

/-- Everything one step can do. -/
theorem step_cases (ω : Workload) (w : World) (move : Nat × DateTime) :
    ω.step w move = w ∨
    (∃ value timestamp, ω.calls[move.1]? = some (.addDataPoint value timestamp) ∧
      w.pc move.1 = .start ∧ ω.guardHeld w = false ∧
      ω.step w move = { w.setPc move.1 .removing with series := some ((w.series.getD
        (TimeSeriesData.new ω.config.predictionHistorySize)).addPoint value timestamp) }) ∨
    (∃ value timestamp, ω.calls[move.1]? = some (.addDataPoint value timestamp) ∧
      w.pc move.1 = .removing ∧ ω.step w move = { w.setPc move.1 .done with cache := none }) ∨
    (∃ stepsAhead cached, ω.calls[move.1]? = some (.predictArima stepsAhead) ∧
      w.pc move.1 = .start ∧ w.cache = some cached ∧ cached.isValid move.2 ∧
      ω.step w move = w.setPc move.1 (.returned (some (.ok cached.points)))) ∨
    (∃ stepsAhead, ω.calls[move.1]? = some (.predictArima stepsAhead) ∧ w.pc move.1 = .start ∧
      ω.step w move = w.setPc move.1 .reading) ∨
    (∃ stepsAhead, ω.calls[move.1]? = some (.predictArima stepsAhead) ∧ w.pc move.1 = .reading ∧
      ω.step w move = w.setPc move.1 (ω.readSeries w.series stepsAhead)) ∨
    (∃ stepsAhead points, ω.calls[move.1]? = some (.predictArima stepsAhead) ∧
      w.pc move.1 = .inserting points ∧
      ω.step w move = { w.setPc move.1 (.releasing points) with cache := some ⟨points, move.2, 300⟩ }) ∨
    (∃ stepsAhead points, ω.calls[move.1]? = some (.predictArima stepsAhead) ∧
      w.pc move.1 = .releasing points ∧
      ω.step w move = w.setPc move.1 (.returned (some (.ok points)))) ∨
    (∃ retentionHours, ω.calls[move.1]? = some (.cleanupOldData retentionHours) ∧
      w.pc move.1 = .start ∧ ω.guardHeld w = false ∧
      ω.step w move =
        { w.setPc move.1 .done with
          series := w.series.map (·.cleanupBefore (move.2 - Duration.hours retentionHours)) }) := by
  unfold step
  split
  · rename_i value timestamp call
    unfold addDataPointStep
    split
    · split_ifs with held
      · exact .inl rfl
      · exact .inr (.inl ⟨value, timestamp, call, ‹_›, by simpa using held, rfl⟩)
    · exact .inr (.inr (.inl ⟨value, timestamp, call, ‹_›, rfl⟩))
    · exact .inl rfl
  · rename_i stepsAhead call
    unfold predictArimaStep
    split
    · split
      · rename_i cached _
        split_ifs with valid
        · exact .inr (.inr (.inr (.inl ⟨stepsAhead, cached, call, ‹_›, ‹_›, valid, rfl⟩)))
        · exact .inr (.inr (.inr (.inr (.inl ⟨stepsAhead, call, ‹_›, rfl⟩))))
      · exact .inr (.inr (.inr (.inr (.inl ⟨stepsAhead, call, ‹_›, rfl⟩))))
    · exact .inr (.inr (.inr (.inr (.inr (.inl ⟨stepsAhead, call, ‹_›, rfl⟩)))))
    · exact .inr (.inr (.inr (.inr (.inr (.inr (.inl ⟨stepsAhead, _, call, ‹_›, rfl⟩))))))
    · exact .inr (.inr (.inr (.inr (.inr (.inr (.inr (.inl ⟨stepsAhead, _, call, ‹_›, rfl⟩)))))))
    · exact .inl rfl
  · rename_i retentionHours call
    unfold cleanupOldDataStep
    split
    · split_ifs with held
      · exact .inl rfl
      · exact .inr (.inr (.inr (.inr (.inr (.inr (.inr (.inr
          ⟨retentionHours, call, ‹_›, by simpa using held, rfl⟩)))))))
    · exact .inl rfl
  · exact .inl rfl

theorem guard_held_of_holds (ω : Workload) (w : World) (thread : Nat)
    (listed : thread < ω.calls.length) (holds : (w.pc thread).holdsGuard) : ω.guardHeld w = true := by
  simp only [guardHeld, List.any_eq_true, List.mem_range]
  exact ⟨thread, listed, holds⟩

/-- A call that holds its guard has computed its points from the current series. -/
def Holding (ω : Workload) (w : World) : Prop :=
  ∀ thread points, (w.pc thread = .inserting points ∨ w.pc thread = .releasing points) →
    ∃ stepsAhead tsData, ω.calls[thread]? = some (.predictArima stepsAhead) ∧
      w.series = some tsData ∧ arimaForecast tsData stepsAhead = some points

theorem read_series_holding (ω : Workload) (series : Option TimeSeriesData) (stepsAhead : Nat)
    (points : List PredictionPoint)
    (computed : ω.readSeries series stepsAhead = .inserting points ∨
      ω.readSeries series stepsAhead = .releasing points) :
    ∃ tsData, series = some tsData ∧ arimaForecast tsData stepsAhead = some points := by
  unfold readSeries at computed
  split at computed
  · simp at computed
  · split_ifs at computed
    · simp at computed
    · split at computed
      · simp at computed
      · simp only [Pc.inserting.injEq, reduceCtorEq, or_false] at computed
        subst computed
        exact ⟨_, rfl, ‹_›⟩

theorem holding_guard_held (ω : Workload) (w : World) (holding : ω.Holding w) (thread : Nat)
    (points : List PredictionPoint)
    (holds : w.pc thread = .inserting points ∨ w.pc thread = .releasing points) :
    ω.guardHeld w = true := by
  obtain ⟨_, _, call, -⟩ := holding thread points holds
  exact guard_held_of_holds ω w thread (List.getElem?_eq_some_iff.mp call).1
    (by rcases holds with held | held <;> simp [held, Pc.holdsGuard])

theorem holding_step (ω : Workload) (w : World) (move : Nat × DateTime) (holding : ω.Holding w) :
    ω.Holding (ω.step w move) := by
  intro thread points holds
  rcases step_cases ω w move with same | ⟨_, _, _, _, free, stepped⟩ | ⟨_, _, _, _, stepped⟩ |
      ⟨_, _, _, _, _, _, stepped⟩ | ⟨_, _, _, stepped⟩ | ⟨stepsAhead, call, _, stepped⟩ |
      ⟨_, inserted, _, inserting, stepped⟩ | ⟨_, _, _, _, stepped⟩ | ⟨_, _, _, free, stepped⟩
  · rw [same] at holds ⊢
    exact holding thread points holds
  all_goals
    rw [stepped] at holds ⊢
    simp only [World.set_pc_pc, World.set_pc_series, Function.update_apply] at holds ⊢
    split_ifs at holds with mover
  · simp at holds
  · exact absurd (holding_guard_held ω w holding thread points holds) (by simp [free])
  · simp at holds
  · exact holding thread points holds
  · simp at holds
  · exact holding thread points holds
  · simp at holds
  · exact holding thread points holds
  · subst mover
    obtain ⟨tsData, current, forecast⟩ := read_series_holding ω w.series stepsAhead points holds
    exact ⟨stepsAhead, tsData, call, current, forecast⟩
  · exact holding thread points holds
  · subst mover
    simp only [reduceCtorEq, Pc.releasing.injEq, false_or] at holds
    subst holds
    exact holding move.1 inserted (.inl inserting)
  · exact holding thread points holds
  · simp at holds
  · exact holding thread points holds
  · simp at holds
  · exact absurd (holding_guard_held ω w holding thread points holds) (by simp [free])

theorem holding_run (ω : Workload) (w₀ : World) (idle : ∀ thread, w₀.pc thread = .start)
    (schedule : List (Nat × DateTime)) : ω.Holding (ω.run w₀ schedule) := by
  induction schedule using List.reverseRecOn with
  | nil => exact fun thread points holds => by simp [idle thread] at holds
  | append_singleton schedule move ih =>
      rw [run_concat]
      exact holding_step ω _ move ih

theorem step_pc_other (ω : Workload) (w : World) (move : Nat × DateTime) (thread : Nat)
    (other : thread ≠ move.1) : (ω.step w move).pc thread = w.pc thread := by
  rcases step_cases ω w move with same | ⟨_, _, _, _, _, stepped⟩ | ⟨_, _, _, _, stepped⟩ |
      ⟨_, _, _, _, _, _, stepped⟩ | ⟨_, _, _, stepped⟩ | ⟨_, _, _, stepped⟩ |
      ⟨_, _, _, _, stepped⟩ | ⟨_, _, _, _, stepped⟩ | ⟨_, _, _, _, stepped⟩ <;>
    simp [*, Function.update_noteq other]

/-- A call that has finished stays finished. -/
theorem done_run (ω : Workload) (w : World) (schedule : List (Nat × DateTime)) (thread : Nat)
    (finished : w.pc thread = .done) : (ω.run w schedule).pc thread = .done := by
  induction schedule generalizing w with
  | nil => exact finished
  | cons move rest ih =>
      apply ih
      by_cases mover : thread = move.1
      · subst mover
        rcases step_cases ω w move with same | ⟨_, _, _, started, -⟩ | ⟨_, _, _, started, -⟩ |
            ⟨_, _, _, started, -⟩ | ⟨_, _, started, -⟩ | ⟨_, _, started, -⟩ |
            ⟨_, _, _, started, -⟩ | ⟨_, _, _, started, -⟩ | ⟨_, _, started, -⟩ <;>
          simp_all
      · rwa [step_pc_other ω w move thread mover]

/-- `points` were forecast, by the steps of some predict_arima call, from a series that was
current at a moment of the schedule at which `adder` had appended. -/
def FreshAt (ω : Workload) (w₀ : World) (adder : Nat) (schedule : List (Nat × DateTime))
    (points : List PredictionPoint) : Prop :=
  ∃ moment ≤ schedule.length, (ω.run w₀ (schedule.take moment)).pc adder ≠ .start ∧
    ∃ tsData stepsAhead, (ω.run w₀ (schedule.take moment)).series = some tsData ∧
      arimaForecast tsData stepsAhead = some points ∧
      ∃ caller : Nat, ω.calls[caller]? = some (.predictArima stepsAhead)

theorem fresh_at_concat (ω : Workload) (w₀ : World) (adder : Nat)
    (schedule : List (Nat × DateTime)) (move : Nat × DateTime) (points : List PredictionPoint)
    (fresh : ω.FreshAt w₀ adder schedule points) : ω.FreshAt w₀ adder (schedule ++ [move]) points := by
  obtain ⟨moment, within, appended, rest⟩ := fresh
  refine ⟨moment, by simp; omega, ?_⟩
  rw [List.take_append_of_le_length within]
  exact ⟨appended, rest⟩

/-- Points computed by a call that holds its guard now are fresh at the present moment. -/
theorem fresh_at_now (ω : Workload) (w₀ : World) (adder : Nat) (schedule : List (Nat × DateTime))
    (thread : Nat) (points : List PredictionPoint)
    (holds : (ω.run w₀ schedule).pc thread = .inserting points ∨
      (ω.run w₀ schedule).pc thread = .releasing points)
    (holding : ω.Holding (ω.run w₀ schedule)) (appended : (ω.run w₀ schedule).pc adder ≠ .start) :
    ω.FreshAt w₀ adder schedule points := by
  obtain ⟨stepsAhead, tsData, call, current, forecast⟩ := holding thread points holds
  exact ⟨schedule.length, le_rfl, by rwa [List.take_length],
    tsData, stepsAhead, by rwa [List.take_length], forecast, thread, call⟩

/-- Once `adder` has returned, the cached forecast was computed from a series current at a
moment after `adder` appended: add_data_point removes the entry after appending, and an insert
computed from an older series would have held its guard across that append. -/
theorem cached_after_run (ω : Workload) (w₀ : World) (idle : ∀ thread, w₀.pc thread = .start)
    (adder : Nat) (value : ℚ) (timestamp : DateTime)
    (adding : ω.calls[adder]? = some (.addDataPoint value timestamp))
    (schedule : List (Nat × DateTime)) (finished : (ω.run w₀ schedule).pc adder = .done)
    (cached : CachedPrediction) (present : (ω.run w₀ schedule).cache = some cached) :
    ω.FreshAt w₀ adder schedule cached.points := by
  induction schedule using List.reverseRecOn generalizing cached with
  | nil => simp [idle adder] at finished
  | append_singleton schedule move ih =>
      obtain ⟨thread, now⟩ := move
      rw [run_concat] at finished present
      apply fresh_at_concat
      have holding := holding_run ω w₀ idle schedule
      by_cases mover : adder = thread
      · subst mover
        rcases step_cases ω (ω.run w₀ schedule) (adder, now) with same | ⟨_, _, _, _, _, stepped⟩ |
            ⟨_, _, _, _, stepped⟩ | ⟨_, _, call, _⟩ | ⟨_, call, _⟩ | ⟨_, call, _⟩ |
            ⟨_, _, call, _⟩ | ⟨_, _, call, _⟩ | ⟨_, call, _⟩
        · rw [same] at finished present
          exact ih finished cached present
        · simp [stepped] at finished
        · simp [stepped] at present
        all_goals simp [adding] at call
      · rw [step_pc_other _ _ _ _ mover] at finished
        rcases step_cases ω (ω.run w₀ schedule) (thread, now) with same | ⟨_, _, _, _, _, stepped⟩ |
            ⟨_, _, _, _, stepped⟩ | ⟨_, _, _, _, _, _, stepped⟩ | ⟨_, _, _, stepped⟩ |
            ⟨_, _, _, stepped⟩ | ⟨_, inserted, _, inserting, stepped⟩ | ⟨_, _, _, _, stepped⟩ |
            ⟨_, _, _, _, stepped⟩
        · rw [same] at present
          exact ih finished cached present
        all_goals rw [stepped] at present
        · exact ih finished cached (by simpa using present)
        · simp at present
        all_goals try exact ih finished cached (by simpa using present)
        simp only [Option.some.injEq] at present
        subst present
        exact fresh_at_now ω w₀ adder schedule thread inserted (.inl inserting) holding
          (by simp [finished])

theorem read_series_not_ok (ω : Workload) (series : Option TimeSeriesData) (stepsAhead : Nat)
    (points : List PredictionPoint) :
    ω.readSeries series stepsAhead ≠ .returned (some (.ok points)) := by
  unfold readSeries
  split
  · simp
  · split_ifs
    · simp
    · split <;> simp

/-- Cache coherence: a predict_arima call that starts after an add_data_point call has
returned, and returns points, returns a forecast computed by some predict_arima call from a
series that was current at a moment after the add_data_point appended. -/
theorem served_forecast_fresh (ω : Workload) (w₀ : World) (idle : ∀ thread, w₀.pc thread = .start)
    (adder predictor : Nat) (value : ℚ) (timestamp : DateTime)
    (adding : ω.calls[adder]? = some (.addDataPoint value timestamp))
    (pre post : List (Nat × DateTime)) (returnedFirst : (ω.run w₀ pre).pc adder = .done)
    (startsAfter : (ω.run w₀ pre).pc predictor = .start) (points : List PredictionPoint)
    (served : (ω.run w₀ (pre ++ post)).pc predictor = .returned (some (.ok points))) :
    ∃ moment ≤ (pre ++ post).length, (ω.run w₀ ((pre ++ post).take moment)).pc adder ≠ .start ∧
      ∃ tsData stepsAhead, (ω.run w₀ ((pre ++ post).take moment)).series = some tsData ∧
        arimaForecast tsData stepsAhead = some points ∧
        ∃ caller : Nat, ω.calls[caller]? = some (.predictArima stepsAhead) := by
  suffices fresh : ∀ points, (ω.run w₀ (pre ++ post)).pc predictor = .returned (some (.ok points)) →
      ω.FreshAt w₀ adder (pre ++ post) points from fresh points served
  clear served points
  induction post using List.reverseRecOn with
  | nil => simp [startsAfter]
  | append_singleton post move ih =>
      intro points served
      rw [← List.append_assoc] at served ⊢
      apply fresh_at_concat
      rw [run_concat] at served
      have holding := holding_run ω w₀ idle (pre ++ post)
      have finished : (ω.run w₀ (pre ++ post)).pc adder = .done := by
        rw [run_append]
        exact done_run ω _ post adder returnedFirst
      obtain ⟨thread, now⟩ := move
      by_cases mover : predictor = thread
      · subst mover
        rcases step_cases ω (ω.run w₀ (pre ++ post)) (predictor, now) with same |
            ⟨_, _, _, _, _, stepped⟩ | ⟨_, _, _, _, stepped⟩ |
            ⟨_, cached, _, _, present, _, stepped⟩ | ⟨_, _, _, stepped⟩ | ⟨_, _, _, stepped⟩ |
            ⟨_, _, _, _, stepped⟩ | ⟨_, released, _, releasing, stepped⟩ | ⟨_, _, _, _, stepped⟩
        · rw [same] at served
          exact ih points served
        all_goals simp only [stepped, World.set_pc_pc, Function.update_same] at served
        · simp at served
        · simp at served
        · simp only [Pc.returned.injEq, Option.some.injEq, Except.ok.injEq] at served
          subst served
          exact cached_after_run ω w₀ idle adder value timestamp adding _ finished cached present
        · simp at served
        · exact absurd served (read_series_not_ok _ _ _ _)
        · simp at served
        · simp only [Pc.returned.injEq, Option.some.injEq, Except.ok.injEq] at served
          subst served
          exact fresh_at_now ω w₀ adder _ predictor released (.inr releasing) holding
            (by rw [finished]; simp)
        · simp at served
      · rw [step_pc_other _ _ _ _ mover] at served
        exact ih points served

/-- A forecast of the old series, cached at minute 9 and still within its 300 s TTL at minute 11,
is in the cache when add_data_point appends at minute 10. The add removes it, and a two-step
predict_arima that starts after the add returns a forecast of the new series, past its new
point: the stale one starts at minute 10, the one served at minute 11. -/
theorem served_forecast_fresh_after_add :
    let ω : Workload := ⟨⟨0, 100⟩, "cpu", [.addDataPoint 5 (Duration.minutes 10), .predictArima 2]⟩
    let history : TimeSeriesData :=
      ⟨List.replicate 10 1, (List.range 10).map fun k => Duration.minutes k, 100⟩
    let stale : CachedPrediction := ⟨(arimaForecast history 2).getD [], Duration.minutes 9, 300⟩
    let w₀ : World := ⟨some history, some stale, fun _ => .start⟩
    let pre := [(0, Duration.minutes 10), (0, Duration.minutes 10)]
    let post := List.replicate 4 (1, Duration.minutes 11)
    stale.isValid (Duration.minutes 11) = true ∧
    stale.points.map PredictionPoint.timestamp = [Duration.minutes 10, Duration.minutes 11] ∧
    (∀ thread, w₀.pc thread = .start) ∧
    ω.calls[0]? = some (.addDataPoint 5 (Duration.minutes 10)) ∧
    (ω.run w₀ pre).pc 0 = .done ∧ (ω.run w₀ pre).pc 1 = .start ∧
    ∃ points, (ω.run w₀ (pre ++ post)).pc 1 = .returned (some (.ok points)) ∧
      points.map PredictionPoint.timestamp = [Duration.minutes 11, Duration.minutes 12] ∧
      ∃ moment ≤ (pre ++ post).length, (ω.run w₀ ((pre ++ post).take moment)).pc 0 ≠ .start ∧
        ∃ tsData stepsAhead, (ω.run w₀ ((pre ++ post).take moment)).series = some tsData ∧
          arimaForecast tsData stepsAhead = some points ∧
          ∃ caller : Nat, ω.calls[caller]? = some (.predictArima stepsAhead) := by
  intro ω history stale w₀ pre post
  have idle : ∀ thread, w₀.pc thread = .start := fun _ => rfl
  have adding : ω.calls[0]? = some (.addDataPoint 5 (Duration.minutes 10)) := rfl
  have returnedFirst : (ω.run w₀ pre).pc 0 = .done := rfl
  have startsAfter : (ω.run w₀ pre).pc 1 = .start := rfl
  have reply : ((ω.run w₀ (pre ++ post)).pc 1).returnedPoints.map (List.map PredictionPoint.timestamp) =
      some [Duration.minutes 11, Duration.minutes 12] := by decide
  obtain ⟨points, returned, stamps⟩ := Option.map_eq_some'.mp reply
  have served := Pc.eq_of_returned_points returned
  exact ⟨by decide, by decide, idle, adding, returnedFirst, startsAfter, points, served, stamps,
    served_forecast_fresh ω w₀ idle 0 1 5 _ adding pre post returnedFirst startsAfter points served⟩

end Workload

/-- The metric's part of an engine, with every call at its start. -/
def World.ofEngine (e : PredictionEngine) (metricName : String) : World :=
  ⟨e.timeSeries metricName, e.predictions metricName, fun _ => .start⟩

/-- A predict_arima call that runs alone returns what predict_arima returns and leaves the
metric's series and cache entry as predict_arima leaves them. -/
theorem solo_predict_arima (e : PredictionEngine) (metricName : String) (calls : List Call)
    (thread stepsAhead : Nat) (now : DateTime)
    (call : calls[thread]? = some (.predictArima stepsAhead)) :
    let ω : Workload := ⟨e.config, metricName, calls⟩
    let solo := ω.run (World.ofEngine e metricName) (List.replicate 4 (thread, now))
    solo.pc thread = .returned (e.predictArima metricName stepsAhead now).1 ∧
      solo.cache = (e.predictArima metricName stepsAhead now).2.predictions metricName ∧
      solo.series = (e.predictArima metricName stepsAhead now).2.timeSeries metricName := by
  intro ω solo
  have miss : e.cacheHit metricName now = none →
      solo.pc thread = .returned (e.predictArima metricName stepsAhead now).1 ∧
      solo.cache = (e.predictArima metricName stepsAhead now).2.predictions metricName ∧
      solo.series = (e.predictArima metricName stepsAhead now).2.timeSeries metricName := by
    intro missed
    have first : ω.step (World.ofEngine e metricName) (thread, now) =
        (World.ofEngine e metricName).setPc thread .reading := by
      simp only [cacheHit] at missed
      simp only [Workload.step, ω, call, Workload.predictArimaStep, World.ofEngine,
        Function.const_apply]
      split at missed
      · rename_i cached hit
        split_ifs at missed with valid
        simp [hit, valid]
      · rename_i hit
        simp [hit]
    simp only [solo, List.replicate, Workload.run_cons, Workload.run_nil, first, predictArima,
      missed]
    rcases series : e.timeSeries metricName with _ | tsData
    · simp [Workload.step, ω, call, Workload.predictArimaStep, Workload.readSeries,
        World.ofEngine, series]
    · by_cases short : tsData.values.length < 10
      · simp [Workload.step, ω, call, Workload.predictArimaStep, Workload.readSeries,
          World.ofEngine, series, short]
      · rcases forecast : arimaForecast tsData stepsAhead with _ | points <;>
          simp [Workload.step, ω, call, Workload.predictArimaStep, Workload.readSeries,
            World.ofEngine, series, short, forecast]
  rcases hit : e.predictions metricName with _ | cached
  · exact miss (by simp [cacheHit, hit])
  · by_cases valid : cached.isValid now
    · simp [solo, ω, List.replicate, Workload.step, call, Workload.predictArimaStep, World.ofEngine,
        predictArima, cacheHit, hit, valid]
    · exact miss (by simp [cacheHit, hit, valid])

/-- An add_data_point call that runs alone leaves the metric's series and cache entry as
add_data_point leaves them. -/
theorem solo_add_data_point (e : PredictionEngine) (metricName : String) (calls : List Call)
    (thread : Nat) (value : ℚ) (timestamp now : DateTime)
    (call : calls[thread]? = some (.addDataPoint value timestamp)) :
    let ω : Workload := ⟨e.config, metricName, calls⟩
    let solo := ω.run (World.ofEngine e metricName) [(thread, now), (thread, now)]
    solo.pc thread = .done ∧
      solo.series = (e.addDataPoint metricName value timestamp).timeSeries metricName ∧
      solo.cache = (e.addDataPoint metricName value timestamp).predictions metricName := by
  intro ω solo
  have first : ω.step (World.ofEngine e metricName) (thread, now) =
      { (World.ofEngine e metricName).setPc thread .removing with
        series := some ((e.seriesOf metricName).addPoint value timestamp) } := by
    simp only [Workload.step, ω, call, Workload.addDataPointStep, World.ofEngine]
    rw [if_neg (by simp [Workload.guardHeld, Pc.holdsGuard])]
    rfl
  simp only [solo, Workload.run_cons, Workload.run_nil, first]
  simp [Workload.step, ω, call, Workload.addDataPointStep, addDataPoint]

end PredictionEngine

end AnalyticsHub.Analytics
