import AnalyticsHub.Analytics.Surd
import AnalyticsHub.Analytics.Window
import Mathlib.Logic.Function.Basic
import Mathlib.Algebra.Order.Field.Rat
import Mathlib.Tactic.NormNum

set_option autoImplicit false

namespace AnalyticsHub.Analytics

inductive AnomalyType where
  | spike
  | drop
  | highValue
  | lowValue
  | pattern
deriving DecidableEq, Repr

inductive AnomalySeverity where
  | low
  | medium
  | high
  | critical
deriving DecidableEq, Repr

structure Anomaly where
  metricName : String
  timestamp : DateTime
  value : ℚ
  expectedValue : ℚ
  deviation : Surd
  anomalyType : AnomalyType
  severity : AnomalySeverity
deriving DecidableEq, Repr

-- The two DashMaps as functions from a metric name to its entry.
structure AnomalyDetector where
  config : AnalyticsConfig
  baselines : String → Option MetricBaseline
  anomalies : String → Option (List Anomaly)

def MetricBaseline.calculateMean (baseline : MetricBaseline) : ℚ :=
  if baseline.values.isEmpty then 0 else baseline.values.sum / baseline.values.length

def MetricBaseline.calculateStddev (baseline : MetricBaseline) (mean : ℚ) : Surd :=
  if baseline.values.length < 2 then Surd.ofRat 1
  else
    let variance := (baseline.values.map fun v => (v - mean) * (v - mean)).sum /
      ((baseline.values.length - 1 : Nat) : ℚ)
    Surd.max (Surd.sqrt variance) (Surd.ofRat 0.0001)

namespace AnomalyDetector

def new (config : AnalyticsConfig) : AnomalyDetector := ⟨config, fun _ => none, fun _ => none⟩

def getThresholdForSensitivity (d : AnomalyDetector) : ℚ := 3 - d.config.anomalySensitivity * 2

def classifyAnomaly (value mean : ℚ) (baseline : MetricBaseline) : AnomalyType :=
  if value > mean then
    match baseline.values.getLast? with
    | some lastValue => if value > lastValue * 1.5 then .spike else .highValue
    | none => .highValue
  else
    match baseline.values.getLast? with
    | some lastValue => if value < lastValue * 0.5 then .drop else .lowValue
    | none => .lowValue

def calculateSeverity (zScore : Surd) : AnomalySeverity :=
  if zScore.gt 5 then .critical
  else if zScore.gt 4 then .high
  else if zScore.gt 3 then .medium
  else .low

-- The baseline the entry API hands to check_anomaly: the stored one, or a fresh one.
def baselineOf (d : AnomalyDetector) (metricName : String) : MetricBaseline :=
  (d.baselines metricName).getD (MetricBaseline.new 100)

def checkAnomaly (d : AnomalyDetector) (metricName : String) (value : ℚ) (timestamp : DateTime) :
    Option Anomaly × AnomalyDetector :=
  let baseline := (d.baselineOf metricName).addValue value timestamp
  let d := { d with baselines := Function.update d.baselines metricName (some baseline) }
  if baseline.values.length < 10 then (none, d)
  else
    let mean := baseline.calculateMean
    let stddev := baseline.calculateStddev mean
    let zScore := Surd.div (Surd.ofRat |value - mean|) stddev
    let threshold := d.getThresholdForSensitivity
    if zScore.gt threshold then
      let anomaly : Anomaly := ⟨metricName, timestamp, value, mean, zScore,
        classifyAnomaly value mean baseline, calculateSeverity zScore⟩
      let log := (d.anomalies metricName).getD [] ++ [anomaly]
      (some anomaly, { d with anomalies := Function.update d.anomalies metricName (some log) })
    else (none, d)

def getAnomalies (d : AnomalyDetector) (metricName : String) (limit : Nat) : List Anomaly :=
  ((d.anomalies metricName).getD []).reverse.take limit

def resetBaseline (d : AnomalyDetector) (metricName : String) : AnomalyDetector :=
  { d with baselines := Function.update d.baselines metricName none }

variable (d : AnomalyDetector) (metricName : String) (value : ℚ) (timestamp : DateTime)

@[simp] theorem check_anomaly_config : (d.checkAnomaly metricName value timestamp).2.config = d.config := by
  simp only [checkAnomaly]
  split_ifs <;> rfl

@[simp] theorem check_anomaly_baselines :
    (d.checkAnomaly metricName value timestamp).2.baselines =
      Function.update d.baselines metricName (some ((d.baselineOf metricName).addValue value timestamp)) := by
  simp only [checkAnomaly]
  split_ifs <;> rfl

theorem check_anomaly_anomalies :
    (d.checkAnomaly metricName value timestamp).2.anomalies =
      match (d.checkAnomaly metricName value timestamp).1 with
      | none => d.anomalies
      | some anomaly => Function.update d.anomalies metricName
          (some ((d.anomalies metricName).getD [] ++ [anomaly])) := by
  simp only [checkAnomaly]
  split_ifs <;> rfl

theorem check_anomaly_anomalies_other (other : String) (different : other ≠ metricName) :
    (d.checkAnomaly metricName value timestamp).2.anomalies other = d.anomalies other := by
  rw [check_anomaly_anomalies]
  split <;> simp [Function.update_noteq different]

/-- check_anomaly reads only the configuration and the metric's own entries: detectors that
agree there give the same reply and agree there afterwards. -/
theorem check_anomaly_local (d' : AnomalyDetector) (config : d.config = d'.config)
    (baseline : d.baselines metricName = d'.baselines metricName)
    (log : d.anomalies metricName = d'.anomalies metricName) :
    (d.checkAnomaly metricName value timestamp).1 = (d'.checkAnomaly metricName value timestamp).1 ∧
    (d.checkAnomaly metricName value timestamp).2.anomalies metricName =
      (d'.checkAnomaly metricName value timestamp).2.anomalies metricName := by
  have sameBaseline : d.baselineOf metricName = d'.baselineOf metricName := by
    simp [baselineOf, baseline]
  simp only [checkAnomaly, getThresholdForSensitivity, sameBaseline, config]
  split_ifs <;> simp [log]

/-- What a flagged check reports: the window it used holds at least ten values, and the
anomaly carries the window's mean and the classification of the new value against it. -/
theorem check_anomaly_flagged (anomaly : Anomaly)
    (flagged : (d.checkAnomaly metricName value timestamp).1 = some anomaly) :
    10 ≤ ((d.baselineOf metricName).addValue value timestamp).values.length ∧
    anomaly.expectedValue = ((d.baselineOf metricName).addValue value timestamp).calculateMean ∧
    anomaly.anomalyType = classifyAnomaly value anomaly.expectedValue
      ((d.baselineOf metricName).addValue value timestamp) := by
  simp only [checkAnomaly] at flagged
  split_ifs at flagged with short
  · cases flagged
    exact ⟨by omega, rfl, rfl⟩

theorem add_value_last (baseline : MetricBaseline) :
    (baseline.addValue value timestamp).values.getLast? = some value := by
  unfold MetricBaseline.addValue Window.push
  split <;> simp

/-- check_anomaly classifies the new value against the last value of the window, and the
window already ends with the new value: the value is compared with itself. -/
theorem check_anomaly_self_compare (anomaly : Anomaly)
    (flagged : (d.checkAnomaly metricName value timestamp).1 = some anomaly) :
    anomaly.anomalyType =
      if value > anomaly.expectedValue then (if value > value * 1.5 then .spike else .highValue)
      else (if value < value * 0.5 then .drop else .lowValue) := by
  rw [(check_anomaly_flagged d metricName value timestamp anomaly flagged).2.2, classifyAnomaly,
    add_value_last]

theorem check_anomaly_nonnegative_type (anomaly : Anomaly)
    (flagged : (d.checkAnomaly metricName value timestamp).1 = some anomaly) (nonneg : 0 ≤ value) :
    anomaly.anomalyType = if value > anomaly.expectedValue then .highValue else .lowValue := by
  rw [check_anomaly_self_compare d metricName value timestamp anomaly flagged]
  have notAbove : ¬ value > value * 1.5 := by linarith
  have notBelow : ¬ value < value * 0.5 := by linarith
  simp only [notAbove, notBelow, if_false]

theorem baseline_of_fold (inserted : List (ℚ × DateTime)) :
    (inserted.foldl (fun d point => (d.checkAnomaly metricName point.1 point.2).2) d).baselineOf
      metricName = (d.baselineOf metricName).pushAll inserted := by
  induction inserted generalizing d with
  | nil => rfl
  | cons point rest ih =>
      rw [List.foldl_cons, ih]
      simp [baselineOf, Window.pushAll, MetricBaseline.addValue]

theorem config_of_fold (inserted : List (ℚ × DateTime)) :
    (inserted.foldl (fun d point => (d.checkAnomaly metricName point.1 point.2).2) d).config =
      d.config := by
  induction inserted generalizing d with
  | nil => rfl
  | cons point rest ih => simp [ih]

theorem window_after_nine_ones (d : AnomalyDetector)
    (fed : d.baselineOf "cpu" = (MetricBaseline.new 100).pushAll (List.replicate 9 (1, 0))) :
    ((d.baselineOf "cpu").addValue 5 0).values = List.replicate 9 1 ++ [5] := by
  have pushed := (Window.push_all_new 100 (List.replicate 9 ((1 : ℚ), (0 : DateTime)) ++ [(5, 0)])).1
  simp only [Window.pushAll, List.foldl_append, List.foldl_cons, List.foldl_nil] at pushed
  rw [fed, MetricBaseline.addValue, MetricBaseline.new, Window.pushAll, pushed]
  simp [List.rtake]

/-- Nine readings of 1 and then 5: the window's mean is 7/5, its variance 8/5, and the z-score
√8.1, about 2.85, is above the threshold 2 of sensitivity 1/2 and of every higher one. -/
theorem check_anomaly_after_nine_ones (d : AnomalyDetector)
    (raised : 1 / 2 ≤ d.config.anomalySensitivity)
    (fed : d.baselineOf "cpu" = (MetricBaseline.new 100).pushAll (List.replicate 9 (1, 0))) :
    (d.checkAnomaly "cpu" 5 0).1.isSome = true := by
  have lower : 3 - d.config.anomalySensitivity * 2 ≤ 2 := by linarith
  simp only [checkAnomaly, getThresholdForSensitivity, MetricBaseline.calculateMean,
    MetricBaseline.calculateStddev, window_after_nine_ones d fed]
  rw [if_neg (by norm_num), if_pos (Surd.gt_of_le _ lower (by
    norm_num [Surd.gt, Surd.div, Surd.ofRat, Surd.sqrt, Surd.max]))]
  rfl

/-- The spec's own example: twenty readings of 100, then 250. The window's mean is about 107
and 250 exceeds 1.5 times the preceding 100, yet the anomaly is reported as HighValue. -/
theorem check_anomaly_spike_reported_high_value :
    ((checkAnomaly ((List.replicate 20 ((100 : ℚ), (0 : DateTime))).foldl
      (fun d point => (d.checkAnomaly "latency" point.1 point.2).2) (new ⟨0, 100⟩))
      "latency" 250 0).1.map Anomaly.anomalyType) = some .highValue := by
  have fed : _ = (MetricBaseline.new 100).pushAll _ :=
    baseline_of_fold (new ⟨0, 100⟩) "latency" (List.replicate 20 (100, 0))
  have config : _ = (⟨0, 100⟩ : AnalyticsConfig) :=
    config_of_fold (new ⟨0, 100⟩) "latency" (List.replicate 20 (100, 0))
  generalize (List.replicate 20 ((100 : ℚ), (0 : DateTime))).foldl _ _ = d at fed config ⊢
  have window : ((d.baselineOf "latency").addValue 250 0).values = List.replicate 20 100 ++ [250] := by
    have pushed := (Window.push_all_new 100 (List.replicate 20 ((100 : ℚ), (0 : DateTime)) ++ [(250, 0)])).1
    simp only [Window.pushAll, List.foldl_append, List.foldl_cons, List.foldl_nil] at pushed
    rw [fed, MetricBaseline.addValue, MetricBaseline.new, Window.pushAll, pushed]
    simp [List.rtake]
  simp only [checkAnomaly, getThresholdForSensitivity, config, MetricBaseline.calculateMean,
    MetricBaseline.calculateStddev, classifyAnomaly, window]
  norm_num [Surd.gt, Surd.div, Surd.ofRat, Surd.sqrt, Surd.max]

end AnomalyDetector

end AnalyticsHub.Analytics
