import AnalyticsHub.Analytics.Anomaly

set_option autoImplicit false

/- Two anomaly detectors fed the same check_anomaly and reset_baseline calls, the second at
   least as sensitive as the first. What a detector stores never depends on whether a check
   was flagged, only on the values it was given, so the two keep equal baselines for ever;
   a lower threshold then flags every value the higher one flags, with the same report. -/
namespace AnalyticsHub.Analytics

/-- A call on the detector alone. reset_baseline returns nothing, which the replies record
as no anomaly. -/
inductive DetectorCall where
  | checkAnomaly (metricName : String) (value : ℚ) (timestamp : DateTime)
  | resetBaseline (metricName : String)
deriving DecidableEq, Repr

namespace AnomalyDetector

def step (d : AnomalyDetector) : DetectorCall → Option Anomaly × AnomalyDetector
  | .checkAnomaly metricName value timestamp => d.checkAnomaly metricName value timestamp
  | .resetBaseline metricName => (none, d.resetBaseline metricName)

def run (d : AnomalyDetector) : List DetectorCall → List (Option Anomaly) × AnomalyDetector
  | [] => ([], d)
  | call :: rest =>
      let next := d.step call
      let after := next.2.run rest
      (next.1 :: after.1, after.2)

/-- The anomaly log of a metric, empty until its first anomaly. -/
def logOf (d : AnomalyDetector) (metricName : String) : List Anomaly :=
  (d.anomalies metricName).getD []

/-- A check appends its reply, if any, to its own metric's log and to no other. -/
theorem log_of_check_anomaly (d : AnomalyDetector) (metricName : String) (value : ℚ)
    (timestamp : DateTime) (other : String) :
    (d.checkAnomaly metricName value timestamp).2.logOf other =
      if other = metricName then
        d.logOf metricName ++ (d.checkAnomaly metricName value timestamp).1.toList
      else d.logOf other := by
  unfold logOf
  rw [check_anomaly_anomalies]
  split_ifs with same
  · subst same
    split <;> simp_all
  · split <;> simp [Function.update_noteq same]

/-- The second detector is at least as sensitive as the first, holds the same baselines, and
has logged at least the first's anomalies, in order. -/
structure LessSensitive (d₁ d₂ : AnomalyDetector) : Prop where
  sensitivity : d₁.config.anomalySensitivity ≤ d₂.config.anomalySensitivity
  baselines : d₁.baselines = d₂.baselines
  logs : ∀ metricName, (d₁.logOf metricName).Sublist (d₂.logOf metricName)

variable {d₁ d₂ : AnomalyDetector}

theorem LessSensitive.threshold (less : LessSensitive d₁ d₂) :
    d₂.getThresholdForSensitivity ≤ d₁.getThresholdForSensitivity := by
  unfold getThresholdForSensitivity
  linarith [less.sensitivity]

/-- A value the less sensitive detector flags, the more sensitive one flags with the same
report: only the threshold differs, and the report does not read it. -/
theorem check_anomaly_more_sensitive (less : LessSensitive d₁ d₂) (metricName : String)
    (value : ℚ) (timestamp : DateTime) (anomaly : Anomaly)
    (flagged : (d₁.checkAnomaly metricName value timestamp).1 = some anomaly) :
    (d₂.checkAnomaly metricName value timestamp).1 = some anomaly := by
  have sameBaseline : d₁.baselineOf metricName = d₂.baselineOf metricName := by
    simp only [baselineOf, less.baselines]
  have lower := less.threshold
  simp only [checkAnomaly, getThresholdForSensitivity, sameBaseline] at flagged lower ⊢
  split_ifs at flagged ⊢ with short above₂
  · exact flagged
  · exact (above₂ (Surd.gt_of_le _ lower ‹_›)).elim

theorem LessSensitive.after_step (less : LessSensitive d₁ d₂) (call : DetectorCall) :
    (∀ anomaly, (d₁.step call).1 = some anomaly → (d₂.step call).1 = some anomaly) ∧
    LessSensitive (d₁.step call).2 (d₂.step call).2 := by
  cases call with
  | checkAnomaly metricName value timestamp =>
      have more := check_anomaly_more_sensitive less metricName value timestamp
      have replies : ((d₁.checkAnomaly metricName value timestamp).1).toList.Sublist
          ((d₂.checkAnomaly metricName value timestamp).1).toList := by
        cases reply : (d₁.checkAnomaly metricName value timestamp).1 with
        | none => exact List.nil_sublist _
        | some anomaly => rw [more anomaly reply]
      refine ⟨more, ⟨by simpa [step] using less.sensitivity, ?_, fun other => ?_⟩⟩
      · simp only [step, check_anomaly_baselines, baselineOf, less.baselines]
      · simp only [step, log_of_check_anomaly]
        split_ifs
        · exact (less.logs metricName).append replies
        · exact less.logs other
  | resetBaseline metricName =>
      exact ⟨nofun, ⟨less.sensitivity, by simp [step, resetBaseline, less.baselines], less.logs⟩⟩

theorem LessSensitive.after_run (less : LessSensitive d₁ d₂) (calls : List DetectorCall) :
    List.Forall₂ (fun reply₁ reply₂ => ∀ anomaly, reply₁ = some anomaly → reply₂ = some anomaly)
      (d₁.run calls).1 (d₂.run calls).1 ∧
    LessSensitive (d₁.run calls).2 (d₂.run calls).2 := by
  induction calls generalizing d₁ d₂ with
  | nil => exact ⟨.nil, less⟩
  | cons call rest ih =>
      obtain ⟨flagged, next⟩ := less.after_step call
      obtain ⟨replies, final⟩ := ih next
      exact ⟨.cons flagged replies, final⟩

/-- Detection is monotone in the sensitivity: fed the same calls, a detector whose sensitivity
is raised keeps the same baselines, flags every value the other flags with the same report,
and logs a supersequence of the other's log for every metric. -/
theorem detection_monotone_in_sensitivity (config : AnalyticsConfig) (sensitivity₁ sensitivity₂ : ℚ)
    (raised : sensitivity₁ ≤ sensitivity₂) (calls : List DetectorCall) :
    let d₁ := new { config with anomalySensitivity := sensitivity₁ }
    let d₂ := new { config with anomalySensitivity := sensitivity₂ }
    (d₁.run calls).2.baselines = (d₂.run calls).2.baselines ∧
    List.Forall₂ (fun reply₁ reply₂ => ∀ anomaly, reply₁ = some anomaly → reply₂ = some anomaly)
      (d₁.run calls).1 (d₂.run calls).1 ∧
    ∀ metricName, ((d₁.run calls).2.logOf metricName).Sublist ((d₂.run calls).2.logOf metricName) := by
  intro d₁ d₂
  have start : LessSensitive d₁ d₂ := ⟨raised, rfl, fun _ => .refl _⟩
  obtain ⟨replies, final⟩ := start.after_run calls
  exact ⟨final.baselines, replies, final.logs⟩

theorem run_append (d : AnomalyDetector) (first second : List DetectorCall) :
    d.run (first ++ second) =
      ((d.run first).1 ++ ((d.run first).2.run second).1, ((d.run first).2.run second).2) := by
  induction first generalizing d with
  | nil => rfl
  | cons call rest ih => simp [run, ih]

theorem run_checks (d : AnomalyDetector) (metricName : String) (inserted : List (ℚ × DateTime)) :
    (d.run (inserted.map fun point => .checkAnomaly metricName point.1 point.2)).2 =
      inserted.foldl (fun d point => (d.checkAnomaly metricName point.1 point.2).2) d := by
  induction inserted generalizing d with
  | nil => rfl
  | cons point rest ih => exact ih _

/-- Nine readings of 1, then 5, then a reset, at sensitivities 1/2 and 1: the 5 is flagged by
the less sensitive detector, and so by the other. -/
theorem detection_monotone_in_sensitivity_ten_checks :
    let calls : List DetectorCall := (List.replicate 9 ((1 : ℚ), (0 : DateTime))).map
      (fun point => .checkAnomaly "cpu" point.1 point.2) ++ [.checkAnomaly "cpu" 5 0, .resetBaseline "cpu"]
    (1 / 2 : ℚ) ≤ 1 ∧ (((new ⟨1 / 2, 100⟩).run calls).1.any Option.isSome = true) ∧
    ((new ⟨1 / 2, 100⟩).run calls).2.baselines = ((new ⟨1, 100⟩).run calls).2.baselines ∧
    List.Forall₂ (fun reply₁ reply₂ => ∀ anomaly, reply₁ = some anomaly → reply₂ = some anomaly)
      ((new ⟨1 / 2, 100⟩).run calls).1 ((new ⟨1, 100⟩).run calls).1 ∧
    ∀ metricName, (((new ⟨1 / 2, 100⟩).run calls).2.logOf metricName).Sublist
      (((new ⟨1, 100⟩).run calls).2.logOf metricName) := by
  intro calls
  have flagged := check_anomaly_after_nine_ones _ (by rw [config_of_fold]; rfl)
    (baseline_of_fold (new ⟨1 / 2, 100⟩) "cpu" _)
  rw [← run_checks] at flagged
  have replies : ((new ⟨1 / 2, 100⟩).run calls).1.any Option.isSome = true := by
    have tail : ∀ d : AnomalyDetector, (d.checkAnomaly "cpu" 5 0).1.isSome = true →
        (d.run [.checkAnomaly "cpu" 5 0, .resetBaseline "cpu"]).1.any Option.isSome = true :=
      fun d found => by simp [run, step, found]
    simp only [calls, run_append, List.any_append, Bool.or_eq_true]
    exact .inr (tail _ flagged)
  exact ⟨by norm_num, replies,
    detection_monotone_in_sensitivity ⟨0, 100⟩ (1 / 2) 1 (by norm_num) calls⟩

end AnomalyDetector

end AnalyticsHub.Analytics
