import AnalyticsHub.Analytics.Sensitivity

set_option autoImplicit false

/- What the anomaly detector keeps of its findings. Each metric's log is the list of anomalies
   its checks have flagged, in call order; reset_baseline clears the metric's window and never
   its log. get_anomalies reads one log newest first, and get_all_anomalies merges every log
   and sorts it by timestamp, newest first, with Vec::sort_by, a stable sort, which is core's
   stable merge sort under the same comparison. DashMap iterates its entries in an order the
   code does not fix, so get_all_anomalies takes that order as the list of metrics it visits,
   and get_stats the lists of keys of its two maps. -/
namespace AnalyticsHub.Analytics

namespace DetectorCall

def checks (metricName : String) : DetectorCall → Bool
  | .checkAnomaly named _ _ => named == metricName
  | .resetBaseline _ => false

def resets (metricName : String) : DetectorCall → Bool
  | .checkAnomaly _ _ _ => false
  | .resetBaseline named => named == metricName

/-- The metric a check is on. -/
def checkedMetric : DetectorCall → Option String
  | .checkAnomaly metricName _ _ => some metricName
  | .resetBaseline _ => none

end DetectorCall

/-- The last call of a run on the metric, check or reset, is a check. -/
def lastCallChecks (calls : List DetectorCall) (metricName : String) : Bool :=
  (calls.reverse.find? fun call => call.checks metricName || call.resets metricName).any
    (DetectorCall.checks metricName)

structure DetectorStats where
  totalMetrics : Nat
  totalAnomalies : Nat
  activeBaselines : Nat
deriving DecidableEq, Repr

namespace AnomalyDetector

/-- The anomalies a run's checks on one metric flagged, in call order. -/
def flaggedOn (metricName : String) (calls : List DetectorCall) (replies : List (Option Anomaly)) :
    List Anomaly :=
  (calls.zip replies).filterMap fun entry => if entry.1.checks metricName then entry.2 else none

/-- get_all_anomalies, visiting the metrics in the order keys lists them. -/
def getAllAnomalies (d : AnomalyDetector) (keys : List String) (limit : Nat) : List Anomaly :=
  let allAnomalies := keys.flatMap d.logOf
  (allAnomalies.mergeSort fun a b => decide (b.timestamp ≤ a.timestamp)).take limit

/-- get_stats, visiting the keys of the baselines and of the anomaly logs in the orders given. -/
def getStats (d : AnomalyDetector) (baselineKeys anomalyKeys : List String) : DetectorStats :=
  let totalAnomalies := (anomalyKeys.map fun metricName => ((d.anomalies metricName).getD []).length).sum
  ⟨baselineKeys.length, totalAnomalies, baselineKeys.length⟩

theorem flagged_on_cons (metricName : String) (call : DetectorCall) (calls : List DetectorCall)
    (reply : Option Anomaly) (replies : List (Option Anomaly)) :
    flaggedOn metricName (call :: calls) (reply :: replies) =
      (if call.checks metricName then reply else none).toList ++ flaggedOn metricName calls replies := by
  simp only [flaggedOn, List.zip_cons_cons, List.filterMap_cons]
  split <;> rename_i found <;> simp [found]

theorem log_of_step (d : AnomalyDetector) (call : DetectorCall) (metricName : String) :
    (d.step call).2.logOf metricName =
      d.logOf metricName ++ (if call.checks metricName then (d.step call).1 else none).toList := by
  cases call with
  | checkAnomaly named value timestamp =>
      rw [step, log_of_check_anomaly]
      by_cases same : metricName = named
      · subst same
        simp [DetectorCall.checks]
      · simp [DetectorCall.checks, same, Ne.symm same]
  | resetBaseline named => simp [step, resetBaseline, logOf, DetectorCall.checks]

theorem log_of_run (d : AnomalyDetector) (calls : List DetectorCall) (metricName : String) :
    (d.run calls).2.logOf metricName =
      d.logOf metricName ++ flaggedOn metricName calls (d.run calls).1 := by
  induction calls generalizing d with
  | nil => simp [run, flaggedOn]
  | cons call rest ih => rw [run, ih, log_of_step, flagged_on_cons, List.append_assoc]

/-- get_anomalies after any run from a fresh detector returns the last `limit` anomalies the
run's checks on the metric flagged, newest first: reset_baseline removes none of them. -/
theorem get_anomalies_after_run (config : AnalyticsConfig) (calls : List DetectorCall)
    (metricName : String) (limit : Nat) :
    ((new config).run calls).2.getAnomalies metricName limit =
      (flaggedOn metricName calls ((new config).run calls).1).reverse.take limit := by
  have fresh : (new config).logOf metricName = [] := rfl
  have logged := log_of_run (new config) calls metricName
  rw [fresh, List.nil_append] at logged
  exact congrArg (fun log => log.reverse.take limit) logged

/-- get_all_anomalies returns the `limit` newest anomalies of the metrics it visits, newest
first: its result and the anomalies it leaves out are all of them, it is sorted by timestamp
descending, it is as long as the limit allows, and nothing left out is newer than anything
returned. -/
theorem get_all_anomalies_newest (d : AnomalyDetector) (keys : List String) (limit : Nat) :
    ∃ leftOut : List Anomaly,
      (d.getAllAnomalies keys limit ++ leftOut).Perm (keys.flatMap d.logOf) ∧
      (d.getAllAnomalies keys limit).Pairwise (fun a b => b.timestamp ≤ a.timestamp) ∧
      (d.getAllAnomalies keys limit).length = min limit (keys.flatMap d.logOf).length ∧
      ∀ a ∈ d.getAllAnomalies keys limit, ∀ b ∈ leftOut, b.timestamp ≤ a.timestamp := by
  have sorted := List.sorted_mergeSort
    (fun a b c (ab : decide (b.timestamp ≤ a.timestamp) = true)
      (bc : decide (c.timestamp ≤ b.timestamp) = true) =>
        decide_eq_true (le_trans (of_decide_eq_true bc) (of_decide_eq_true ab)))
    (fun a b => by simpa using le_total b.timestamp a.timestamp) (keys.flatMap d.logOf)
  rw [← List.take_append_drop limit
    ((keys.flatMap d.logOf).mergeSort fun a b => decide (b.timestamp ≤ a.timestamp)),
    List.pairwise_append] at sorted
  obtain ⟨newest, -, ordered⟩ := sorted
  refine ⟨_, (List.take_append_drop _ _).symm ▸ List.mergeSort_perm _ _,
    newest.imp of_decide_eq_true, by simp [getAllAnomalies, Nat.min_comm],
    fun a returned b leftOut => of_decide_eq_true (ordered a returned b leftOut)⟩

theorem run_length (d : AnomalyDetector) (calls : List DetectorCall) :
    (d.run calls).1.length = calls.length := by
  induction calls generalizing d with
  | nil => rfl
  | cons call rest ih => simp [run, ih]

theorem step_reply_checks (d : AnomalyDetector) (call : DetectorCall) (anomaly : Anomaly)
    (flagged : (d.step call).1 = some anomaly) : call.checks anomaly.metricName := by
  cases call with
  | checkAnomaly named value timestamp =>
      simp only [step, checkAnomaly] at flagged
      split_ifs at flagged
      cases flagged
      simp [DetectorCall.checks]
  | resetBaseline named => cases flagged

theorem run_reply_checks (d : AnomalyDetector) (calls : List DetectorCall) :
    ∀ entry ∈ calls.zip (d.run calls).1, ∀ anomaly, entry.2 = some anomaly →
      entry.1.checks anomaly.metricName := by
  induction calls generalizing d with
  | nil => simp
  | cons call rest ih =>
      simp only [run, List.zip_cons_cons, List.mem_cons, forall_eq_or_imp]
      exact ⟨fun anomaly flagged => step_reply_checks d call anomaly flagged, ih _⟩

theorem sum_map_ite (keys : List String) (p : String → Bool) :
    (keys.map fun metricName => if p metricName then 1 else 0).sum = keys.countP p := by
  induction keys with
  | nil => rfl
  | cons key keys ih => by_cases hit : p key <;> simp [List.countP_cons, hit, ih, Nat.add_comm]

theorem sum_count_flagged (keys : List String) (distinct : keys.Nodup)
    (pairs : List (DetectorCall × Option Anomaly))
    (covered : ∀ entry ∈ pairs, ∀ anomaly, entry.2 = some anomaly →
      entry.1.checks anomaly.metricName ∧ anomaly.metricName ∈ keys) :
    (keys.map fun metricName => pairs.countP fun entry => entry.1.checks metricName && entry.2.isSome).sum =
      pairs.countP fun entry => entry.2.isSome := by
  induction pairs with
  | nil => simp
  | cons entry rest ih =>
      simp only [List.countP_cons, List.sum_map_add]
      rw [ih fun later member => covered later (List.mem_cons_of_mem _ member)]
      congr 1
      obtain ⟨call, reply⟩ := entry
      cases reply with
      | none => simp
      | some anomaly =>
          obtain ⟨checked, listed⟩ := covered _ (List.mem_cons_self _ _) anomaly rfl
          cases call with
          | checkAnomaly named value timestamp =>
              obtain rfl : named = anomaly.metricName := by simpa [DetectorCall.checks] using checked
              simp only [DetectorCall.checks, Option.isSome_some, Bool.and_true, sum_map_ite]
              rw [← List.count_eq_one_of_mem distinct listed, List.count_eq_countP]
              refine List.countP_congr fun metricName _ => ?_
              rcases eq_or_ne metricName anomaly.metricName with same | other
              · simp [same]
              · simp [other, other.symm]
          | resetBaseline named => simp [DetectorCall.checks] at checked

/-- get_stats after any run from a fresh detector, visiting each logged metric once: its
total_anomalies is the number of check_anomaly calls of the run that reported an anomaly,
none lost and none counted twice, whatever reset_baseline calls came between. -/
theorem get_stats_total_anomalies (config : AnalyticsConfig) (calls : List DetectorCall)
    (baselineKeys anomalyKeys : List String) (distinct : anomalyKeys.Nodup)
    (keyed : ∀ metricName, metricName ∈ anomalyKeys ↔
      (((new config).run calls).2.anomalies metricName).isSome) :
    (((new config).run calls).2.getStats baselineKeys anomalyKeys).totalAnomalies =
      ((new config).run calls).1.countP Option.isSome := by
  have logged : ∀ metricName, ((new config).run calls).2.logOf metricName =
      flaggedOn metricName calls ((new config).run calls).1 := fun metricName => by
    simpa [logOf, new] using log_of_run (new config) calls metricName
  have counted : ∀ metricName, ((((new config).run calls).2.anomalies metricName).getD []).length =
      (calls.zip ((new config).run calls).1).countP
        fun entry => entry.1.checks metricName && entry.2.isSome := fun metricName => by
    rw [← logOf, logged, flaggedOn, List.length_filterMap_eq_countP]
    congr 1
    funext entry
    by_cases checked : entry.1.checks metricName <;> simp [checked]
  have covered : ∀ entry ∈ calls.zip ((new config).run calls).1, ∀ anomaly, entry.2 = some anomaly →
      entry.1.checks anomaly.metricName ∧ anomaly.metricName ∈ anomalyKeys := by
    intro entry member anomaly flagged
    have checked := run_reply_checks (new config) calls entry member anomaly flagged
    refine ⟨checked, (keyed _).mpr ?_⟩
    have found : anomaly ∈ ((new config).run calls).2.logOf anomaly.metricName := by
      rw [logged, flaggedOn, List.mem_filterMap]
      exact ⟨entry, member, by simp [checked, flagged]⟩
    cases stored : ((new config).run calls).2.anomalies anomaly.metricName with
    | none => simp [logOf, stored] at found
    | some log => rfl
  simp only [getStats, counted]
  rw [sum_count_flagged anomalyKeys distinct _ covered]
  show (calls.zip _).countP (Option.isSome ∘ Prod.snd) = _
  rw [← List.countP_map, List.map_snd_zip _ _ (by rw [run_length])]

theorem anomalies_run_of_unchecked (d : AnomalyDetector) (calls : List DetectorCall)
    (metricName : String) (unchecked : ∀ call ∈ calls, call.checks metricName = false) :
    (d.run calls).2.anomalies metricName = d.anomalies metricName := by
  induction calls generalizing d with
  | nil => rfl
  | cons call rest ih =>
      rw [show (d.run (call :: rest)).2 = ((d.step call).2.run rest).2 from rfl,
        ih _ fun other member => unchecked other (List.mem_cons_of_mem _ member)]
      cases call with
      | checkAnomaly named value timestamp =>
          have different : metricName ≠ named := fun same => by
            simpa [DetectorCall.checks, same] using unchecked _ (List.mem_cons_self _ _)
          exact check_anomaly_anomalies_other d named value timestamp metricName different
      | resetBaseline named => rfl

/-- Nine readings of 1 and then 5 on one metric at sensitivity 1/2: the 5 is flagged, and
get_stats counts it. -/
theorem get_stats_total_anomalies_one_flagged :
    let calls : List DetectorCall := (List.replicate 9 ((1 : ℚ), (0 : DateTime))).map
      (fun point => .checkAnomaly "cpu" point.1 point.2) ++ [.checkAnomaly "cpu" 5 0]
    ["cpu"].Nodup ∧
    (∀ metricName, metricName ∈ ["cpu"] ↔ (((new ⟨1 / 2, 100⟩).run calls).2.anomalies metricName).isSome) ∧
    0 < ((new ⟨1 / 2, 100⟩).run calls).1.countP Option.isSome ∧
    (((new ⟨1 / 2, 100⟩).run calls).2.getStats [] ["cpu"]).totalAnomalies =
      ((new ⟨1 / 2, 100⟩).run calls).1.countP Option.isSome := by
  intro calls
  obtain ⟨first, ran⟩ : ∃ first, (new ⟨1 / 2, 100⟩).run ((List.replicate 9 ((1 : ℚ), (0 : DateTime))).map
      fun point => .checkAnomaly "cpu" point.1 point.2) = first := ⟨_, rfl⟩
  have final : (new ⟨1 / 2, 100⟩).run calls =
      (first.1 ++ [(first.2.checkAnomaly "cpu" 5 0).1], (first.2.checkAnomaly "cpu" 5 0).2) := by
    simp only [calls, run_append, ran]
    rfl
  have flagged : (first.2.checkAnomaly "cpu" 5 0).1.isSome = true := by
    rw [← ran, run_checks]
    exact check_anomaly_after_nine_ones _ (by rw [config_of_fold]; rfl)
      (baseline_of_fold (new ⟨1 / 2, 100⟩) "cpu" _)
  have untouched : ∀ metricName, metricName ≠ "cpu" → first.2.anomalies metricName = none := by
    intro metricName other
    rw [← ran, anomalies_run_of_unchecked _ _ metricName (by simp [DetectorCall.checks, Ne.symm other])]
    rfl
  obtain ⟨anomaly, found⟩ := Option.isSome_iff_exists.mp flagged
  have keyed : ∀ metricName, metricName ∈ ["cpu"] ↔
      (((new ⟨1 / 2, 100⟩).run calls).2.anomalies metricName).isSome := by
    intro metricName
    rw [final, check_anomaly_anomalies, found]
    by_cases same : metricName = "cpu"
    · simp [same]
    · simp [same, Function.update_noteq same, untouched metricName same]
  have counted : 0 < ((new ⟨1 / 2, 100⟩).run calls).1.countP Option.isSome := by
    rw [final, List.countP_append]
    simp [found]
  exact ⟨List.nodup_singleton _, keyed, counted,
    get_stats_total_anomalies _ calls [] ["cpu"] (List.nodup_singleton _) keyed⟩

theorem baseline_is_some_step (d : AnomalyDetector) (call : DetectorCall) (metricName : String) :
    ((d.step call).2.baselines metricName).isSome =
      if call.checks metricName || call.resets metricName then call.checks metricName
      else (d.baselines metricName).isSome := by
  cases call with
  | checkAnomaly named value timestamp =>
      by_cases same : metricName = named
      · subst same
        simp [step, DetectorCall.checks, DetectorCall.resets]
      · simp [step, DetectorCall.checks, DetectorCall.resets, Function.update_noteq same, Ne.symm same]
  | resetBaseline named =>
      by_cases same : metricName = named
      · subst same
        simp [step, resetBaseline, DetectorCall.checks, DetectorCall.resets]
      · simp [step, resetBaseline, DetectorCall.checks, DetectorCall.resets, Function.update_noteq same,
          Ne.symm same]

theorem baseline_is_some_run (d : AnomalyDetector) (calls : List DetectorCall) (metricName : String) :
    ((d.run calls).2.baselines metricName).isSome =
      (calls.reverse.find? fun call => call.checks metricName || call.resets metricName).elim
        (d.baselines metricName).isSome (DetectorCall.checks metricName) := by
  induction calls generalizing d with
  | nil => rfl
  | cons call rest ih =>
      simp only [run, ih, List.reverse_cons, List.find?_append]
      cases rest.reverse.find? fun call => call.checks metricName || call.resets metricName with
      | some last => rfl
      | none =>
          rw [baseline_is_some_step, List.find?_singleton]
          split_ifs <;> rfl

/-- get_stats after any run from a fresh detector, visiting each baseline once: total_metrics
and active_baselines are both the number of metrics whose last call was a check. A metric reset
since its last check is not counted, though its anomalies still are in total_anomalies. -/
theorem get_stats_live_baselines (config : AnalyticsConfig) (calls : List DetectorCall)
    (baselineKeys anomalyKeys : List String) (distinct : baselineKeys.Nodup)
    (keyed : ∀ metricName, metricName ∈ baselineKeys ↔
      (((new config).run calls).2.baselines metricName).isSome) :
    (((new config).run calls).2.getStats baselineKeys anomalyKeys).totalMetrics =
        (((new config).run calls).2.getStats baselineKeys anomalyKeys).activeBaselines ∧
      (((new config).run calls).2.getStats baselineKeys anomalyKeys).totalMetrics =
        ((calls.filterMap DetectorCall.checkedMetric).dedup.filter (lastCallChecks calls)).length := by
  have live : ∀ metricName, metricName ∈ baselineKeys ↔ lastCallChecks calls metricName = true := by
    intro metricName
    rw [keyed, baseline_is_some_run, lastCallChecks]
    cases calls.reverse.find? fun call => call.checks metricName || call.resets metricName <;> rfl
  have checked : ∀ metricName, lastCallChecks calls metricName = true →
      metricName ∈ calls.filterMap DetectorCall.checkedMetric := by
    intro metricName last
    rw [lastCallChecks] at last
    cases found : calls.reverse.find? fun call => call.checks metricName || call.resets metricName with
    | none => simp [found] at last
    | some call =>
        rw [found, Option.any_some] at last
        have member := List.mem_reverse.mp (List.mem_of_find?_eq_some found)
        cases call with
        | checkAnomaly named value timestamp =>
            simp only [DetectorCall.checks, beq_iff_eq] at last
            exact List.mem_filterMap.mpr ⟨_, member, by rw [DetectorCall.checkedMetric, last]⟩
        | resetBaseline named => simp [DetectorCall.checks] at last
  have same : ∀ metricName, metricName ∈ baselineKeys ↔
      metricName ∈ (calls.filterMap DetectorCall.checkedMetric).dedup.filter (lastCallChecks calls) := by
    intro metricName
    rw [List.mem_filter, List.mem_dedup, live]
    exact ⟨fun last => ⟨checked metricName last, last⟩, And.right⟩
  exact ⟨rfl, ((List.perm_ext_iff_of_nodup distinct ((List.nodup_dedup _).filter _)).mpr same).length_eq⟩

/-- Two metrics checked and the first reset: get_stats counts one metric, the other. -/
theorem get_stats_live_baselines_after_reset :
    let calls : List DetectorCall :=
      [.checkAnomaly "cpu" 1 0, .checkAnomaly "mem" 2 0, .resetBaseline "cpu"]
    let final := ((new ⟨0, 100⟩).run calls).2
    ["mem"].Nodup ∧ (∀ metricName, metricName ∈ ["mem"] ↔ (final.baselines metricName).isSome) ∧
    (final.getStats ["mem"] []).totalMetrics = 1 ∧
    ((final.getStats ["mem"] []).totalMetrics = (final.getStats ["mem"] []).activeBaselines ∧
      (final.getStats ["mem"] []).totalMetrics =
        ((calls.filterMap DetectorCall.checkedMetric).dedup.filter (lastCallChecks calls)).length) := by
  intro calls final
  have keyed : ∀ metricName, metricName ∈ ["mem"] ↔ (final.baselines metricName).isSome := by
    intro metricName
    rw [baseline_is_some_run]
    by_cases mem : metricName = "mem"
    · subst mem
      decide
    · by_cases cpu : metricName = "cpu"
      · subst cpu
        decide
      · simp [calls, DetectorCall.checks, DetectorCall.resets, new, mem, Ne.symm mem, Ne.symm cpu]
  exact ⟨by decide, keyed, rfl, get_stats_live_baselines _ calls ["mem"] [] (by decide) keyed⟩

end AnomalyDetector

end AnalyticsHub.Analytics
