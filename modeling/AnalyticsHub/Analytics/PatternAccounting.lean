import AnalyticsHub.Analytics.CorrelationScan
import Mathlib.Algebra.BigOperators.Group.List

set_option autoImplicit false

/- The temporal patterns of a sequential run of the correlation engine, against the pairs of
   events the run makes: an event e added by a call, and an event o added by an earlier call
   and kept by every call in between. Each add_event scans the stored events, which are the
   kept ones, so every pair inside the window adds one occurrence to the pattern of its two
   source modules. -/
namespace AnalyticsHub.Analytics

open AnalyticsHub.Schemas

namespace CorrelationEngine

def Call.added : Call → Option AnalyticsEvent
  | .addEvent event => some event
  | .cleanupOldEvents _ _ => none

/-- The events added by the calls, kept by every call after their own. -/
def retainedAt (calls : List Call) : List AnalyticsEvent :=
  (List.range calls.length).filterMap fun j : Nat =>
    match calls[j]? with
    | some (.addEvent other) =>
        if (calls.drop (j + 1)).all fun call => call.retains other then some other else none
    | _ => none

/-- The pairs (e, o) of a run: e added by a call, o added by an earlier call and kept by
every call in between. -/
def pairsAt (calls : List Call) : List (AnalyticsEvent × AnalyticsEvent) :=
  (List.range calls.length).flatMap fun i : Nat =>
    match calls[i]? with
    | some (.addEvent event) => (retainedAt (calls.take i)).map (event, ·)
    | _ => []

/-- The pairs between two modules whose whole-second gap is inside the five-minute window. -/
def modulePairs (calls : List Call) (source target : SourceModule) :
    List (AnalyticsEvent × AnalyticsEvent) :=
  (pairsAt calls).filter fun pair => pair.1.common.sourceModule = source ∧
    pair.2.common.sourceModule = target ∧ timeDiff pair.1 pair.2 ≤ 300

theorem retained_at_concat (calls : List Call) (call : Call) :
    retainedAt (calls ++ [call]) =
      (retainedAt calls).filter (fun other => call.retains other) ++ call.added.toList := by
  unfold retainedAt
  rw [List.length_append, List.length_singleton, List.range_succ, List.filterMap_append,
    List.filter_filterMap]
  congr 1
  · apply List.filterMap_congr
    intro j listed
    have inside : j < calls.length := List.mem_range.mp listed
    rw [List.getElem?_append_left inside, List.drop_append_of_le_length inside]
    split
    · simp only [List.all_append, List.all_cons, List.all_nil, Bool.and_true, Bool.and_eq_true]
      split_ifs <;> simp_all [Option.filter]
    · rfl
  · cases call <;> simp [Call.added]

theorem pairs_at_concat (calls : List Call) (call : Call) :
    pairsAt (calls ++ [call]) = pairsAt calls ++
      match call with
      | .addEvent event => (retainedAt calls).map (event, ·)
      | .cleanupOldEvents _ _ => [] := by
  unfold pairsAt
  rw [List.length_append, List.length_singleton, List.range_succ, List.flatMap_append]
  congr 1
  · apply List.flatMap_congr
    intro i listed
    have inside : i < calls.length := List.mem_range.mp listed
    rw [List.getElem?_append_left inside, List.take_append_of_le_length inside.le]
  · cases call <;> simp

theorem added_of_retained (calls : List Call) (other : AnalyticsEvent)
    (kept : other ∈ retainedAt calls) : Call.addEvent other ∈ calls := by
  obtain ⟨j, -, found⟩ := List.mem_filterMap.mp kept
  split at found
  · rename_i event stored
    split_ifs at found
    cases found
    exact List.getElem?_mem stored
  · cases found

theorem distinct_of_concat (calls : List Call) (call : Call)
    (distinct : (((calls ++ [call]).filterMap Call.added).map fun event => event.common.eventId).Nodup) :
    ((calls.filterMap Call.added).map fun event => event.common.eventId).Nodup := by
  rw [List.filterMap_append, List.map_append] at distinct
  exact (List.nodup_append.mp distinct).1

theorem fresh_of_distinct (calls : List Call) (event : AnalyticsEvent)
    (distinct : (((calls ++ [Call.addEvent event]).filterMap Call.added).map
      fun added => added.common.eventId).Nodup)
    (other : AnalyticsEvent) (added : Call.addEvent other ∈ calls) :
    other.common.eventId ≠ event.common.eventId := fun same => by
  rw [List.filterMap_append, List.map_append] at distinct
  exact (List.nodup_append.mp distinct).2.2
    (List.mem_map.mpr ⟨other, List.mem_filterMap.mpr ⟨_, added, rfl⟩, rfl⟩) (by simp [Call.added, same])

/-- With distinct ids, the stored events are the added events every later call kept. -/
theorem stored_perm (sharding : Sharding) (calls : List Call)
    (distinct : ((calls.filterMap Call.added).map fun event => event.common.eventId).Nodup) :
    ((new sharding).run calls).events.entries.Perm (retainedAt calls) := by
  induction calls using List.reverseRecOn with
  | nil => simp [new, EventMap.empty, retainedAt]
  | append_singleton calls call ih =>
      have before := ih (distinct_of_concat calls call distinct)
      rw [run_concat, retained_at_concat]
      cases call with
      | addEvent event =>
          have fresh := fresh_of_distinct calls event distinct
          have stored := (indexed_run sharding calls).2
          simp only [step, addEvent, find_temporal_correlations_events, track_correlation_events,
            store_event_events, EventMap.insert, Call.added, Option.toList_some]
          rw [List.filter_eq_self.mpr fun other kept => by simpa using fresh other (stored other kept),
            List.filter_eq_self.mpr fun other kept => by
              simp [Call.retains, Ne.symm (fresh other (added_of_retained calls other kept))]]
          exact (before.cons event).trans (List.perm_append_singleton _ _).symm
      | cleanupOldEvents retentionHours now =>
          simpa [step, cleanupOldEvents, EventMap.retain, Call.retains, Call.added] using
            before.filter _

/-- The sum of the time differences recorded under a pattern key. -/
def timeDiffTotal (patterns : String → Option TemporalPattern) (key : String) : Int :=
  ((patterns key).map fun pattern => pattern.timeDiffs.sum).getD 0

theorem time_diff_total_scan_entry (event : AnalyticsEvent)
    (patterns : String → Option TemporalPattern) (other : AnalyticsEvent) (key : String) :
    timeDiffTotal (scanEntry event patterns other) key = timeDiffTotal patterns key +
      if Matches event other ∧ patternKey event other = key then timeDiff event other else 0 := by
  unfold timeDiffTotal
  rw [scan_entry_apply]
  split_ifs
  · cases patterns key <;> simp [TemporalPattern.addOccurrence, TemporalPattern.new, List.sum_append]
  · simp

theorem time_diff_total_scan (event : AnalyticsEvent) (others : List AnalyticsEvent)
    (patterns : String → Option TemporalPattern) (key : String) :
    timeDiffTotal (others.foldl (scanEntry event) patterns) key = timeDiffTotal patterns key +
      ((others.filter fun other => decide (Matches event other ∧ patternKey event other = key)).map
        (timeDiff event)).sum := by
  induction others generalizing patterns with
  | nil => simp
  | cons other rest ih =>
      rw [List.foldl_cons, ih, time_diff_total_scan_entry, List.filter_cons]
      simp only [decide_eq_true_eq]
      split_ifs <;> simp [add_assoc]

theorem scan_occurrences_nonempty (event : AnalyticsEvent) (others : List AnalyticsEvent)
    (patterns : String → Option TemporalPattern)
    (nonempty : ∀ key pattern, patterns key = some pattern → pattern.occurrences ≠ [])
    (key : String) (pattern : TemporalPattern)
    (found : others.foldl (scanEntry event) patterns key = some pattern) :
    pattern.occurrences ≠ [] := by
  induction others generalizing patterns with
  | nil => exact nonempty key pattern found
  | cons other rest ih =>
      refine ih _ (fun key pattern found => ?_) found
      rw [scan_entry_apply] at found
      split_ifs at found
      · cases found
        simp [TemporalPattern.addOccurrence]
      · exact nonempty key pattern found

/-- The two events of a pair were added by different calls, so their ids differ. -/
theorem pair_ids_ne (calls : List Call)
    (distinct : ((calls.filterMap Call.added).map fun event => event.common.eventId).Nodup)
    (pair : AnalyticsEvent × AnalyticsEvent) (paired : pair ∈ pairsAt calls) :
    pair.2.common.eventId ≠ pair.1.common.eventId := by
  induction calls using List.reverseRecOn with
  | nil => simp [pairsAt] at paired
  | append_singleton calls call ih =>
      rw [pairs_at_concat, List.mem_append] at paired
      rcases paired with earlier | later
      · exact ih (distinct_of_concat calls call distinct) earlier
      · cases call with
        | addEvent event =>
            obtain ⟨other, kept, rfl⟩ := List.mem_map.mp later
            exact fresh_of_distinct calls event distinct other (added_of_retained calls other kept)
        | cleanupOldEvents => simp at later

/-- What add_event scans: the stored events, which are the new one and the kept ones. -/
theorem scanned_perm (sharding : Sharding) (calls : List Call) (event : AnalyticsEvent)
    (distinct : (((calls ++ [Call.addEvent event]).filterMap Call.added).map
      fun added => added.common.eventId).Nodup) :
    ((((new sharding).run calls).events.insert event).iter ((new sharding).run calls).sharding).Perm
      (event :: retainedAt calls) := by
  have stored := (indexed_run sharding calls).2
  refine (EventMap.iter_perm _ _).trans ?_
  change (event :: List.filter _ _).Perm _
  rw [List.filter_eq_self.mpr fun other kept => by
    simpa using fresh_of_distinct calls event distinct other (stored other kept)]
  exact (stored_perm sharding calls (distinct_of_concat calls _ distinct)).cons event

theorem not_matches_self (event : AnalyticsEvent) : ¬ Matches event event := fun matched =>
  matched.1 rfl

/-- The patterns against the pairs of the run: each key's occurrences are its pairs inside the
window, with their time differences, and a key has a pattern only once it has an occurrence. -/
def Accounted (c : CorrelationEngine) (calls : List Call) : Prop :=
  ∀ key, occurrenceCount c.patterns key = (pairsAt calls).countP
      (fun pair => decide (Matches pair.1 pair.2 ∧ patternKey pair.1 pair.2 = key)) ∧
    timeDiffTotal c.patterns key = (((pairsAt calls).filter fun pair =>
      decide (Matches pair.1 pair.2 ∧ patternKey pair.1 pair.2 = key)).map
        fun pair => timeDiff pair.1 pair.2).sum ∧
    ∀ pattern, c.patterns key = some pattern → pattern.occurrences ≠ []

theorem accounted_run (sharding : Sharding) (calls : List Call)
    (distinct : ((calls.filterMap Call.added).map fun event => event.common.eventId).Nodup) :
    Accounted ((new sharding).run calls) calls := by
  induction calls using List.reverseRecOn with
  | nil => intro key; simp [new, occurrenceCount, timeDiffTotal, pairsAt]
  | append_singleton calls call ih =>
      have before := ih (distinct_of_concat calls call distinct)
      intro key
      obtain ⟨count, total, nonempty⟩ := before key
      rw [run_concat, pairs_at_concat]
      cases call with
      | addEvent event =>
          have scanned := scanned_perm sharding calls event distinct
          simp only [step, addEvent, findTemporalCorrelations, track_correlation_events,
            track_correlation_sharding, track_correlation_patterns, store_event_events,
            store_event_sharding, store_event_patterns]
          refine ⟨?_, ?_, scan_occurrences_nonempty _ _ _ (fun key => (before key).2.2) key⟩
          · rw [occurrence_count_scan, count, scanned.countP_eq, List.countP_append, List.countP_map,
              List.countP_cons]
            simp [Function.comp_def, not_matches_self]
          · rw [time_diff_total_scan, total, ((scanned.filter _).map _).sum_eq, List.filter_append,
              List.map_append, List.sum_append, List.filter_map, List.map_map]
            simp [Function.comp_def, not_matches_self]
      | cleanupOldEvents retentionHours now =>
          simpa [step, cleanupOldEvents] using And.intro count (And.intro total nonempty)

theorem debug_name_no_colon (source : SourceModule) : ':' ∉ source.debugName.data := by
  cases source <;> decide

theorem debug_name_injective : Function.Injective SourceModule.debugName := by
  intro first second same
  cases first <;> cases second <;> first | rfl | exact absurd same (by decide)

theorem append_colon_inj (first second first' second' : List Char) (plain : ':' ∉ first)
    (plain' : ':' ∉ first') (same : first ++ ':' :: second = first' ++ ':' :: second') :
    first = first' ∧ second = second' := by
  induction first generalizing first' with
  | nil =>
      cases first' with
      | nil => simpa using same
      | cons head rest =>
          simp only [List.nil_append, List.cons_append, List.cons.injEq] at same
          exact absurd (same.1 ▸ List.mem_cons_self _ _) plain'
  | cons head rest ih =>
      cases first' with
      | nil =>
          simp only [List.nil_append, List.cons_append, List.cons.injEq] at same
          exact absurd (same.1.symm ▸ List.mem_cons_self _ _) plain
      | cons head' rest' =>
          simp only [List.cons_append, List.cons.injEq] at same
          obtain ⟨tail, rest⟩ := ih rest' (fun inside => plain (.tail _ inside))
            (fun inside => plain' (.tail _ inside)) same.2
          exact ⟨by rw [same.1, tail], rest⟩

/-- A pattern key names its two source modules: their debug names hold no colon. -/
theorem pattern_key_eq_iff (event other : AnalyticsEvent) (source target : SourceModule) :
    patternKey event other = source.debugName ++ ":" ++ target.debugName ↔
      event.common.sourceModule = source ∧ other.common.sourceModule = target := by
  constructor
  · intro same
    have lists := congrArg String.data same
    simp only [patternKey, String.data_append, show ":".data = [':'] from rfl, List.append_assoc,
      List.singleton_append] at lists
    obtain ⟨first, second⟩ := append_colon_inj _ _ _ _ (debug_name_no_colon _)
      (debug_name_no_colon _) lists
    exact ⟨debug_name_injective (String.ext first), debug_name_injective (String.ext second)⟩
  · rintro ⟨rfl, rfl⟩
    rfl

theorem window_seconds : Duration.numSeconds correlationWindow = 300 := by decide

/-- Temporal-pattern accounting over a sequential run of add_event calls on events with
distinct ids, with cleanups anywhere: the analysis of a pair of modules reports exactly the
run's pairs between them whose whole-second gap is at most 300, and their average gap. -/
theorem module_correlation_accounting (sharding : Sharding) (calls : List Call)
    (distinct : ((calls.filterMap Call.added).map fun event => event.common.eventId).Nodup)
    (source target : SourceModule) :
    ((new sharding).run calls).analyzeModuleCorrelation source.debugName target.debugName =
      if modulePairs calls source target = [] then none
      else some ⟨source.debugName, target.debugName, (modulePairs calls source target).length,
        ((modulePairs calls source target).map fun pair => timeDiff pair.1 pair.2).sum.tdiv
          (modulePairs calls source target).length,
        calculateConfidence (modulePairs calls source target).length⟩ := by
  obtain ⟨count, total, nonempty⟩ :=
    accounted_run sharding calls distinct (source.debugName ++ ":" ++ target.debugName)
  have same : ((pairsAt calls).filter fun pair => decide (Matches pair.1 pair.2 ∧
      patternKey pair.1 pair.2 = source.debugName ++ ":" ++ target.debugName)) =
      modulePairs calls source target := by
    apply List.filter_congr
    intro pair paired
    simp only [Matches, pattern_key_eq_iff, window_seconds, pair_ids_ne calls distinct pair paired,
      ne_eq, not_false_eq_true, true_and, decide_eq_decide]
    tauto
  rw [List.countP_eq_length_filter, same] at count
  rw [same] at total
  unfold analyzeModuleCorrelation
  cases found : ((new sharding).run calls).patterns (source.debugName ++ ":" ++ target.debugName) with
  | none =>
      have empty : modulePairs calls source target = [] := by
        simpa [occurrenceCount, found] using count.symm
      simp [empty, found]
  | some pattern =>
      have occurrences := nonempty pattern found
      simp only [occurrenceCount, found, Option.map_some', Option.getD_some] at count
      simp only [timeDiffTotal, found, Option.map_some', Option.getD_some] at total
      have present : modulePairs calls source target ≠ [] := by
        rw [← List.length_pos, ← count]
        exact List.length_pos.mpr occurrences
      simp only [found, Option.map_some']
      rw [if_neg present, ← count, ← total, if_pos (List.length_pos.mpr occurrences)]

theorem module_correlation_two_modules :
    let early : AnalyticsEvent := ⟨⟨1, 0, .llmObservatory, .telemetry, none, none, .info⟩⟩
    let late : AnalyticsEvent := ⟨⟨2, Duration.minutes 4, .llmSentinel, .security, none, none, .warning⟩⟩
    let calls := [Call.addEvent early, .cleanupOldEvents 1 (Duration.minutes 4), .addEvent late]
    ((calls.filterMap Call.added).map fun event => event.common.eventId).Nodup ∧
    ((new ⟨1, fun _ => 0, fun _ => Nat.one_pos⟩).run calls).analyzeModuleCorrelation
        SourceModule.llmSentinel.debugName SourceModule.llmObservatory.debugName =
      if modulePairs calls .llmSentinel .llmObservatory = [] then none
      else some ⟨SourceModule.llmSentinel.debugName, SourceModule.llmObservatory.debugName,
        (modulePairs calls .llmSentinel .llmObservatory).length,
        ((modulePairs calls .llmSentinel .llmObservatory).map fun pair => timeDiff pair.1 pair.2).sum.tdiv
          (modulePairs calls .llmSentinel .llmObservatory).length,
        calculateConfidence (modulePairs calls .llmSentinel .llmObservatory).length⟩ := by
  intro early late calls
  have distinct : ((calls.filterMap Call.added).map fun event => event.common.eventId).Nodup := by
    decide
  exact ⟨distinct, module_correlation_accounting _ calls distinct .llmSentinel .llmObservatory⟩

/-- Two events 300.5 seconds apart, more than five minutes: num_seconds truncates the gap to
300, and the pair is counted. -/
theorem module_correlation_half_second_over :
    let early : AnalyticsEvent := ⟨⟨1, 0, .llmObservatory, .telemetry, none, none, .info⟩⟩
    let late : AnalyticsEvent :=
      ⟨⟨2, 300500000000, .llmSentinel, .security, none, none, .warning⟩⟩
    let calls := [Call.addEvent early, .addEvent late]
    pairsAt calls = [(late, early)] ∧
    Duration.minutes 5 < late.common.timestamp - early.common.timestamp ∧
    (((new ⟨1, fun _ => 0, fun _ => Nat.one_pos⟩).run calls).analyzeModuleCorrelation
      "LlmSentinel" "LlmObservatory").map CorrelationAnalysis.correlationCount = some 1 := by
  decide

end CorrelationEngine

end AnalyticsHub.Analytics
