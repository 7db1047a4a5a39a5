import AnalyticsHub.Analytics.PatternAccounting

set_option autoImplicit false

/- get_stats of the correlation engine after a sequential run, against what the run did. The
   events stored and the counts cleanup_old_events returned add up to the events added; a
   correlation id is a key of the correlations map once an added event carried it, whatever
   was cleaned up since; a pattern key is a key once the run made a pair inside the window
   between its two modules. The correlations and patterns DashMaps are functions here, so the
   keys len() counts are given as the list of them. Last, what an event delivered twice does:
   the maps it fills are unchanged, but its pairs are counted again. -/
namespace AnalyticsHub.Analytics

open AnalyticsHub.Schemas

structure CorrelationStats where
  totalCorrelations : Nat
  totalEvents : Nat
  totalPatterns : Nat
deriving DecidableEq, Repr

namespace EventMap

theorem ext_entries {first second : EventMap} (same : first.entries = second.entries) :
    first = second := by
  cases first
  cases second
  simp only at same
  subst same
  rfl

theorem insert_insert (events : EventMap) (event : AnalyticsEvent) :
    (events.insert event).insert event = events.insert event :=
  ext_entries (by simp [insert, List.filter_filter])

end EventMap

namespace CorrelationEngine

def getStats (c : CorrelationEngine) (correlationKeys : List Nat) (patternKeys : List String) :
    CorrelationStats :=
  ⟨correlationKeys.length, c.events.entries.length, patternKeys.length⟩

-- What a call returns: cleanup_old_events the number of events it removed, add_event ().
def stepReply (c : CorrelationEngine) : Call → Option Nat
  | .addEvent _ => none
  | .cleanupOldEvents retentionHours now => some (c.cleanupOldEvents retentionHours now).2

def replies (c : CorrelationEngine) : List Call → List (Option Nat)
  | [] => []
  | call :: calls => c.stepReply call :: (c.step call).replies calls

theorem replies_concat (c : CorrelationEngine) (calls : List Call) (call : Call) :
    c.replies (calls ++ [call]) = c.replies calls ++ [(c.run calls).stepReply call] := by
  induction calls generalizing c with
  | nil => rfl
  | cons first calls ih => simp [replies, ih]

/-- The correlation ids the added events carry. -/
def correlationIds (calls : List Call) : List Nat :=
  (calls.filterMap Call.added).filterMap fun event => event.common.correlationId

/-- The pattern keys of the run's pairs inside the window. -/
def pairKeys (calls : List Call) : List String :=
  ((pairsAt calls).filter fun pair => decide (Matches pair.1 pair.2)).map
    fun pair => patternKey pair.1 pair.2

/-- With distinct ids, every event added is stored or counted by exactly one cleanup. -/
theorem stored_add_removed (sharding : Sharding) (calls : List Call)
    (distinct : ((calls.filterMap Call.added).map fun event => event.common.eventId).Nodup) :
    ((new sharding).run calls).events.entries.length + (((new sharding).replies calls).filterMap id).sum =
      (calls.filterMap Call.added).length := by
  induction calls using List.reverseRecOn with
  | nil => rfl
  | append_singleton calls call ih =>
      have before := ih (distinct_of_concat calls call distinct)
      rw [run_concat, replies_concat, List.filterMap_append, List.filterMap_append, List.sum_append,
        List.length_append]
      cases call with
      | addEvent event =>
          have fresh := fresh_of_distinct calls event distinct
          have stored := (indexed_run sharding calls).2
          simp only [step, addEvent, find_temporal_correlations_events, track_correlation_events,
            store_event_events, EventMap.insert]
          rw [List.filter_eq_self.mpr fun other kept => by simpa using fresh other (stored other kept)]
          simp [stepReply, Call.added]
          omega
      | cleanupOldEvents retentionHours now =>
          have kept := List.length_eq_countP_add_countP (fun event : AnalyticsEvent =>
            decide (event.common.timestamp > now - Duration.hours retentionHours))
            ((new sharding).run calls).events.entries
          simp only [decide_not, Bool.decide_eq_true] at kept
          simp only [step, cleanupOldEvents, EventMap.retain, stepReply, Call.added,
            List.filterMap_cons_none, List.filterMap_nil, List.length_nil, ← List.countP_eq_length_filter]
          simp only [List.filterMap_cons, id_eq, List.filterMap_nil, List.sum_singleton]
          omega

theorem track_correlation_is_some (c : CorrelationEngine) (event : AnalyticsEvent)
    (correlationId : Nat) :
    ((c.trackCorrelation event).correlations correlationId).isSome ↔
      (c.correlations correlationId).isSome ∨ event.common.correlationId = some correlationId := by
  unfold trackCorrelation
  split
  · rename_i tracked carried
    by_cases same : correlationId = tracked
    · subst same
      simp [carried]
    · simp [Function.update_noteq same, carried, Ne.symm same]
  · rename_i untracked
    simp [untracked]

/-- Cleanups never remove a correlation: an id is a key once an added event carried it. -/
theorem correlations_is_some_run (sharding : Sharding) (calls : List Call) (correlationId : Nat) :
    (((new sharding).run calls).correlations correlationId).isSome ↔
      correlationId ∈ correlationIds calls := by
  induction calls using List.reverseRecOn with
  | nil => simp [new, correlationIds]
  | append_singleton calls call ih =>
      rw [run_concat, correlationIds, List.filterMap_append, List.filterMap_append, List.mem_append,
        ← correlationIds, ← ih]
      cases call with
      | addEvent event =>
          simp only [step, addEvent, find_temporal_correlations_correlations,
            track_correlation_is_some, store_event_correlations, Call.added, List.filterMap_cons,
            List.filterMap_nil]
          cases event.common.correlationId with
          | none => simp
          | some carried =>
              simp only [Option.some.injEq, List.mem_singleton]
              exact or_congr_right eq_comm
      | cleanupOldEvents retentionHours now => simp [step, cleanupOldEvents, Call.added]

/-- With distinct ids, a key has a pattern once the run made a pair inside the window for it. -/
theorem patterns_is_some_run (sharding : Sharding) (calls : List Call)
    (distinct : ((calls.filterMap Call.added).map fun event => event.common.eventId).Nodup)
    (key : String) :
    (((new sharding).run calls).patterns key).isSome ↔ key ∈ pairKeys calls := by
  obtain ⟨count, -, nonempty⟩ := accounted_run sharding calls distinct key
  have paired : key ∈ pairKeys calls ↔ 0 < (pairsAt calls).countP
      (fun pair => decide (Matches pair.1 pair.2 ∧ patternKey pair.1 pair.2 = key)) := by
    simp only [pairKeys, List.mem_map, List.mem_filter, List.countP_pos_iff, decide_eq_true_eq,
      Prod.exists, and_assoc]
  rw [paired, ← count]
  cases found : ((new sharding).run calls).patterns key with
  | none => simp [occurrenceCount, found]
  | some pattern =>
      simpa [occurrenceCount, found, List.length_pos] using nonempty pattern found

theorem length_of_keys {α : Type} [DecidableEq α] (keys known : List α) (distinct : keys.Nodup)
    (keyed : ∀ key, key ∈ keys ↔ key ∈ known) : keys.length = known.dedup.length :=
  ((List.perm_ext_iff_of_nodup distinct (List.nodup_dedup known)).mpr fun key => by
    rw [keyed, List.mem_dedup]).length_eq

/-- get_stats after a sequential run of add_event calls on events with distinct ids, with
cleanups anywhere, given the keys of the two maps it counts: total_events and the counts the
cleanups returned add up to the events added, total_correlations is the number of distinct
correlation ids the added events carried, and total_patterns the number of distinct module
pairs the run correlated inside the window. -/
theorem get_stats_accounting (sharding : Sharding) (calls : List Call)
    (distinct : ((calls.filterMap Call.added).map fun event => event.common.eventId).Nodup)
    (correlationKeys : List Nat) (patternKeys : List String)
    (correlationsDistinct : correlationKeys.Nodup)
    (correlationsKeyed : ∀ correlationId, correlationId ∈ correlationKeys ↔
      (((new sharding).run calls).correlations correlationId).isSome)
    (patternsDistinct : patternKeys.Nodup)
    (patternsKeyed : ∀ key, key ∈ patternKeys ↔ (((new sharding).run calls).patterns key).isSome) :
    (((new sharding).run calls).getStats correlationKeys patternKeys).totalEvents +
        (((new sharding).replies calls).filterMap id).sum = (calls.filterMap Call.added).length ∧
      (((new sharding).run calls).getStats correlationKeys patternKeys).totalCorrelations =
        (correlationIds calls).dedup.length ∧
      (((new sharding).run calls).getStats correlationKeys patternKeys).totalPatterns =
        (pairKeys calls).dedup.length :=
  ⟨stored_add_removed sharding calls distinct,
    length_of_keys _ _ correlationsDistinct fun correlationId => by
      rw [correlationsKeyed, correlations_is_some_run],
    length_of_keys _ _ patternsDistinct fun key => by
      rw [patternsKeyed, patterns_is_some_run sharding calls distinct]⟩

/-- Two events of one correlation four minutes apart, then a cleanup that removes the first:
one stored, one removed, one correlation id, one module pair. -/
theorem get_stats_accounting_cleanup :
    let early : AnalyticsEvent := ⟨⟨1, 0, .llmObservatory, .telemetry, some 7, none, .info⟩⟩
    let late : AnalyticsEvent :=
      ⟨⟨2, Duration.minutes 4, .llmSentinel, .security, some 7, none, .warning⟩⟩
    let calls := [Call.addEvent early, .addEvent late, .cleanupOldEvents 0 (Duration.minutes 2)]
    let sharding : Sharding := ⟨1, fun _ => 0, fun _ => Nat.one_pos⟩
    ((calls.filterMap Call.added).map fun event => event.common.eventId).Nodup ∧ [7].Nodup ∧
      (∀ correlationId, correlationId ∈ [7] ↔
        (((new sharding).run calls).correlations correlationId).isSome) ∧
      ["LlmSentinel:LlmObservatory"].Nodup ∧
      (∀ key, key ∈ ["LlmSentinel:LlmObservatory"] ↔ (((new sharding).run calls).patterns key).isSome) ∧
      ((((new sharding).run calls).getStats [7] ["LlmSentinel:LlmObservatory"]).totalEvents +
          (((new sharding).replies calls).filterMap id).sum = (calls.filterMap Call.added).length ∧
        (((new sharding).run calls).getStats [7] ["LlmSentinel:LlmObservatory"]).totalCorrelations =
          (correlationIds calls).dedup.length ∧
        (((new sharding).run calls).getStats [7] ["LlmSentinel:LlmObservatory"]).totalPatterns =
          (pairKeys calls).dedup.length) := by
  intro early late calls sharding
  have distinct : ((calls.filterMap Call.added).map fun event => event.common.eventId).Nodup := by
    decide
  have correlationsKeyed : ∀ correlationId, correlationId ∈ [7] ↔
      (((new sharding).run calls).correlations correlationId).isSome := fun correlationId => by
    rw [correlations_is_some_run]
    simp [correlationIds, calls, early, late, Call.added]
  have patternsKeyed : ∀ key, key ∈ ["LlmSentinel:LlmObservatory"] ↔
      (((new sharding).run calls).patterns key).isSome := fun key => by
    rw [patterns_is_some_run sharding calls distinct,
      show pairKeys calls = ["LlmSentinel:LlmObservatory"] by decide]
  exact ⟨distinct, by decide, correlationsKeyed, by decide, patternsKeyed,
    get_stats_accounting sharding calls distinct _ _ (by decide) correlationsKeyed (by decide)
      patternsKeyed⟩

theorem track_correlation_again (c c' : CorrelationEngine) (event : AnalyticsEvent)
    (tracked : c'.correlations = (c.trackCorrelation event).correlations) :
    (c'.trackCorrelation event).correlations = c'.correlations := by
  cases carried : event.common.correlationId with
  | none => simp [trackCorrelation, carried]
  | some correlationId =>
      simp [trackCorrelation, carried, tracked, Function.update_idem, Finset.insert_idem]

theorem add_event_patterns (c : CorrelationEngine) (event : AnalyticsEvent) :
    (c.addEvent event).patterns = ((c.events.insert event).iter c.sharding).foldl (scanEntry event) c.patterns := by
  simp [addEvent, findTemporalCorrelations]

/-- At-least-once delivery: an event delivered a second time leaves the stored events and every
correlation set as they were, but its scan runs again over the same stored events, so each
pattern gains again exactly the occurrences the first delivery gave it. -/
theorem add_event_redelivered (c : CorrelationEngine) (event : AnalyticsEvent) :
    ((c.addEvent event).addEvent event).events = (c.addEvent event).events ∧
      ((c.addEvent event).addEvent event).correlations = (c.addEvent event).correlations ∧
      ∀ key, occurrenceCount ((c.addEvent event).addEvent event).patterns key +
          occurrenceCount c.patterns key = 2 * occurrenceCount (c.addEvent event).patterns key := by
  have events : ∀ c : CorrelationEngine, (c.addEvent event).events = c.events.insert event := by
    simp [addEvent]
  have sharding : (c.addEvent event).sharding = c.sharding := by simp [addEvent, findTemporalCorrelations]
  refine ⟨by rw [events, events, EventMap.insert_insert], ?_, fun key => ?_⟩
  · simp only [addEvent, find_temporal_correlations_correlations]
    exact track_correlation_again (c.storeEvent event) _ event (by simp [addEvent])
  · rw [add_event_patterns (c.addEvent event), events, EventMap.insert_insert, sharding,
      add_event_patterns, occurrence_count_scan, occurrence_count_scan]
    omega

end CorrelationEngine

end AnalyticsHub.Analytics
