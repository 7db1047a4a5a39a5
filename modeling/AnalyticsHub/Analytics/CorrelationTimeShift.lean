import AnalyticsHub.Analytics.CorrelationStats
import AnalyticsHub.Analytics.CorrelationGraph

set_option autoImplicit false

/- The correlation engine fed a run of calls with every event's timestamp and every clock
   reading moved by d. The engine compares times only with each other: the window test takes
   the difference of two timestamps, and cleanup compares a timestamp with a cutoff taken from
   the clock. So the moved run stores the moved events, keeps the same correlations and pattern
   counts, removes as many events at each cleanup, and every query answers as before with its
   times moved by d. -/
namespace AnalyticsHub.Schemas

/-- The event with its timestamp moved by d. -/
def AnalyticsEvent.delay (d : Int) (event : AnalyticsEvent) : AnalyticsEvent :=
  ⟨{ event.common with timestamp := event.common.timestamp + d }⟩

@[simp] theorem AnalyticsEvent.delay_common (d : Int) (event : AnalyticsEvent) :
    (event.delay d).common = { event.common with timestamp := event.common.timestamp + d } := rfl

end AnalyticsHub.Schemas

namespace AnalyticsHub.Analytics

open AnalyticsHub.Schemas

namespace EventMap

def delay (d : Int) (events : EventMap) : EventMap :=
  ⟨events.entries.map (AnalyticsEvent.delay d), by simpa [Function.comp_def] using events.nodup⟩

variable (d : Int) (events : EventMap)

@[simp] theorem delay_entries : (events.delay d).entries = events.entries.map (AnalyticsEvent.delay d) :=
  rfl

theorem insert_delay (event : AnalyticsEvent) :
    (events.delay d).insert (event.delay d) = (events.insert event).delay d :=
  ext_entries (by simp [insert, List.filter_map, Function.comp_def])

theorem shard_delay (sharding : Sharding) (index : Nat) :
    (events.delay d).shard sharding index = (events.shard sharding index).map (AnalyticsEvent.delay d) := by
  simp [shard, List.filter_map, Function.comp_def]

theorem iter_delay (sharding : Sharding) :
    (events.delay d).iter sharding = (events.iter sharding).map (AnalyticsEvent.delay d) := by
  simp only [iter, List.map_flatMap]
  exact congrArg _ (funext (shard_delay d events sharding))

end EventMap

namespace TemporalPattern

/-- The pattern with every occurrence moved by d; the time differences stay. -/
def delay (d : Int) (pattern : TemporalPattern) : TemporalPattern :=
  ⟨pattern.occurrences.map (· + d), pattern.timeDiffs⟩

theorem add_occurrence_delay (d : Int) (pattern : TemporalPattern) (timestamp : DateTime)
    (timeDiff : Int) :
    (pattern.delay d).addOccurrence (timestamp + d) timeDiff = (pattern.addOccurrence timestamp timeDiff).delay d := by
  simp [delay, addOccurrence]

end TemporalPattern

/-- The node with its timestamp moved by d. -/
def EventNode.delay (d : Int) (node : EventNode) : EventNode :=
  { node with timestamp := node.timestamp + d }

/-- The graph with its creation time and every node's timestamp moved by d. -/
def EventGraph.delay (d : Int) (graph : EventGraph) : EventGraph :=
  ⟨⟨graph.correlationId.id, graph.correlationId.createdAt + d⟩, graph.nodes.map (EventNode.delay d),
    graph.edges⟩

namespace CorrelationEngine

/-- The engine with every time it holds moved by d. -/
def delay (d : Int) (c : CorrelationEngine) : CorrelationEngine :=
  ⟨c.sharding, c.correlations, c.events.delay d, Option.map (TemporalPattern.delay d) ∘ c.patterns⟩

/-- The call with its event's timestamp or its clock reading moved by d. -/
def Call.delay (d : Int) : Call → Call
  | .addEvent event => .addEvent (event.delay d)
  | .cleanupOldEvents retentionHours now => .cleanupOldEvents retentionHours (now + d)

variable (d : Int) (c : CorrelationEngine) (event : AnalyticsEvent)

theorem time_diff_delay (other : AnalyticsEvent) :
    timeDiff (event.delay d) (other.delay d) = timeDiff event other := by
  simp [timeDiff]

theorem scan_entry_delay (patterns : String → Option TemporalPattern) (other : AnalyticsEvent) :
    scanEntry (event.delay d) (Option.map (TemporalPattern.delay d) ∘ patterns) (other.delay d) =
      Option.map (TemporalPattern.delay d) ∘ scanEntry event patterns other := by
  unfold scanEntry
  simp only [AnalyticsEvent.delay_common, time_diff_delay]
  split_ifs
  · rfl
  · have fresh : TemporalPattern.new.delay d = TemporalPattern.new := rfl
    have moved : patternKey (event.delay d) (other.delay d) = patternKey event other := rfl
    rw [moved, Function.comp_update, Function.comp_apply]
    cases patterns (patternKey event other) <;>
      simp [← TemporalPattern.add_occurrence_delay, fresh]
  · rfl

theorem scan_delay (others : List AnalyticsEvent) (patterns : String → Option TemporalPattern) :
    (others.map (AnalyticsEvent.delay d)).foldl (scanEntry (event.delay d))
        (Option.map (TemporalPattern.delay d) ∘ patterns) =
      Option.map (TemporalPattern.delay d) ∘ others.foldl (scanEntry event) patterns := by
  induction others generalizing patterns with
  | nil => rfl
  | cons other rest ih => simp only [List.map_cons, List.foldl_cons, scan_entry_delay, ih]

/-- add_event of a moved event on the moved engine gives the moved engine. -/
theorem add_event_delay : (c.delay d).addEvent (event.delay d) = (c.addEvent event).delay d := by
  have tracked : ((c.storeEvent event).trackCorrelation event).correlations =
      (((c.delay d).storeEvent (event.delay d)).trackCorrelation (event.delay d)).correlations := by
    simp only [trackCorrelation, AnalyticsEvent.delay_common, store_event_correlations]
    split <;> rfl
  simp only [addEvent, findTemporalCorrelations, delay, track_correlation_events,
    track_correlation_sharding, track_correlation_patterns, store_event_events, store_event_sharding,
    store_event_patterns, tracked, EventMap.insert_delay, EventMap.iter_delay, scan_delay]

theorem cleanup_old_events_delay (retentionHours : Int) (now : DateTime) :
    (c.delay d).cleanupOldEvents retentionHours (now + d) =
      ((c.cleanupOldEvents retentionHours now).1.delay d, (c.cleanupOldEvents retentionHours now).2) := by
  have keep : ∀ event : AnalyticsEvent,
      (event.common.timestamp + d > now + d - Duration.hours retentionHours) ↔
        event.common.timestamp > now - Duration.hours retentionHours := fun event => by
    rw [add_sub_right_comm, gt_iff_lt, gt_iff_lt, add_lt_add_iff_right]
  simp only [cleanupOldEvents, delay, EventMap.retain, EventMap.delay_entries, List.countP_map,
    Function.comp_def, AnalyticsEvent.delay_common, keep, Prod.mk.injEq, and_true]
  congr 1
  exact EventMap.ext_entries (by simp [List.filter_map, Function.comp_def, keep])

theorem step_delay (call : Call) : (c.delay d).step (call.delay d) = (c.step call).delay d := by
  cases call with
  | addEvent event => exact add_event_delay d c event
  | cleanupOldEvents retentionHours now =>
      exact congrArg Prod.fst (cleanup_old_events_delay d c retentionHours now)

theorem step_reply_delay (call : Call) : (c.delay d).stepReply (call.delay d) = c.stepReply call := by
  cases call with
  | addEvent event => rfl
  | cleanupOldEvents retentionHours now =>
      simp only [Call.delay, stepReply, cleanup_old_events_delay]

end CorrelationEngine

end AnalyticsHub.Analytics
