import AnalyticsHub.Analytics.Correlation

set_option autoImplicit false

/- build_correlation_graph over a sequential run of the correlation engine. The graph types
   are declared in models::correlation, outside these sources, and are modelled with the
   fields build_correlation_graph fills in; the graph's metadata (always an empty map) and
   each edge's latency (always None) are left out, and created_at is the call's clock
   reading. Nodes and edges are built from a lookup in hash order, so they are multisets. -/
namespace AnalyticsHub.Analytics

open AnalyticsHub.Schemas

/-- Modelled from the spec: the correlation types of models::correlation, of which
build_correlation_graph builds only causal edges. -/
inductive CorrelationType where
  | causal
deriving DecidableEq, Repr

structure CorrelationId where
  id : Nat
  createdAt : DateTime
deriving DecidableEq, Repr

structure EventNode where
  eventId : Nat
  timestamp : DateTime
  sourceModule : String
  eventType : String
  severity : String
deriving DecidableEq, Repr

structure EventEdge where
  fromEventId : Nat
  toEventId : Nat
  correlationType : CorrelationType
  confidence : ℚ
deriving DecidableEq, Repr

structure EventGraph where
  correlationId : CorrelationId
  nodes : Multiset EventNode
  edges : Multiset EventEdge

namespace CorrelationEngine

def eventNode (event : AnalyticsEvent) : EventNode :=
  ⟨event.common.eventId, event.common.timestamp, event.common.sourceModule.debugName,
    event.common.eventType.debugName, event.common.severity.debugName⟩

-- The edge the second loop of build_correlation_graph pushes for an event, if any.
def parentEdge (event : AnalyticsEvent) : Option EventEdge :=
  event.common.parentEventId.map fun parentId => ⟨parentId, event.common.eventId, .causal, 1⟩

def buildCorrelationGraph (c : CorrelationEngine) (correlationId : Nat) (now : DateTime) :
    Option EventGraph :=
  let events := c.getCorrelatedEvents correlationId
  if events = 0 then none
  else some ⟨⟨correlationId, now⟩, events.map eventNode, events.filterMap parentEdge⟩

theorem event_node_event_id (event : AnalyticsEvent) :
    (eventNode event).eventId = event.common.eventId := rfl

theorem parent_edge_eq_some (event : AnalyticsEvent) (edge : EventEdge) :
    parentEdge event = some edge ↔ edge.correlationType = .causal ∧ edge.confidence = 1 ∧
      event.common.eventId = edge.toEventId ∧ event.common.parentEventId = some edge.fromEventId := by
  rcases edge with ⟨fromEventId, toEventId, correlationType, confidence⟩
  cases parent : event.common.parentEventId with
  | none => simp [parentEdge, parent]
  | some parentId =>
      cases correlationType
      simp only [parentEdge, parent, Option.map_some', Option.some.injEq, EventEdge.mk.injEq]
      tauto

/-- Among events with distinct ids, at most one satisfies a test that fixes the id. -/
theorem count_p_of_fixed_id (events : List AnalyticsEvent)
    (nodup : (events.map fun event => event.common.eventId).Nodup) (eventId : Nat)
    (test : AnalyticsEvent → Bool) (fixed : ∀ event, test event = true → event.common.eventId = eventId) :
    events.countP test = if ∃ event ∈ events, test event = true then 1 else 0 := by
  induction events with
  | nil => simp
  | cons head rest ih =>
      rw [List.map_cons, List.nodup_cons] at nodup
      rw [List.countP_cons, ih nodup.2]
      by_cases passes : test head = true
      · have alone : ¬ ∃ event ∈ rest, test event = true := fun ⟨event, later, passesToo⟩ =>
          nodup.1 (List.mem_map.mpr ⟨event, later, (fixed event passesToo).trans (fixed head passes).symm⟩)
        simp [passes, alone]
      · simp [passes]

/-- The node ids of a graph built from events are the events' ids. -/
theorem mem_node_ids (events : List AnalyticsEvent) (eventId : Nat) :
    eventId ∈ ((events : Multiset AnalyticsEvent).map eventNode).map EventNode.eventId ↔
      ∃ event ∈ events, event.common.eventId = eventId := by
  simp [Function.comp_def, event_node_event_id]

/-- Among events with distinct ids, each parent edge is built once at most. -/
theorem count_parent_edges (events : List AnalyticsEvent)
    (nodup : (events.map fun event => event.common.eventId).Nodup) (edge : EventEdge) :
    ((events : Multiset AnalyticsEvent).filterMap parentEdge).count edge =
      if edge.correlationType = .causal ∧ edge.confidence = 1 ∧
        ∃ event ∈ events, event.common.eventId = edge.toEventId ∧
          event.common.parentEventId = some edge.fromEventId then 1 else 0 := by
  rw [Multiset.filterMap_coe, Multiset.coe_count, List.count_filterMap,
    count_p_of_fixed_id _ nodup edge.toEventId _ fun event found => by
      simp only [beq_iff_eq, parent_edge_eq_some] at found
      exact found.2.2.1]
  refine if_congr ?_ rfl rfl
  simp only [beq_iff_eq, parent_edge_eq_some]
  constructor
  · rintro ⟨event, stored, causal, one, same, parent⟩
    exact ⟨causal, one, event, stored, same, parent⟩
  · rintro ⟨causal, one, event, stored, same, parent⟩
    exact ⟨event, stored, causal, one, same, parent⟩

/-- The graph of a correlation, in a run whose re-deliveries of an id carry the same event:
one node per stored event whose id is in the correlation's set, with distinct ids, and one
causal edge of confidence 1 from p to e for each such event e whose parent id is p, whether or
not p is a node. Every edge ends at a node. -/
theorem correlation_graph_exact (sharding : Sharding) (calls : List Call)
    (consistent : ∀ first second, Call.addEvent first ∈ calls → Call.addEvent second ∈ calls →
      first.common.eventId = second.common.eventId → first = second)
    (correlationId : Nat) (now : DateTime) (g : EventGraph)
    (built : ((new sharding).run calls).buildCorrelationGraph correlationId now = some g) :
    (g.nodes.map EventNode.eventId).Nodup ∧
    (∀ eventId, eventId ∈ g.nodes.map EventNode.eventId ↔
      ∃ event ∈ ((new sharding).run calls).events.entries, event.common.eventId = eventId ∧
        eventId ∈ (((new sharding).run calls).correlations correlationId).getD ∅) ∧
    (∀ edge, g.edges.count edge =
      if edge.correlationType = .causal ∧ edge.confidence = 1 ∧
        ∃ event ∈ ((new sharding).run calls).events.entries, event.common.eventId = edge.toEventId ∧
          edge.toEventId ∈ (((new sharding).run calls).correlations correlationId).getD ∅ ∧
          event.common.parentEventId = some edge.fromEventId
      then 1 else 0) ∧
    ∀ edge ∈ g.edges, edge.toEventId ∈ g.nodes.map EventNode.eventId := by
  obtain ⟨members, added⟩ := indexed_run sharding calls
  have tagged : ∀ event ∈ ((new sharding).run calls).events.entries,
      event.common.eventId ∈ (((new sharding).run calls).correlations correlationId).getD ∅ ↔
        event.common.correlationId = some correlationId := fun event stored => by
    rw [members]
    exact ⟨fun ⟨other, addedOther, same, carries⟩ =>
      consistent other event addedOther (added event stored) same ▸ carries,
      fun carries => ⟨event, added event stored, rfl, carries⟩⟩
  have nodup : ((((new sharding).run calls).events.entries.filter fun event =>
      event.common.correlationId = some correlationId).map fun event => event.common.eventId).Nodup :=
    ((new sharding).run calls).events.nodup.sublist ((List.filter_sublist _).map _)
  simp only [buildCorrelationGraph, get_correlated_events_eq sharding calls consistent] at built
  split_ifs at built
  cases built
  refine ⟨?_, fun eventId => ?_, fun edge => ?_, fun edge present => ?_⟩
  · simpa only [Multiset.map_coe, Multiset.coe_nodup, List.map_map, Function.comp_def,
      event_node_event_id] using nodup
  · simp only [mem_node_ids, List.mem_filter, decide_eq_true_eq]
    constructor
    · rintro ⟨event, ⟨stored, carries⟩, rfl⟩
      exact ⟨event, stored, rfl, (tagged event stored).mpr carries⟩
    · rintro ⟨event, stored, rfl, member⟩
      exact ⟨event, ⟨stored, (tagged event stored).mp member⟩, rfl⟩
  · rw [count_parent_edges _ nodup]
    refine if_congr ?_ rfl rfl
    simp only [List.mem_filter, decide_eq_true_eq]
    constructor
    · rintro ⟨causal, one, event, ⟨stored, carries⟩, same, parent⟩
      exact ⟨causal, one, event, stored, same, same ▸ (tagged event stored).mpr carries, parent⟩
    · rintro ⟨causal, one, event, stored, same, member, parent⟩
      exact ⟨causal, one, event, ⟨stored, (tagged event stored).mp (same ▸ member)⟩, same, parent⟩
  · have counted := Multiset.count_pos.mpr present
    rw [count_parent_edges _ nodup] at counted
    split_ifs at counted with linked
    · obtain ⟨-, -, event, stored, same, -⟩ := linked
      exact (mem_node_ids _ _).mpr ⟨event, stored, same⟩
    · exact absurd counted (lt_irrefl 0)

theorem correlation_graph_parent_evicted :
    let parent : AnalyticsEvent := ⟨⟨1, 0, .llmObservatory, .telemetry, some 7, none, .info⟩⟩
    let child : AnalyticsEvent :=
      ⟨⟨2, Duration.hours 2, .llmSentinel, .security, some 7, some 1, .warning⟩⟩
    let calls := [Call.addEvent parent, .addEvent child, .cleanupOldEvents 1 (Duration.hours 2)]
    let sharding : Sharding := ⟨1, fun _ => 0, fun _ => Nat.one_pos⟩
    (∀ first second, Call.addEvent first ∈ calls → Call.addEvent second ∈ calls →
      first.common.eventId = second.common.eventId → first = second) ∧
    ∃ g, ((new sharding).run calls).buildCorrelationGraph 7 (Duration.hours 2) = some g ∧
    (g.nodes.map EventNode.eventId).Nodup ∧
    (∀ eventId, eventId ∈ g.nodes.map EventNode.eventId ↔
      ∃ event ∈ ((new sharding).run calls).events.entries, event.common.eventId = eventId ∧
        eventId ∈ (((new sharding).run calls).correlations 7).getD ∅) ∧
    (∀ edge, g.edges.count edge =
      if edge.correlationType = .causal ∧ edge.confidence = 1 ∧
        ∃ event ∈ ((new sharding).run calls).events.entries, event.common.eventId = edge.toEventId ∧
          edge.toEventId ∈ (((new sharding).run calls).correlations 7).getD ∅ ∧
          event.common.parentEventId = some edge.fromEventId
      then 1 else 0) ∧
    ∀ edge ∈ g.edges, edge.toEventId ∈ g.nodes.map EventNode.eventId := by
  intro parent child calls sharding
  have consistent : ∀ first second, Call.addEvent first ∈ calls → Call.addEvent second ∈ calls →
      first.common.eventId = second.common.eventId → first = second := by
    intro one two oneAdded twoAdded
    simp only [calls, List.mem_cons, Call.addEvent.injEq, List.mem_nil_iff, reduceCtorEq,
      false_or, or_false] at oneAdded twoAdded
    rcases oneAdded with rfl | rfl <;> rcases twoAdded with rfl | rfl <;> simp [parent, child]
  exact ⟨consistent, _, rfl,
    correlation_graph_exact sharding calls consistent 7 (Duration.hours 2) _ rfl⟩

/-- A child whose parent has been evicted by cleanup: the graph has an edge from the parent's
id, which is not a node. -/
theorem correlation_graph_dangling_edge :
    let parent : AnalyticsEvent := ⟨⟨1, 0, .llmObservatory, .telemetry, some 7, none, .info⟩⟩
    let child : AnalyticsEvent :=
      ⟨⟨2, Duration.hours 2, .llmSentinel, .security, some 7, some 1, .warning⟩⟩
    let calls := [Call.addEvent parent, .addEvent child, .cleanupOldEvents 1 (Duration.hours 2)]
    ∃ g, ((new ⟨1, fun _ => 0, fun _ => Nat.one_pos⟩).run calls).buildCorrelationGraph 7
        (Duration.hours 2) = some g ∧
      ∃ edge ∈ g.edges, edge.fromEventId ∉ g.nodes.map EventNode.eventId := by
  intro parent child calls
  exact ⟨_, rfl, ⟨1, 2, .causal, 1⟩, by decide, by decide⟩

end CorrelationEngine

end AnalyticsHub.Analytics
