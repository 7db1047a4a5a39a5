import AnalyticsHub.Schemas.Events
import Mathlib.Data.Finset.Basic
import Mathlib.Algebra.Order.Field.Rat

set_option autoImplicit false

/- The correlation engine run by one caller at a time. The `events` DashMap is a list with
   one entry per event id, read shard by shard through an unknown but fixed key-to-shard
   assignment; a correlation's HashSet is a Finset, and what is read out of one in hash
   order is returned as a Multiset, since that order is not determined by the code. -/
namespace AnalyticsHub.Analytics

open AnalyticsHub.Schemas

/-- A DashMap's shard count and key-to-shard hash, fixed when the map is created. -/
structure Sharding where
  numShards : Nat
  shardOf : Nat → Nat
  shardOf_lt : ∀ key, shardOf key < numShards

/-- The `events` DashMap: one entry per event id. -/
structure EventMap where
  entries : List AnalyticsEvent
  nodup : (entries.map fun event => event.common.eventId).Nodup

namespace EventMap

def empty : EventMap := ⟨[], List.nodup_nil⟩

def get (events : EventMap) (eventId : Nat) : Option AnalyticsEvent :=
  events.entries.find? fun event => event.common.eventId = eventId

theorem nodup_insert (entries : List AnalyticsEvent)
    (nodup : (entries.map fun event => event.common.eventId).Nodup) (event : AnalyticsEvent) :
    ((event :: entries.filter fun other => other.common.eventId ≠ event.common.eventId).map
      fun event => event.common.eventId).Nodup := by
  rw [List.map_cons, List.nodup_cons]
  exact ⟨by simp, nodup.sublist ((List.filter_sublist _).map _)⟩

-- DashMap::insert, which replaces the entry with the same key.
def insert (events : EventMap) (event : AnalyticsEvent) : EventMap :=
  ⟨event :: events.entries.filter (fun other => other.common.eventId ≠ event.common.eventId),
    nodup_insert events.entries events.nodup event⟩

def retain (events : EventMap) (keep : AnalyticsEvent → Bool) : EventMap :=
  ⟨events.entries.filter keep, events.nodup.sublist ((List.filter_sublist _).map _)⟩

def shard (events : EventMap) (sharding : Sharding) (index : Nat) : List AnalyticsEvent :=
  events.entries.filter fun event => sharding.shardOf event.common.eventId = index

-- DashMap::iter: the shards in order, each in its own order.
def iter (events : EventMap) (sharding : Sharding) : List AnalyticsEvent :=
  (List.range sharding.numShards).flatMap (events.shard sharding)

theorem find_eq_some_of_nodup (entries : List AnalyticsEvent)
    (nodup : (entries.map fun event => event.common.eventId).Nodup) (eventId : Nat)
    (event : AnalyticsEvent) :
    entries.find? (fun event => event.common.eventId = eventId) = some event ↔
      event ∈ entries ∧ event.common.eventId = eventId := by
  induction entries with
  | nil => simp
  | cons head rest ih =>
      rw [List.map_cons, List.nodup_cons] at nodup
      by_cases found : head.common.eventId = eventId
      · simp only [List.find?_cons, found, decide_True, Option.some.injEq, List.mem_cons]
        constructor
        · rintro rfl
          exact ⟨.inl rfl, found⟩
        · rintro ⟨rfl | later, same⟩
          · rfl
          · exact absurd (List.mem_map_of_mem _ later) (same.trans found.symm ▸ nodup.1)
      · simp only [List.find?_cons, found, decide_False, ih nodup.2, List.mem_cons]
        constructor
        · exact fun ⟨later, same⟩ => ⟨.inr later, same⟩
        · rintro ⟨rfl | later, same⟩
          · exact absurd same found
          · exact ⟨later, same⟩

theorem get_eq_some_iff (events : EventMap) (eventId : Nat) (event : AnalyticsEvent) :
    events.get eventId = some event ↔ event ∈ events.entries ∧ event.common.eventId = eventId :=
  find_eq_some_of_nodup events.entries events.nodup eventId event

@[simp] theorem mem_insert (events : EventMap) (event other : AnalyticsEvent) :
    other ∈ (events.insert event).entries ↔
      other = event ∨ (other ∈ events.entries ∧ other.common.eventId ≠ event.common.eventId) := by
  simp [insert]

@[simp] theorem mem_retain (events : EventMap) (keep : AnalyticsEvent → Bool) (event : AnalyticsEvent) :
    event ∈ (events.retain keep).entries ↔ event ∈ events.entries ∧ keep event = true := by
  simp [retain]

theorem entries_nodup (events : EventMap) : events.entries.Nodup :=
  List.Nodup.of_map _ events.nodup

/-- Reading the map shard by shard visits every stored event once. -/
theorem iter_perm (events : EventMap) (sharding : Sharding) :
    (events.iter sharding).Perm events.entries := by
  have disjoint : ∀ first ∈ List.range sharding.numShards, ∀ second ∈ List.range sharding.numShards,
      first ≠ second → (events.shard sharding first).Disjoint (events.shard sharding second) :=
    fun first _ second _ different event inFirst inSecond => by
      simp only [shard, List.mem_filter, decide_eq_true_eq] at inFirst inSecond
      exact different (inFirst.2.symm.trans inSecond.2)
  have nodup : (events.iter sharding).Nodup := List.nodup_flatMap.mpr
    ⟨fun index _ => (entries_nodup events).filter _, (List.nodup_range _).pairwise_of_forall_ne disjoint⟩
  rw [List.perm_ext_iff_of_nodup nodup (entries_nodup events)]
  intro event
  simp [iter, shard, sharding.shardOf_lt]

/-- Looking up every id of a set returns each stored event whose id is in the set once. -/
theorem count_filter_map_get (events : EventMap) (eventIds : Finset Nat) (event : AnalyticsEvent) :
    (eventIds.val.filterMap events.get).count event =
      if event.common.eventId ∈ eventIds ∧ event ∈ events.entries then 1 else 0 := by
  rcases eventIds with ⟨⟨ids⟩, nodup⟩
  have lookup : ∀ key, (events.get key == some event) = (key == event.common.eventId &&
      decide (event ∈ events.entries)) := by
    intro key
    rw [Bool.eq_iff_iff]
    simp only [beq_iff_eq, get_eq_some_iff, Bool.and_eq_true, decide_eq_true_eq]
    exact ⟨fun ⟨stored, same⟩ => ⟨same.symm, stored⟩, fun ⟨same, stored⟩ => ⟨stored, same.symm⟩⟩
  change Multiset.count event (Multiset.filterMap events.get (ids : Multiset Nat)) =
    if event.common.eventId ∈ (ids : Multiset Nat) ∧ event ∈ events.entries then 1 else 0
  simp only [Multiset.filterMap_coe, Multiset.coe_count, Multiset.mem_coe, List.count_filterMap]
  rw [List.countP_congr (fun key _ => by rw [lookup key])]
  by_cases stored : event ∈ events.entries
  · simp only [stored, decide_True, Bool.and_true, and_true]
    exact List.count_eq_of_nodup nodup
  · simp [stored]

end EventMap

structure TemporalPattern where
  occurrences : List DateTime
  timeDiffs : List Int
deriving DecidableEq, Repr

def TemporalPattern.new : TemporalPattern := ⟨[], []⟩

def TemporalPattern.addOccurrence (pattern : TemporalPattern) (timestamp : DateTime)
    (timeDiff : Int) : TemporalPattern :=
  ⟨pattern.occurrences ++ [timestamp], pattern.timeDiffs ++ [timeDiff]⟩

structure CorrelationAnalysis where
  module1 : String
  module2 : String
  correlationCount : Nat
  avgTimeDiffSeconds : Int
  confidence : ℚ
deriving DecidableEq, Repr

-- The configuration the engine is built with is never read, and is left out.
structure CorrelationEngine where
  sharding : Sharding
  correlations : Nat → Option (Finset Nat)
  events : EventMap
  patterns : String → Option TemporalPattern

namespace CorrelationEngine

def new (sharding : Sharding) : CorrelationEngine :=
  ⟨sharding, fun _ => none, EventMap.empty, fun _ => none⟩

-- The first part of add_event: store the event.
def storeEvent (c : CorrelationEngine) (event : AnalyticsEvent) : CorrelationEngine :=
  { c with events := c.events.insert event }

-- The second part of add_event: track its correlation, if present.
def trackCorrelation (c : CorrelationEngine) (event : AnalyticsEvent) : CorrelationEngine :=
  match event.common.correlationId with
  | some correlationId =>
      let eventIds := insert event.common.eventId ((c.correlations correlationId).getD ∅)
      { c with correlations := Function.update c.correlations correlationId (some eventIds) }
  | none => c

def correlationWindow : Int := Duration.minutes 5

def timeDiff (event other : AnalyticsEvent) : Int :=
  |Duration.numSeconds (event.common.timestamp - other.common.timestamp)|

def patternKey (event other : AnalyticsEvent) : String :=
  event.common.sourceModule.debugName ++ ":" ++ other.common.sourceModule.debugName

-- One pass of the loop of find_temporal_correlations, over the stored event `other`.
def scanEntry (event : AnalyticsEvent) (patterns : String → Option TemporalPattern)
    (other : AnalyticsEvent) : String → Option TemporalPattern :=
  if other.common.eventId = event.common.eventId then patterns
  else
    let timeDiff := timeDiff event other
    if timeDiff ≤ Duration.numSeconds correlationWindow then
      let patternKey := patternKey event other
      let pattern := ((patterns patternKey).getD TemporalPattern.new).addOccurrence
        event.common.timestamp timeDiff
      Function.update patterns patternKey (some pattern)
    else patterns

def findTemporalCorrelations (c : CorrelationEngine) (event : AnalyticsEvent) : CorrelationEngine :=
  { c with patterns := (c.events.iter c.sharding).foldl (scanEntry event) c.patterns }

def addEvent (c : CorrelationEngine) (event : AnalyticsEvent) : CorrelationEngine :=
  ((c.storeEvent event).trackCorrelation event).findTemporalCorrelations event

def getCorrelatedEvents (c : CorrelationEngine) (correlationId : Nat) : Multiset AnalyticsEvent :=
  match c.correlations correlationId with
  | some eventIds => eventIds.val.filterMap c.events.get
  | none => 0

def calculateConfidence (occurrenceCount : Nat) : ℚ :=
  let normalized := min ((occurrenceCount : ℚ) / 100) 1
  normalized * 0.9 + 0.1

def analyzeModuleCorrelation (c : CorrelationEngine) (module1 module2 : String) :
    Option CorrelationAnalysis :=
  let patternKey := module1 ++ ":" ++ module2
  (c.patterns patternKey).map fun pattern =>
    let count := pattern.occurrences.length
    let avgTimeDiff := if count > 0 then pattern.timeDiffs.sum.tdiv count else 0
    ⟨module1, module2, count, avgTimeDiff, calculateConfidence count⟩

def cleanupOldEvents (c : CorrelationEngine) (retentionHours : Int) (now : DateTime) :
    CorrelationEngine × Nat :=
  let cutoffTime := now - Duration.hours retentionHours
  let keep := fun event : AnalyticsEvent => decide (event.common.timestamp > cutoffTime)
  ({ c with events := c.events.retain keep }, c.events.entries.countP fun event => !keep event)

@[simp] theorem store_event_events (c : CorrelationEngine) (event : AnalyticsEvent) :
    (c.storeEvent event).events = c.events.insert event := rfl

@[simp] theorem store_event_sharding (c : CorrelationEngine) (event : AnalyticsEvent) :
    (c.storeEvent event).sharding = c.sharding := rfl

@[simp] theorem store_event_patterns (c : CorrelationEngine) (event : AnalyticsEvent) :
    (c.storeEvent event).patterns = c.patterns := rfl

@[simp] theorem store_event_correlations (c : CorrelationEngine) (event : AnalyticsEvent) :
    (c.storeEvent event).correlations = c.correlations := rfl

@[simp] theorem track_correlation_events (c : CorrelationEngine) (event : AnalyticsEvent) :
    (c.trackCorrelation event).events = c.events := by
  unfold trackCorrelation
  split <;> rfl

@[simp] theorem track_correlation_sharding (c : CorrelationEngine) (event : AnalyticsEvent) :
    (c.trackCorrelation event).sharding = c.sharding := by
  unfold trackCorrelation
  split <;> rfl

@[simp] theorem track_correlation_patterns (c : CorrelationEngine) (event : AnalyticsEvent) :
    (c.trackCorrelation event).patterns = c.patterns := by
  unfold trackCorrelation
  split <;> rfl

@[simp] theorem find_temporal_correlations_events (c : CorrelationEngine) (event : AnalyticsEvent) :
    (c.findTemporalCorrelations event).events = c.events := rfl

@[simp] theorem find_temporal_correlations_correlations (c : CorrelationEngine)
    (event : AnalyticsEvent) :
    (c.findTemporalCorrelations event).correlations = c.correlations := rfl

theorem mem_track_correlation (c : CorrelationEngine) (event : AnalyticsEvent)
    (correlationId eventId : Nat) :
    eventId ∈ ((c.trackCorrelation event).correlations correlationId).getD ∅ ↔
      eventId ∈ (c.correlations correlationId).getD ∅ ∨
        (event.common.eventId = eventId ∧ event.common.correlationId = some correlationId) := by
  unfold trackCorrelation
  split
  · rename_i tracked found
    by_cases same : correlationId = tracked
    · subst same
      simp [found, eq_comm, or_comm]
    · simp [found, Function.update_noteq same, Ne.symm same]
  · rename_i untracked
    simp [untracked]

-- The calls of a sequential run; cleanup_old_events reads the clock once, at `now`.
inductive Call where
  | addEvent (event : AnalyticsEvent)
  | cleanupOldEvents (retentionHours : Int) (now : DateTime)
deriving DecidableEq, Repr

def step (c : CorrelationEngine) : Call → CorrelationEngine
  | .addEvent event => c.addEvent event
  | .cleanupOldEvents retentionHours now => (c.cleanupOldEvents retentionHours now).1

def run (c : CorrelationEngine) (calls : List Call) : CorrelationEngine := calls.foldl step c

@[simp] theorem run_nil (c : CorrelationEngine) : c.run [] = c := rfl

@[simp] theorem run_cons (c : CorrelationEngine) (call : Call) (calls : List Call) :
    c.run (call :: calls) = (c.step call).run calls := rfl

@[simp] theorem run_concat (c : CorrelationEngine) (calls : List Call) (call : Call) :
    c.run (calls ++ [call]) = (c.run calls).step call := by
  simp [run]

/-- Whether a call leaves a stored `event` in the events map. -/
def Call.retains (event : AnalyticsEvent) : Call → Bool
  | .addEvent other => other.common.eventId ≠ event.common.eventId || other = event
  | .cleanupOldEvents retentionHours now =>
      decide (event.common.timestamp > now - Duration.hours retentionHours)

theorem mem_step_events (c : CorrelationEngine) (call : Call) (event : AnalyticsEvent) :
    event ∈ (c.step call).events.entries ↔
      call = .addEvent event ∨ (event ∈ c.events.entries ∧ call.retains event) := by
  cases call with
  | addEvent other =>
      by_cases same : other = event
      · subst same
        simp [step, addEvent, Call.retains]
      · simp [step, addEvent, Call.retains, same, Ne.symm same, ne_comm]
  | cleanupOldEvents retentionHours now =>
      simp [step, cleanupOldEvents, Call.retains]

/-- An event is stored after a run exactly when it was stored before and every call kept it,
or it was added by some call that every later call kept. -/
theorem mem_run_events (c : CorrelationEngine) (calls : List Call) (event : AnalyticsEvent) :
    event ∈ (c.run calls).events.entries ↔
      (event ∈ c.events.entries ∧ ∀ call ∈ calls, call.retains event) ∨
        ∃ pre post, calls = pre ++ .addEvent event :: post ∧ ∀ call ∈ post, call.retains event := by
  induction calls generalizing c with
  | nil => simp [run]
  | cons call rest ih =>
      rw [run_cons, ih, mem_step_events]
      simp only [List.mem_cons, forall_eq_or_imp, List.cons_eq_append_iff]
      constructor
      · rintro (⟨rfl | ⟨stored, kept⟩, later⟩ | ⟨pre, post, rfl, later⟩)
        · exact .inr ⟨[], rest, .inl ⟨rfl, rfl⟩, later⟩
        · exact .inl ⟨stored, kept, later⟩
        · exact .inr ⟨call :: pre, post, .inr ⟨pre, rfl, rfl⟩, later⟩
      · rintro (⟨stored, kept, later⟩ | ⟨pre, post, ⟨rfl, split⟩ | ⟨pre', rfl, split⟩, later⟩)
        · exact .inl ⟨.inr ⟨stored, kept⟩, later⟩
        · cases split
          exact .inl ⟨.inl rfl, later⟩
        · exact .inr ⟨pre', post, split, later⟩

/-- The correlation index against the calls made so far: a correlation's set holds exactly the
ids of the added events that carry it, and every stored event was added. -/
def Indexed (c : CorrelationEngine) (calls : List Call) : Prop :=
  (∀ correlationId eventId, eventId ∈ (c.correlations correlationId).getD ∅ ↔
    ∃ event, Call.addEvent event ∈ calls ∧ event.common.eventId = eventId ∧
      event.common.correlationId = some correlationId) ∧
  ∀ event ∈ c.events.entries, Call.addEvent event ∈ calls

theorem indexed_new (sharding : Sharding) : Indexed (new sharding) [] :=
  ⟨by simp [new], by simp [new, EventMap.empty]⟩

theorem indexed_step (c : CorrelationEngine) (calls : List Call) (call : Call)
    (indexed : Indexed c calls) : Indexed (c.step call) (calls ++ [call]) := by
  obtain ⟨members, added⟩ := indexed
  cases call with
  | addEvent event =>
      refine ⟨fun correlationId eventId => ?_, fun other stored => ?_⟩
      · simp only [step, addEvent, find_temporal_correlations_correlations, mem_track_correlation,
          store_event_correlations, members, List.mem_append, List.mem_singleton, Call.addEvent.injEq]
        constructor
        · rintro (⟨other, added, same⟩ | tracked)
          · exact ⟨other, .inl added, same⟩
          · exact ⟨event, .inr rfl, tracked⟩
        · rintro ⟨other, added | rfl, same⟩
          · exact .inl ⟨other, added, same⟩
          · exact .inr same
      · simp only [step, addEvent, find_temporal_correlations_events, track_correlation_events,
          store_event_events, EventMap.mem_insert] at stored
        rcases stored with rfl | ⟨stored, -⟩
        · simp
        · simp [added other stored]
  | cleanupOldEvents retentionHours now =>
      refine ⟨fun correlationId eventId => ?_, fun other stored => ?_⟩
      · simpa [step, cleanupOldEvents] using members correlationId eventId
      · simp only [step, cleanupOldEvents, EventMap.mem_retain] at stored
        simp [added other stored.1]

theorem indexed_run (sharding : Sharding) (calls : List Call) :
    Indexed ((new sharding).run calls) calls := by
  induction calls using List.reverseRecOn with
  | nil => exact indexed_new sharding
  | append_singleton calls call ih =>
      rw [run_concat]
      exact indexed_step _ calls call ih

theorem count_get_correlated_events (sharding : Sharding) (calls : List Call)
    (consistent : ∀ first second, Call.addEvent first ∈ calls → Call.addEvent second ∈ calls →
      first.common.eventId = second.common.eventId → first = second)
    (correlationId : Nat) (event : AnalyticsEvent) :
    (((new sharding).run calls).getCorrelatedEvents correlationId).count event =
      if event ∈ ((new sharding).run calls).events.entries ∧
        event.common.correlationId = some correlationId then 1 else 0 := by
  obtain ⟨members, added⟩ := indexed_run sharding calls
  have lookup : (((new sharding).run calls).getCorrelatedEvents correlationId) =
      Multiset.filterMap ((new sharding).run calls).events.get
        ((((new sharding).run calls).correlations correlationId).getD ∅).val := by
    unfold getCorrelatedEvents
    split <;> simp_all
  rw [lookup, EventMap.count_filter_map_get]
  refine if_congr ?_ rfl rfl
  rw [members]
  constructor
  · rintro ⟨⟨other, addedOther, same, tagged⟩, stored⟩
    exact ⟨stored, consistent other event addedOther (added event stored) same ▸ tagged⟩
  · rintro ⟨stored, tagged⟩
    exact ⟨⟨event, added event stored, rfl, tagged⟩, stored⟩

/-- With consistent re-deliveries, a correlation's lookup returns its stored events. -/
theorem get_correlated_events_eq (sharding : Sharding) (calls : List Call)
    (consistent : ∀ first second, Call.addEvent first ∈ calls → Call.addEvent second ∈ calls →
      first.common.eventId = second.common.eventId → first = second)
    (correlationId : Nat) :
    ((new sharding).run calls).getCorrelatedEvents correlationId =
      (((new sharding).run calls).events.entries.filter fun event =>
        event.common.correlationId = some correlationId : List AnalyticsEvent) := by
  ext event
  rw [count_get_correlated_events sharding calls consistent, Multiset.coe_count]
  by_cases tagged : event.common.correlationId = some correlationId
  · rw [List.count_filter (by simpa using tagged), List.count_eq_of_nodup (EventMap.entries_nodup _)]
    simp [tagged]
  · rw [List.count_eq_zero_of_not_mem (by simp [tagged])]
    simp [tagged]

/-- Correlation round trip: when re-deliveries of an id carry the same event, looking up a
correlation returns each stored event that carries it once and nothing else, and an event is
stored exactly when it was added and kept by every later call. -/
theorem get_correlated_events_exact (sharding : Sharding) (calls : List Call)
    (consistent : ∀ first second, Call.addEvent first ∈ calls → Call.addEvent second ∈ calls →
      first.common.eventId = second.common.eventId → first = second)
    (correlationId : Nat) (event : AnalyticsEvent) :
    (((new sharding).run calls).getCorrelatedEvents correlationId).count event =
      (if event ∈ ((new sharding).run calls).events.entries ∧
        event.common.correlationId = some correlationId then 1 else 0) ∧
    (event ∈ ((new sharding).run calls).events.entries ↔
      ∃ pre post, calls = pre ++ .addEvent event :: post ∧ ∀ call ∈ post, call.retains event) :=
  ⟨count_get_correlated_events sharding calls consistent correlationId event,
    by simp [mem_run_events, new, EventMap.empty]⟩

theorem get_correlated_events_redelivered :
    let first : AnalyticsEvent := ⟨⟨1, 0, .llmSentinel, .telemetry, some 7, none, .info⟩⟩
    let calls := [Call.addEvent first,
      .addEvent ⟨⟨2, Duration.minutes 1, .llmCostOps, .cost, some 7, none, .info⟩⟩,
      .cleanupOldEvents 1 (Duration.hours 1), .addEvent first]
    let sharding : Sharding := ⟨2, fun key => key % 2, fun key => Nat.mod_lt key (by decide)⟩
    (∀ first second, Call.addEvent first ∈ calls → Call.addEvent second ∈ calls →
      first.common.eventId = second.common.eventId → first = second) ∧
    ((((new sharding).run calls).getCorrelatedEvents 7).count first =
      (if first ∈ ((new sharding).run calls).events.entries ∧
        first.common.correlationId = some 7 then 1 else 0) ∧
    (first ∈ ((new sharding).run calls).events.entries ↔
      ∃ pre post, calls = pre ++ .addEvent first :: post ∧ ∀ call ∈ post, call.retains first)) := by
  intro first calls sharding
  have consistent : ∀ first second, Call.addEvent first ∈ calls → Call.addEvent second ∈ calls →
      first.common.eventId = second.common.eventId → first = second := by
    intro one two oneAdded twoAdded
    simp only [calls, List.mem_cons, Call.addEvent.injEq, List.mem_nil_iff, reduceCtorEq,
      false_or, or_false] at oneAdded twoAdded
    rcases oneAdded with rfl | rfl | rfl <;> rcases twoAdded with rfl | rfl | rfl <;> simp [first]
  exact ⟨consistent, get_correlated_events_exact sharding calls consistent 7 first⟩

end CorrelationEngine

end AnalyticsHub.Analytics
