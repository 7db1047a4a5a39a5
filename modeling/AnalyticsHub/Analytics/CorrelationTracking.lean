import AnalyticsHub.Analytics.CorrelationScan

set_option autoImplicit false

/- get_correlated_events read at any point of an interleaving of concurrent add_event calls. A
   call stores its event first and tracks it in its correlation's set second, each step under
   its own shard guard. A reader finds an event through the set and then through the events
   map, so an event becomes visible at its call's tracking step, once, and stays visible: no
   insert into a set is lost to a concurrent one, and no event is seen twice. The reader is
   taken as one step between two steps of the calls. -/
namespace AnalyticsHub.Analytics

open AnalyticsHub.Schemas

namespace CorrelationEngine

/-- The call has made its tracking step. -/
def Phase.tracked : Phase → Bool
  | .scan _ | .done => true
  | .store | .track => false

theorem Phase.tracked_advance (numShards : Nat) (phase : Phase) :
    (phase.advance numShards).tracked = (phase.tracked || phase == .track) := by
  cases phase with
  | scan index => simp only [advance]; split_ifs <;> rfl
  | _ => rfl

namespace World

theorem correlations_move (w : World) (mover : AnalyticsEvent) (correlationId eventId : Nat) :
    eventId ∈ ((w.move mover).engine.correlations correlationId).getD ∅ ↔
      eventId ∈ (w.engine.correlations correlationId).getD ∅ ∨
        (w.phase mover = .track ∧ mover.common.eventId = eventId ∧
          mover.common.correlationId = some correlationId) := by
  cases phase : w.phase mover with
  | store => simp [move_store w mover phase]
  | track => simp [move_track w mover phase, mem_track_correlation]
  | scan index => simp only [move, phase]; split_ifs <;> simp
  | done => simp [move, phase]

/-- Each correlation's id set holds exactly the ids of the tracked events that carry it. -/
def TracksIds (w : World) : Prop :=
  ∀ correlationId eventId, eventId ∈ (w.engine.correlations correlationId).getD ∅ ↔
    ∃ event, (w.phase event).tracked ∧ event.common.eventId = eventId ∧
      event.common.correlationId = some correlationId

theorem tracks_ids_move (w : World) (mover : AnalyticsEvent) (tracks : w.TracksIds) :
    (w.move mover).TracksIds := by
  intro correlationId eventId
  rw [correlations_move, tracks]
  have phases : ∀ event, ((w.move mover).phase event).tracked ↔
      (w.phase event).tracked ∨ (event = mover ∧ w.phase mover = .track) := by
    intro event
    by_cases same : event = mover
    · subst same
      simp [phase_move_self, Phase.tracked_advance]
    · simp [phase_move_other w mover event same, same]
  simp only [phases]
  constructor
  · rintro (⟨event, tracked, ids⟩ | ⟨tracking, ids⟩)
    · exact ⟨event, .inl tracked, ids⟩
    · exact ⟨mover, .inr ⟨rfl, tracking⟩, ids⟩
  · rintro ⟨event, tracked | ⟨rfl, tracking⟩, ids⟩
    · exact .inl ⟨event, tracked, ids⟩
    · exact .inr ⟨tracking, ids⟩

theorem tracks_ids_run (sharding : Sharding) (schedule : List AnalyticsEvent) :
    ((start (new sharding)).run schedule).TracksIds := by
  induction schedule using List.reverseRecOn with
  | nil => intro correlationId eventId; simp [start, new, Phase.tracked]
  | append_singleton schedule mover ih =>
      rw [run_concat]
      exact tracks_ids_move _ mover ih

theorem mem_entries_run (sharding : Sharding) (schedule : List AnalyticsEvent) (event : AnalyticsEvent)
    (stored : event ∈ ((start (new sharding)).run schedule).engine.events.entries) : event ∈ schedule := by
  induction schedule using List.reverseRecOn with
  | nil => simp [start, new, EventMap.empty] at stored
  | append_singleton schedule mover ih =>
      rw [run_concat, move_events] at stored
      split_ifs at stored
      · rcases (EventMap.mem_insert _ _ _).mp stored with rfl | ⟨earlier, -⟩
        · simp
        · simp [ih earlier]
      · simp [ih stored]

end World

/-- Concurrent add_event calls on events with distinct ids, read by get_correlated_events at any
point of any interleaving: each event is returned once if its call has made its tracking step
and it carries the correlation id, and not at all otherwise, stored or not. -/
theorem concurrent_correlated_events (sharding : Sharding) (events : List AnalyticsEvent)
    (distinct : ∀ first ∈ events, ∀ second ∈ events,
      first.common.eventId = second.common.eventId → first = second)
    (schedule : List AnalyticsEvent) (scheduled : ∀ mover ∈ schedule, mover ∈ events)
    (correlationId : Nat) (event : AnalyticsEvent) :
    (((World.start (new sharding)).run schedule).engine.getCorrelatedEvents correlationId).count event =
      if event ∈ events ∧ (((World.start (new sharding)).run schedule).phase event).tracked ∧
        event.common.correlationId = some correlationId then 1 else 0 := by
  generalize moved : (World.start (new sharding)).run schedule = w
  have tracks : w.TracksIds := moved ▸ World.tracks_ids_run sharding schedule
  have stored : w.Stored events :=
    moved ▸ World.stored_run events distinct (new sharding) (fun _ _ absent => by
      simp [new, EventMap.empty] at absent) schedule scheduled
  have listed : ∀ other, (w.phase other).tracked → other ∈ events := fun other tracked =>
    scheduled other (World.scheduled_of_moved _ schedule other (by
      rw [moved]; intro idle; simp [idle, Phase.tracked] at tracked))
  have entries : ∀ other ∈ w.engine.events.entries, other ∈ events := fun other member =>
    scheduled other (World.mem_entries_run sharding schedule other (moved ▸ member))
  have visible : event.common.eventId ∈ (w.engine.correlations correlationId).getD ∅ ∧
      event ∈ w.engine.events.entries ↔
      event ∈ events ∧ (w.phase event).tracked ∧ event.common.correlationId = some correlationId := by
    rw [tracks]
    constructor
    · rintro ⟨⟨other, tracked, sameId, carried⟩, member⟩
      obtain rfl := distinct other (listed other tracked) event (entries event member) sameId
      exact ⟨entries other member, tracked, carried⟩
    · rintro ⟨member, tracked, carried⟩
      refine ⟨⟨event, tracked, rfl, carried⟩, (stored event member).mpr fun idle => ?_⟩
      simp [idle, Phase.tracked] at tracked
  unfold getCorrelatedEvents
  cases found : w.engine.correlations correlationId with
  | none =>
      have hidden := visible
      simp only [found, Option.getD_none, Finset.not_mem_empty, false_and, false_iff] at hidden
      simp [hidden]
  | some eventIds =>
      rw [EventMap.count_filter_map_get]
      simp only [found, Option.getD_some] at visible
      exact if_congr visible rfl rfl

/-- Two calls on one correlation, the first tracked and the second only stored: the stored
event is in the events map and still not returned. -/
theorem concurrent_correlated_events_stored_only :
    let tracked : AnalyticsEvent := ⟨⟨1, 0, .llmObservatory, .telemetry, some 7, none, .info⟩⟩
    let stored : AnalyticsEvent :=
      ⟨⟨2, Duration.minutes 1, .llmSentinel, .security, some 7, none, .warning⟩⟩
    let sharding : Sharding := ⟨1, fun _ => 0, fun _ => Nat.one_pos⟩
    let events := [tracked, stored]
    let schedule := [tracked, stored, tracked]
    (∀ first ∈ events, ∀ second ∈ events,
      first.common.eventId = second.common.eventId → first = second) ∧
    (∀ mover ∈ schedule, mover ∈ events) ∧
    stored ∈ ((World.start (new sharding)).run schedule).engine.events.entries ∧
    (((World.start (new sharding)).run schedule).engine.getCorrelatedEvents 7).count stored = 0 ∧
    (((World.start (new sharding)).run schedule).engine.getCorrelatedEvents 7).count stored =
      if stored ∈ events ∧ (((World.start (new sharding)).run schedule).phase stored).tracked ∧
        stored.common.correlationId = some 7 then 1 else 0 := by
  intro tracked stored sharding events schedule
  have distinct : ∀ first ∈ events, ∀ second ∈ events,
      first.common.eventId = second.common.eventId → first = second := by decide
  have scheduled : ∀ mover ∈ schedule, mover ∈ events := by decide
  exact ⟨distinct, scheduled, by decide, by decide,
    concurrent_correlated_events sharding events distinct schedule scheduled 7 stored⟩

end CorrelationEngine

end AnalyticsHub.Analytics
