import AnalyticsHub.Analytics.Correlation

set_option autoImplicit false

/- Concurrent add_event calls on one correlation engine, one call per event. A call stores its
   event, then tracks its correlation, then reads the events map shard by shard: reading a
   shard is one atomic step, since the call holds that shard's read guard for the whole pass
   of its loop over the shard, and no insert into the shard can run meanwhile. The pattern
   updates of that pass are made in the same step. `credits` is ghost state: one entry
   `(event, other)` for each occurrence the scan of `event`'s call adds for `other`. -/
namespace AnalyticsHub.Analytics

open AnalyticsHub.Schemas

namespace CorrelationEngine

/-- The window test of find_temporal_correlations: another event within five minutes. -/
def Matches (event other : AnalyticsEvent) : Prop :=
  other.common.eventId ≠ event.common.eventId ∧
    timeDiff event other ≤ Duration.numSeconds correlationWindow

instance (event other : AnalyticsEvent) : Decidable (Matches event other) :=
  inferInstanceAs (Decidable (_ ∧ _))

theorem matches_comm (event other : AnalyticsEvent) : Matches event other ↔ Matches other event := by
  have swap : Duration.numSeconds (other.common.timestamp - event.common.timestamp) =
      -Duration.numSeconds (event.common.timestamp - other.common.timestamp) := by
    rw [Duration.numSeconds, Duration.numSeconds, ← Int.neg_tdiv, neg_sub]
  simp only [Matches, timeDiff, swap, abs_neg, ne_comm]

theorem scan_entry_eq (event : AnalyticsEvent) (patterns : String → Option TemporalPattern)
    (other : AnalyticsEvent) :
    scanEntry event patterns other =
      if Matches event other then
        Function.update patterns (patternKey event other)
          (some (((patterns (patternKey event other)).getD TemporalPattern.new).addOccurrence
            event.common.timestamp (timeDiff event other)))
      else patterns := by
  unfold scanEntry Matches
  by_cases same : other.common.eventId = event.common.eventId <;> simp [same]

theorem scan_entry_apply (event : AnalyticsEvent) (patterns : String → Option TemporalPattern)
    (other : AnalyticsEvent) (key : String) :
    scanEntry event patterns other key =
      if Matches event other ∧ patternKey event other = key then
        some (((patterns key).getD TemporalPattern.new).addOccurrence event.common.timestamp
          (timeDiff event other))
      else patterns key := by
  rw [scan_entry_eq]
  by_cases matched : Matches event other
  · by_cases same : patternKey event other = key
    · subst same
      simp [matched]
    · simp [matched, same, Function.update_noteq (Ne.symm same)]
  · simp [matched]

/-- The number of occurrences recorded under a pattern key. -/
def occurrenceCount (patterns : String → Option TemporalPattern) (key : String) : Nat :=
  ((patterns key).map fun pattern => pattern.occurrences.length).getD 0

theorem occurrence_count_scan_entry (event : AnalyticsEvent)
    (patterns : String → Option TemporalPattern) (other : AnalyticsEvent) (key : String) :
    occurrenceCount (scanEntry event patterns other) key = occurrenceCount patterns key +
      if Matches event other ∧ patternKey event other = key then 1 else 0 := by
  unfold occurrenceCount
  rw [scan_entry_apply]
  split_ifs
  · cases patterns key <;> simp [TemporalPattern.addOccurrence, TemporalPattern.new]
  · rfl

theorem occurrence_count_scan (event : AnalyticsEvent) (others : List AnalyticsEvent)
    (patterns : String → Option TemporalPattern) (key : String) :
    occurrenceCount (others.foldl (scanEntry event) patterns) key = occurrenceCount patterns key +
      others.countP fun other => decide (Matches event other ∧ patternKey event other = key) := by
  induction others generalizing patterns with
  | nil => rfl
  | cons other rest ih =>
      rw [List.foldl_cons, ih, occurrence_count_scan_entry, List.countP_cons]
      simp only [decide_eq_true_eq]
      split_ifs <;> omega

-- Where an add_event call is; `scan index` is about to read shard `index`, and past the last
-- shard it returns.
inductive Phase where
  | store
  | track
  | scan (index : Nat)
  | done
deriving DecidableEq, Repr

def Phase.advance (numShards : Nat) : Phase → Phase
  | .store => .track
  | .track => .scan 0
  | .scan index => if index < numShards then .scan (index + 1) else .done
  | .done => .done

/-- The call has read shard `index`. -/
def Phase.Passed (index : Nat) : Phase → Prop
  | .scan next => index < next
  | .done => True
  | _ => False

theorem Phase.advance_ne_store (numShards : Nat) (phase : Phase) : phase.advance numShards ≠ .store := by
  cases phase with
  | scan index => simp only [advance]; split_ifs <;> simp
  | _ => simp [advance]

theorem Phase.passed_advance (numShards index : Nat) (inRange : index < numShards) (phase : Phase) :
    (phase.advance numShards).Passed index ↔ phase.Passed index ∨ phase = .scan index := by
  cases phase with
  | scan next =>
      simp only [advance, Passed, scan.injEq]
      split_ifs <;> simp [Passed] <;> omega
  | _ => simp [advance, Passed]

theorem Phase.not_passed_store (index : Nat) : ¬ Phase.store.Passed index := id

structure World where
  engine : CorrelationEngine
  phase : AnalyticsEvent → Phase
  credits : List (AnalyticsEvent × AnalyticsEvent)

namespace World

def start (c : CorrelationEngine) : World := ⟨c, fun _ => .store, []⟩

-- One atomic step of the call of `event`.
def move (w : World) (event : AnalyticsEvent) : World :=
  let c := w.engine
  let phase := Function.update w.phase event ((w.phase event).advance c.sharding.numShards)
  match w.phase event with
  | .store => { w with engine := c.storeEvent event, phase := phase }
  | .track => { w with engine := c.trackCorrelation event, phase := phase }
  | .scan index =>
      if index < c.sharding.numShards then
        let others := c.events.shard c.sharding index
        { engine := { c with patterns := others.foldl (scanEntry event) c.patterns }
          phase := phase
          credits := w.credits ++ (others.filter fun other => decide (Matches event other)).map
            (event, ·) }
      else { w with phase := phase }
  | .done => w

def run (w : World) (schedule : List AnalyticsEvent) : World := schedule.foldl move w

@[simp] theorem run_nil (w : World) : w.run [] = w := rfl

@[simp] theorem run_cons (w : World) (event : AnalyticsEvent) (schedule : List AnalyticsEvent) :
    w.run (event :: schedule) = (w.move event).run schedule := rfl

@[simp] theorem run_concat (w : World) (schedule : List AnalyticsEvent) (event : AnalyticsEvent) :
    w.run (schedule ++ [event]) = (w.run schedule).move event := by
  simp [run]

/-- The occurrences a pair of events has added, in both orders of its pattern key. -/
def contribution (w : World) (event other : AnalyticsEvent) : Nat :=
  w.credits.count (event, other) + w.credits.count (other, event)

@[simp] theorem move_sharding (w : World) (event : AnalyticsEvent) :
    (w.move event).engine.sharding = w.engine.sharding := by
  cases scanning : w.phase event with
  | scan index => simp only [move, scanning]; split_ifs <;> rfl
  | _ => simp [move, scanning]

theorem move_phase (w : World) (event : AnalyticsEvent) :
    (w.move event).phase =
      Function.update w.phase event ((w.phase event).advance w.engine.sharding.numShards) := by
  cases scanning : w.phase event with
  | scan index => simp only [move, scanning]; split_ifs <;> rfl
  | done => simp [move, scanning, Phase.advance]
  | _ => simp [move, scanning]

theorem move_events (w : World) (event : AnalyticsEvent) :
    (w.move event).engine.events =
      if w.phase event = .store then w.engine.events.insert event else w.engine.events := by
  cases scanning : w.phase event with
  | scan index => simp only [move, scanning, reduceCtorEq, if_false]; split_ifs <;> rfl
  | _ => simp [move, scanning]

theorem move_credits (w : World) (event : AnalyticsEvent) :
    (w.move event).credits = w.credits ++
      match w.phase event with
      | .scan index =>
          if index < w.engine.sharding.numShards then
            ((w.engine.events.shard w.engine.sharding index).filter
              fun other => decide (Matches event other)).map (event, ·)
          else []
      | _ => [] := by
  cases scanning : w.phase event with
  | scan index => simp only [move, scanning]; split_ifs <;> simp
  | _ => simp [move, scanning]

theorem move_patterns (w : World) (event : AnalyticsEvent) :
    (w.move event).engine.patterns =
      match w.phase event with
      | .scan index =>
          if index < w.engine.sharding.numShards then
            (w.engine.events.shard w.engine.sharding index).foldl (scanEntry event) w.engine.patterns
          else w.engine.patterns
      | _ => w.engine.patterns := by
  cases scanning : w.phase event with
  | scan index => simp only [move, scanning]; split_ifs <;> rfl
  | _ => simp [move, scanning]

theorem move_store (w : World) (event : AnalyticsEvent) (idle : w.phase event = .store) :
    (w.move event).engine = w.engine.storeEvent event := by
  simp [move, idle]

theorem move_track (w : World) (event : AnalyticsEvent) (tracking : w.phase event = .track) :
    (w.move event).engine = w.engine.trackCorrelation event := by
  simp [move, tracking]

theorem move_scan_past (w : World) (event : AnalyticsEvent) (index : Nat)
    (scanning : w.phase event = .scan index) (past : w.engine.sharding.numShards ≤ index) :
    (w.move event).engine = w.engine := by
  simp [move, scanning, Nat.not_lt.mpr past]

theorem phase_move_self (w : World) (event : AnalyticsEvent) :
    (w.move event).phase event = (w.phase event).advance w.engine.sharding.numShards := by
  simp [move_phase]

theorem phase_move_other (w : World) (event other : AnalyticsEvent) (different : other ≠ event) :
    (w.move event).phase other = w.phase other := by
  simp [move_phase, Function.update_noteq different]

theorem occurrence_count_run (c : CorrelationEngine) (schedule : List AnalyticsEvent) (key : String) :
    occurrenceCount ((start c).run schedule).engine.patterns key = occurrenceCount c.patterns key +
      ((start c).run schedule).credits.countP fun credit => patternKey credit.1 credit.2 = key := by
  induction schedule using List.reverseRecOn with
  | nil => rfl
  | append_singleton schedule event ih =>
      rw [run_concat, move_patterns, move_credits]
      split
      · split
        · rw [occurrence_count_scan, ih, List.countP_append, List.countP_map, List.countP_filter]
          simp only [Function.comp_def, Bool.and_comm, Bool.decide_and]
          omega
        · simpa using ih
      all_goals simpa using ih

theorem shard_nodup (w : World) (index : Nat) :
    (w.engine.events.shard w.engine.sharding index).Nodup :=
  (List.Nodup.of_map _ w.engine.events.nodup).sublist (List.filter_sublist _)

theorem count_map_pair (mover event other : AnalyticsEvent) (others : List AnalyticsEvent) :
    (others.map (mover, ·)).count (event, other) = if mover = event then others.count other else 0 := by
  induction others with
  | nil => simp
  | cons head rest ih =>
      by_cases same : mover = event
      · subst same
        simp [List.count_cons, ih]
      · simp [List.count_cons, ih, same]

theorem count_move (w : World) (mover event other : AnalyticsEvent) :
    (w.move mover).credits.count (event, other) = w.credits.count (event, other) +
      if mover = event ∧ w.phase event = .scan (w.engine.sharding.shardOf other.common.eventId) ∧
        other ∈ w.engine.events.entries ∧ Matches event other then 1 else 0 := by
  rw [move_credits, List.count_append]
  congr 1
  have inRange := w.engine.sharding.shardOf_lt other.common.eventId
  split
  · rename_i index scanning
    split
    · by_cases same : mover = event
      · subst same
        rw [count_map_pair, if_pos rfl]
        by_cases matched : Matches mover other
        · rw [List.count_filter (by simpa using matched), List.count_eq_of_nodup (shard_nodup w index)]
          simp only [EventMap.shard, List.mem_filter, decide_eq_true_eq, scanning, Phase.scan.injEq,
            true_and, matched, and_true]
          exact if_congr ⟨fun ⟨stored, same⟩ => ⟨same.symm, stored⟩,
            fun ⟨same, stored⟩ => ⟨stored, same.symm⟩⟩ rfl rfl
        · simpa [matched] using List.count_eq_zero.mpr fun kept => matched (by simpa using
            (List.mem_filter.mp kept).2)
      · simp only [same, false_and, if_false]
        exact List.count_eq_zero.mpr (by simp [same])
    · rename_i outOfRange
      simp only [List.count_nil]
      split_ifs with credited
      · obtain ⟨rfl, scanning', -⟩ := credited
        rw [scanning, Phase.scan.injEq] at scanning'
        omega
      · rfl
  · rename_i notScanning
    split_ifs with credited
    · obtain ⟨rfl, scanning, -⟩ := credited
      exact absurd scanning (notScanning _)
    · rfl

/-- Which of the given calls have stored their event. -/
def Stored (w : World) (events : List AnalyticsEvent) : Prop :=
  ∀ event ∈ events, event ∈ w.engine.events.entries ↔ w.phase event ≠ .store

section Runs

variable (events : List AnalyticsEvent)
  (distinct : ∀ first ∈ events, ∀ second ∈ events,
    first.common.eventId = second.common.eventId → first = second)

include distinct in
theorem stored_move (w : World) (mover : AnalyticsEvent) (scheduled : mover ∈ events)
    (stored : w.Stored events) : (w.move mover).Stored events := by
  intro event listed
  rw [move_events, move_phase]
  by_cases same : event = mover
  · subst same
    by_cases storing : w.phase event = .store <;> simp [storing, Phase.advance_ne_store, stored event listed]
  · have otherId : event.common.eventId ≠ mover.common.eventId :=
      fun sameId => same (distinct event listed mover scheduled sameId)
    rw [Function.update_noteq same, ← stored event listed]
    split_ifs <;> simp [same, otherId]

include distinct in
theorem stored_run (c : CorrelationEngine) (fresh : ∀ event ∈ events, event ∉ c.events.entries)
    (schedule : List AnalyticsEvent) (scheduled : ∀ mover ∈ schedule, mover ∈ events) :
    ((start c).run schedule).Stored events := by
  induction schedule using List.reverseRecOn with
  | nil => exact fun event listed => by simp [start, fresh event listed]
  | append_singleton schedule mover ih =>
      rw [run_concat]
      exact stored_move events distinct _ mover (scheduled mover (by simp))
        (ih fun other inPrefix => scheduled other (by simp [inPrefix]))

end Runs

theorem scheduled_of_moved (c : CorrelationEngine) (schedule : List AnalyticsEvent)
    (event : AnalyticsEvent) (moved : ((start c).run schedule).phase event ≠ .store) :
    event ∈ schedule := by
  induction schedule using List.reverseRecOn with
  | nil => exact absurd rfl moved
  | append_singleton schedule mover ih =>
      rw [run_concat] at moved
      by_cases same : event = mover
      · simp [same]
      · rw [phase_move_other _ _ _ same] at moved
        simp [ih moved]

/-- What the credits of the scan of `event`'s call record about `other`, under the sharding of
the run. -/
structure Credited (sharding : Sharding) (w : World) (event other : AnalyticsEvent) : Prop where
  at_most_once : w.credits.count (event, other) ≤ 1
  none_before : ¬ (w.phase event).Passed (sharding.shardOf other.common.eventId) →
    w.credits.count (event, other) = 0
  stored_of_credited : w.credits.count (event, other) = 1 → w.phase other ≠ .store
  seen_back : (w.phase event).Passed (sharding.shardOf other.common.eventId) →
    w.credits.count (event, other) = 0 →
      ¬ (w.phase other).Passed (sharding.shardOf event.common.eventId) ∨
        w.credits.count (other, event) = 1

theorem credited_start (c : CorrelationEngine) (event other : AnalyticsEvent) :
    (start c).Credited c.sharding event other :=
  ⟨by simp [start], fun _ => by simp [start], fun never => by simp [start] at never,
    fun passed => absurd passed (Phase.not_passed_store _)⟩

theorem Credited.congr {sharding : Sharding} {w w' : World} {event other : AnalyticsEvent}
    (credited : w.Credited sharding event other)
    (forward : w'.credits.count (event, other) = w.credits.count (event, other))
    (backward : w'.credits.count (other, event) = w.credits.count (other, event))
    (phaseEvent : w'.phase event = w.phase event) (phaseOther : w'.phase other = w.phase other) :
    w'.Credited sharding event other := by
  obtain ⟨atMostOnce, noneBefore, storedOfCredited, seenBack⟩ := credited
  constructor <;> simp only [forward, backward, phaseEvent, phaseOther] <;> assumption

theorem credited_move_self (w : World) (event other : AnalyticsEvent) (matched : Matches event other)
    (storedOther : other ∈ w.engine.events.entries ↔ w.phase other ≠ .store)
    (credited : w.Credited w.engine.sharding event other) :
    (w.move event).Credited w.engine.sharding event other := by
  have different : event ≠ other := fun same => matched.1 (by rw [same])
  obtain ⟨atMostOnce, noneBefore, storedOfCredited, seenBack⟩ := credited
  have forward := count_move w event event other
  have backward := count_move w event other event
  simp only [different, false_and, if_false, add_zero] at backward
  have phaseOther := phase_move_other w event other (Ne.symm different)
  have passedEvent := Phase.passed_advance _ _
    (w.engine.sharding.shardOf_lt other.common.eventId) (w.phase event)
  rw [← phase_move_self] at passedEvent
  by_cases scanning : w.phase event = .scan (w.engine.sharding.shardOf other.common.eventId)
  · have zero := noneBefore (by simp [scanning, Phase.Passed])
    refine ⟨?_, fun notNow => absurd (passedEvent.mpr (.inr scanning)) notNow, ?_, ?_⟩
    · rw [forward]; split_ifs <;> omega
    · rw [forward, phaseOther]
      split_ifs with credits
      · exact fun _ => storedOther.mp credits.2.2.1
      · omega
    · intro _ none
      rw [phaseOther, backward]
      by_cases present : other ∈ w.engine.events.entries
      · simp [forward, zero, scanning, present, matched] at none
      · have idle : w.phase other = .store := not_not.mp (mt storedOther.mpr present)
        exact .inl (by simp [idle, Phase.Passed])
  · simp only [scanning, false_and, and_false, if_false, add_zero] at forward
    have samePassed : ((w.move event).phase event).Passed
        (w.engine.sharding.shardOf other.common.eventId) ↔
        (w.phase event).Passed (w.engine.sharding.shardOf other.common.eventId) := by
      rw [passedEvent]; simp [scanning]
    refine ⟨forward ▸ atMostOnce, fun notNow => forward ▸ noneBefore (samePassed.not.mp notNow),
      fun one => phaseOther ▸ storedOfCredited (forward ▸ one), fun passed none => ?_⟩
    rw [phaseOther, backward]
    exact seenBack (samePassed.mp passed) (forward ▸ none)

theorem credited_move_partner (w : World) (event other : AnalyticsEvent)
    (matchedBack : Matches other event)
    (storedEvent : event ∈ w.engine.events.entries ↔ w.phase event ≠ .store)
    (credited : w.Credited w.engine.sharding event other)
    (creditedBack : w.Credited w.engine.sharding other event) :
    (w.move other).Credited w.engine.sharding event other := by
  have different : other ≠ event := fun same => matchedBack.1 (by rw [same])
  obtain ⟨atMostOnce, noneBefore, -, seenBack⟩ := credited
  have forward := count_move w other event other
  have backward := count_move w other other event
  simp only [different, false_and, if_false, add_zero] at forward
  have phaseEvent := phase_move_other w other event (Ne.symm different)
  refine ⟨forward ▸ atMostOnce, fun notNow => forward ▸ noneBefore (phaseEvent ▸ notNow),
    fun _ => by rw [phase_move_self]; exact Phase.advance_ne_store _ _, fun passed none => ?_⟩
  rw [phaseEvent] at passed
  have passedOther := Phase.passed_advance _ _
    (w.engine.sharding.shardOf_lt event.common.eventId) (w.phase other)
  rw [← phase_move_self] at passedOther
  rw [passedOther, backward]
  by_cases scanning : w.phase other = .scan (w.engine.sharding.shardOf event.common.eventId)
  · have present : event ∈ w.engine.events.entries := storedEvent.mpr fun atStore => by
      simp [atStore, Phase.Passed] at passed
    simp [creditedBack.none_before (by simp [scanning, Phase.Passed]), scanning, present,
      matchedBack]
  · simp only [scanning, false_and, and_false, if_false, add_zero, or_false]
    exact seenBack passed (forward ▸ none)

theorem credited_move (w : World) (mover event other : AnalyticsEvent)
    (matched : Matches event other) (matchedBack : Matches other event)
    (stored : w.Stored [event, other]) (credited : w.Credited w.engine.sharding event other)
    (creditedBack : w.Credited w.engine.sharding other event) :
    (w.move mover).Credited w.engine.sharding event other := by
  by_cases moverEvent : mover = event
  · subst moverEvent
    exact credited_move_self w mover other matched (stored other (by simp)) credited
  by_cases moverOther : mover = other
  · subst moverOther
    exact credited_move_partner w event mover matchedBack (stored event (by simp)) credited
      creditedBack
  -- A step of any other call changes neither the pair's credits nor the two phases.
  refine credited.congr ?_ ?_ (phase_move_other w mover event (Ne.symm moverEvent))
    (phase_move_other w mover other (Ne.symm moverOther))
  · simpa [moverEvent] using count_move w mover event other
  · simpa [moverOther] using count_move w mover other event

@[simp] theorem run_append (w : World) (first second : List AnalyticsEvent) :
    w.run (first ++ second) = (w.run first).run second := by
  simp [run]

@[simp] theorem run_sharding (w : World) (schedule : List AnalyticsEvent) :
    (w.run schedule).engine.sharding = w.engine.sharding := by
  induction schedule generalizing w with
  | nil => rfl
  | cons mover rest ih => rw [run_cons, ih, move_sharding]

theorem passed_move (w : World) (mover event : AnalyticsEvent) (index : Nat)
    (inRange : index < w.engine.sharding.numShards) (passed : (w.phase event).Passed index) :
    ((w.move mover).phase event).Passed index := by
  by_cases same : event = mover
  · subst same
    rw [phase_move_self, Phase.passed_advance _ _ inRange]
    exact .inl passed
  · rwa [phase_move_other _ _ _ same]

theorem count_run_of_passed (w : World) (schedule : List AnalyticsEvent) (event other : AnalyticsEvent)
    (passed : (w.phase event).Passed (w.engine.sharding.shardOf other.common.eventId)) :
    (w.run schedule).credits.count (event, other) = w.credits.count (event, other) := by
  induction schedule generalizing w with
  | nil => rfl
  | cons mover rest ih =>
      have inRange := w.engine.sharding.shardOf_lt other.common.eventId
      have stays := passed_move w mover event _ inRange passed
      rw [← move_sharding w mover] at stays
      rw [run_cons, ih _ stays, count_move]
      split_ifs with credited
      · obtain ⟨-, scanning, -⟩ := credited
        simp [scanning, Phase.Passed] at passed
      · rfl

theorem credited_run (c : CorrelationEngine) (events : List AnalyticsEvent)
    (distinct : ∀ first ∈ events, ∀ second ∈ events,
      first.common.eventId = second.common.eventId → first = second)
    (fresh : ∀ event ∈ events, event ∉ c.events.entries)
    (event other : AnalyticsEvent) (listed : event ∈ events ∧ other ∈ events)
    (matched : Matches event other) (schedule : List AnalyticsEvent)
    (scheduled : ∀ mover ∈ schedule, mover ∈ events) :
    ((start c).run schedule).Credited c.sharding event other ∧
      ((start c).run schedule).Credited c.sharding other event := by
  induction schedule using List.reverseRecOn with
  | nil => exact ⟨credited_start c event other, credited_start c other event⟩
  | append_singleton schedule mover ih =>
      obtain ⟨forward, backward⟩ := ih fun other inPrefix => scheduled other (by simp [inPrefix])
      have stored := stored_run events distinct c fresh schedule
        fun other inPrefix => scheduled other (by simp [inPrefix])
      have pair : ((start c).run schedule).Stored [event, other] := by
        intro listedEvent inPair
        simp only [List.mem_cons, List.mem_singleton, List.not_mem_nil, or_false] at inPair
        rcases inPair with rfl | rfl
        · exact stored _ listed.1
        · exact stored _ listed.2
      have pairBack : ((start c).run schedule).Stored [other, event] :=
        fun listedEvent inPair => pair listedEvent (by simp at inPair ⊢; tauto)
      have sharding := run_sharding (start c) schedule
      simp only [start] at sharding
      rw [← sharding] at forward backward ⊢
      rw [run_concat]
      have matchedBack := (matches_comm event other).mp matched
      exact ⟨credited_move _ mover event other matched matchedBack pair forward backward,
        credited_move _ mover other event matchedBack matched pairBack backward forward⟩

/-- Concurrent add_event calls on events with distinct ids count each matching pair once or
twice: the credits account for every occurrence added to the patterns, a pair whose calls have
both returned has one or two credits, and it has exactly one when one call returned before the
other stored its event. -/
theorem scan_pair_contribution (c : CorrelationEngine) (schedule : List AnalyticsEvent)
    (distinct : ∀ first ∈ schedule, ∀ second ∈ schedule,
      first.common.eventId = second.common.eventId → first = second)
    (fresh : ∀ event ∈ schedule, event ∉ c.events.entries)
    (event other : AnalyticsEvent) (matched : Matches event other)
    (finished : ((start c).run schedule).phase event = .done ∧
      ((start c).run schedule).phase other = .done) :
    (∀ key, occurrenceCount ((start c).run schedule).engine.patterns key =
      occurrenceCount c.patterns key +
        ((start c).run schedule).credits.countP fun credit => patternKey credit.1 credit.2 = key) ∧
    1 ≤ ((start c).run schedule).contribution event other ∧
    ((start c).run schedule).contribution event other ≤ 2 ∧
    ∀ first second, schedule = first ++ second → ((start c).run first).phase event = .done →
      ((start c).run first).phase other = .store →
        ((start c).run schedule).contribution event other = 1 := by
  have listed : event ∈ schedule ∧ other ∈ schedule :=
    ⟨scheduled_of_moved c schedule event (by simp [finished.1]),
      scheduled_of_moved c schedule other (by simp [finished.2])⟩
  obtain ⟨forward, backward⟩ :=
    credited_run c schedule distinct fresh event other listed matched schedule fun _ => id
  have passedForward : (((start c).run schedule).phase event).Passed
      (c.sharding.shardOf other.common.eventId) := by
    simp [finished.1, Phase.Passed]
  have seen := forward.seen_back passedForward
  simp only [finished.2, Phase.Passed, not_true_eq_false, false_or] at seen
  refine ⟨occurrence_count_run c schedule, ?_, ?_, ?_⟩
  · unfold contribution
    by_cases zero : ((start c).run schedule).credits.count (event, other) = 0
    · simp [zero, seen zero]
    · omega
  · unfold contribution
    have := forward.at_most_once
    have := backward.at_most_once
    omega
  · intro first second split doneFirst idle
    have listedFirst : ∀ mover ∈ first, mover ∈ schedule := fun mover inFirst => by
      simp [split, inFirst]
    obtain ⟨creditedFirst, -⟩ :=
      credited_run c schedule distinct fresh event other listed matched first listedFirst
    have none : ((start c).run first).credits.count (event, other) = 0 := by
      have := creditedFirst.at_most_once
      have := mt creditedFirst.stored_of_credited (not_not.mpr idle)
      omega
    have passedFirst : (((start c).run first).phase event).Passed
        (((start c).run first).engine.sharding.shardOf other.common.eventId) := by
      simp [doneFirst, Phase.Passed]
    have stays := count_run_of_passed _ second event other passedFirst
    rw [← run_append, ← split, none] at stays
    simp [contribution, stays, seen stays]

theorem scan_pair_contribution_sequential :
    let event : AnalyticsEvent := ⟨⟨1, 0, .llmSentinel, .telemetry, none, none, .info⟩⟩
    let other : AnalyticsEvent := ⟨⟨2, Duration.minutes 1, .llmCostOps, .cost, none, none, .info⟩⟩
    let c := new ⟨1, fun _ => 0, fun _ => Nat.one_pos⟩
    let schedule := [event, event, event, event, other, other, other, other]
    (∀ first ∈ schedule, ∀ second ∈ schedule,
      first.common.eventId = second.common.eventId → first = second) ∧
    (∀ event ∈ schedule, event ∉ c.events.entries) ∧ Matches event other ∧
    (((start c).run schedule).phase event = .done ∧ ((start c).run schedule).phase other = .done) ∧
    (∀ key, occurrenceCount ((start c).run schedule).engine.patterns key =
      occurrenceCount c.patterns key +
        ((start c).run schedule).credits.countP fun credit => patternKey credit.1 credit.2 = key) ∧
    1 ≤ ((start c).run schedule).contribution event other ∧
    ((start c).run schedule).contribution event other ≤ 2 ∧
    ∀ first second, schedule = first ++ second → ((start c).run first).phase event = .done →
      ((start c).run first).phase other = .store →
        ((start c).run schedule).contribution event other = 1 := by
  intro event other c schedule
  have distinct : ∀ first ∈ schedule, ∀ second ∈ schedule,
      first.common.eventId = second.common.eventId → first = second := by decide
  have fresh : ∀ event ∈ schedule, event ∉ c.events.entries := by decide
  have matched : Matches event other := by decide
  have finished : ((start c).run schedule).phase event = .done ∧
      ((start c).run schedule).phase other = .done := by decide
  exact ⟨distinct, fresh, matched, finished,
    scan_pair_contribution c schedule distinct fresh event other matched finished⟩

/-- Two matching events whose calls both store before either scans: each scan finds the other,
and the pair has two credits. -/
theorem scan_pair_counted_twice :
    let event : AnalyticsEvent := ⟨⟨1, 0, .llmSentinel, .telemetry, none, none, .info⟩⟩
    let other : AnalyticsEvent := ⟨⟨2, Duration.minutes 1, .llmCostOps, .cost, none, none, .info⟩⟩
    let c := new ⟨1, fun _ => 0, fun _ => Nat.one_pos⟩
    let schedule := [event, other, event, other, event, other, event, other]
    (∀ first ∈ schedule, ∀ second ∈ schedule,
      first.common.eventId = second.common.eventId → first = second) ∧
    (∀ event ∈ schedule, event ∉ c.events.entries) ∧ Matches event other ∧
    ((start c).run schedule).phase event = .done ∧ ((start c).run schedule).phase other = .done ∧
    ((start c).run schedule).contribution event other = 2 := by
  decide

theorem phase_run_other (w : World) (schedule : List AnalyticsEvent) (event : AnalyticsEvent)
    (absent : event ∉ schedule) : (w.run schedule).phase event = w.phase event := by
  induction schedule generalizing w with
  | nil => rfl
  | cons mover rest ih =>
      simp only [List.mem_cons, not_or] at absent
      rw [run_cons, ih _ absent.2, phase_move_other _ _ _ absent.1]

theorem scan_moves (w : World) (event : AnalyticsEvent) (count : Nat)
    (inRange : count ≤ w.engine.sharding.numShards) (scanning : w.phase event = .scan 0) :
    let patterns := ((List.range count).flatMap (w.engine.events.shard w.engine.sharding)).foldl
      (scanEntry event) w.engine.patterns
    (w.run (List.replicate count event)).engine = { w.engine with patterns := patterns } ∧
    (w.run (List.replicate count event)).phase event = .scan count := by
  induction count with
  | zero => exact ⟨rfl, scanning⟩
  | succ count ih =>
      obtain ⟨engine, phase⟩ := ih (by omega)
      rw [List.replicate_succ', run_append, run_cons, run_nil]
      have below : count < w.engine.sharding.numShards := by omega
      constructor
      · simp only [move, phase, engine, below, if_true, List.range_succ, List.flatMap_append,
          List.foldl_append]
        simp
      · rw [phase_move_self, phase, engine]
        simp [Phase.advance, below]

theorem solo_run_add_event (w : World) (event : AnalyticsEvent) (idle : w.phase event = .store) :
    (w.run (List.replicate (w.engine.sharding.numShards + 3) event)).engine =
      w.engine.addEvent event ∧
    (w.run (List.replicate (w.engine.sharding.numShards + 3) event)).phase event = .done := by
  rw [List.replicate_succ, List.replicate_succ, List.replicate_succ', run_cons, run_cons, run_append]
  have tracking : (w.move event).phase event = .track := by simp [phase_move_self, idle, Phase.advance]
  have scanning : ((w.move event).move event).phase event = .scan 0 := by
    rw [phase_move_self, tracking]
    rfl
  have engine : ((w.move event).move event).engine =
      (w.engine.storeEvent event).trackCorrelation event := by
    rw [move_track _ _ tracking, move_store _ _ idle]
  obtain ⟨scanned, atEnd⟩ := scan_moves ((w.move event).move event) event
    w.engine.sharding.numShards (by simp) scanning
  simp only [move_sharding] at scanned atEnd
  constructor
  · rw [run_cons, run_nil, move_scan_past _ _ _ atEnd (by simp), scanned, engine]
    simp [addEvent, findTemporalCorrelations, EventMap.iter]
  · rw [run_cons, run_nil, phase_move_self, atEnd]
    simp [Phase.advance]

theorem sequential_schedule_run (w : World) (events : List AnalyticsEvent) (nodup : events.Nodup)
    (idle : ∀ event ∈ events, w.phase event = .store) :
    (w.run (events.flatMap fun event =>
      List.replicate (w.engine.sharding.numShards + 3) event)).engine =
      w.engine.run (events.map .addEvent) := by
  induction events generalizing w with
  | nil => rfl
  | cons event rest ih =>
      rw [List.nodup_cons] at nodup
      obtain ⟨solo, -⟩ := solo_run_add_event w event (idle event (by simp))
      have restIdle : ∀ other ∈ rest, (w.run (List.replicate (w.engine.sharding.numShards + 3)
          event)).phase other = .store := fun other listed => by
        rw [phase_run_other _ _ _ (by simp; rintro rfl; exact nodup.1 listed)]
        exact idle other (by simp [listed])
      have blocks := ih _ nodup.2 restIdle
      rw [run_sharding] at blocks
      rw [List.flatMap_cons, run_append, blocks, solo, List.map_cons, CorrelationEngine.run_cons]
      rfl

end World

end CorrelationEngine

end AnalyticsHub.Analytics
