import AnalyticsHub.Resilience.Retry

set_option autoImplicit false

/- Concurrent callers of execute_with_resilience in resilience/mod.rs. Each breaker call holds
   the write guard of the breaker's RwLock for its body, but execute_with_resilience holds
   nothing across its awaits: between one caller's is_available and its record_success or
   record_failure, any number of other callers' breaker calls run. A world holds the breaker,
   where each caller is, and the log of breaker calls in the order the lock granted them, each
   with its caller. A schedule says which caller moves next and at what instant. A caller's
   retries touch no shared state, so they are done within its second move. -/
namespace AnalyticsHub.Resilience

/-- Where a caller of execute_with_resilience is: before its breaker check, let through and
retrying, or returned with its result and the invocations and sleeps it made. -/
inductive Phase (α : Type) where
  | waiting
  | admitted
  | returned (result : Except String α) (effects : List Effect)

/-- Callers sharing one breaker and one retry policy, each with its own operation. -/
structure Callers (ε α : Type) where
  circuitBreaker : CircuitBreaker
  retryPolicy : RetryPolicy
  operation : Nat → Nat → Except ε α

structure World (α : Type) where
  breaker : CircuitBreakerState
  phase : Nat → Phase α
  log : List (Nat × Op)

namespace Op

/-- The instant a record_failure was made at. -/
def failedAt : Op → Option Nat
  | .recordFailure now => some now
  | _ => none

end Op

namespace CircuitBreaker

/-- The instant of the last record_failure of a run. -/
def lastFailureIn (ops : List Op) : Option Nat := ops.reverse.findSome? Op.failedAt

theorem last_failure_in_concat (ops : List Op) (op : Op) :
    lastFailureIn (ops ++ [op]) = op.failedAt.or (lastFailureIn ops) := by
  simp [lastFailureIn, List.findSome?_cons]
  cases op.failedAt <;> rfl

variable {cb : CircuitBreaker} {s : CircuitBreakerState}

theorem is_available_last_failure_time (now : Nat) :
    (cb.isAvailable now s).2.lastFailureTime = s.lastFailureTime := by
  rcases s with ⟨_ | _ | _, failures, successes, _ | last⟩ <;> simp only [isAvailable]
  split <;> rfl

theorem record_success_last_failure_time :
    (recordSuccess s).lastFailureTime = none ∨ (recordSuccess s).lastFailureTime = s.lastFailureTime := by
  rcases s with ⟨_ | _ | _, failures, successes, last⟩ <;> simp only [recordSuccess] <;>
    (try split) <;> simp

theorem record_failure_last_failure_time (now : Nat) :
    (cb.recordFailure now s).lastFailureTime = some now := by
  rcases s with ⟨_ | _ | _, failures, successes, last⟩ <;> simp only [recordFailure]
  split <;> rfl

theorem is_available_closed (now : Nat) (closed : s.state = .closed) :
    cb.isAvailable now s = (true, s) := by
  simp [isAvailable, closed]

theorem is_available_refused (now : Nat) (refused : (cb.isAvailable now s).1 = false) :
    (cb.isAvailable now s).2 = s := by
  rcases s with ⟨_ | _ | _, failures, successes, _ | last⟩ <;> simp only [isAvailable] at refused ⊢
  split
  · simp_all
  · rfl

theorem last_failure_time_run (ops : List Op) :
    (cb.run initialState ops).lastFailureTime = none ∨
      (cb.run initialState ops).lastFailureTime = lastFailureIn ops := by
  induction ops using List.reverseRecOn with
  | nil => exact .inl rfl
  | append_singleton ops op ih =>
      rw [run_concat, last_failure_in_concat]
      cases op with
      | isAvailable now => simpa [step, is_available_last_failure_time, Op.failedAt] using ih
      | recordSuccess =>
          rcases @record_success_last_failure_time (cb.run initialState ops) with cleared | kept
          · exact .inl cleared
          · simpa [step, kept, Op.failedAt] using ih
      | recordFailure now => exact .inr (record_failure_last_failure_time now)
      | reset => exact .inl rfl

end CircuitBreaker

/-- A caller's resilient calls one after another, each on the breaker the one before left:
for each call, its operation and the instants of its check and of its record. -/
def resilientRun {ε α : Type} [ToString ε] (cb : CircuitBreaker) (p : RetryPolicy)
    (s : CircuitBreakerState) :
    List ((Nat → Except ε α) × Nat × Nat) → List (Except String α × List Effect) × CircuitBreakerState
  | [] => ([], s)
  | (operation, checkedAt, finishedAt) :: calls =>
      let r := executeWithResilience cb p operation checkedAt finishedAt s
      let rest := resilientRun cb p (cb.run s r.2.2) calls
      ((r.1, r.2.1) :: rest.1, rest.2)

section Sequential

variable {ε α : Type} [ToString ε] (cb : CircuitBreaker) (p : RetryPolicy)

theorem resilient_run_append (s : CircuitBreakerState)
    (calls more : List ((Nat → Except ε α) × Nat × Nat)) :
    resilientRun cb p s (calls ++ more) =
      ((resilientRun cb p s calls).1 ++ (resilientRun cb p (resilientRun cb p s calls).2 more).1,
        (resilientRun cb p (resilientRun cb p s calls).2 more).2) := by
  induction calls generalizing s with
  | nil => rfl
  | cons call calls ih => simp [resilientRun, ih]

theorem execute_with_resilience_failing_closed (operation : Nat → Except ε α)
    (checkedAt finishedAt : Nat) (s : CircuitBreakerState) (closed : s.state = .closed)
    (failing : ∀ i, (operation i).toBool = false) :
    let r := executeWithResilience cb p operation checkedAt finishedAt s
    r.1.toBool = false ∧ r.2.1 = retryTrace ((List.range (max 1 p.maxAttempts - 1)).map p.delayAt) ∧
      cb.run s r.2.2 = cb.recordFailure finishedAt s := by
  have available : (cb.isAvailable checkedAt s).1 = true := by
    rw [CircuitBreaker.is_available_closed checkedAt closed]
  obtain ⟨failed, trace, record⟩ := retry_and_record_failing p operation finishedAt failing
  rw [execute_with_resilience_available cb p operation checkedAt finishedAt s available]
  exact ⟨failed, trace, by simp [record, CircuitBreaker.step,
    CircuitBreaker.is_available_closed checkedAt closed]⟩

theorem resilient_run_failing_closed (failures : Nat) (last : Option Nat)
    (calls : List ((Nat → Except ε α) × Nat × Nat))
    (failing : ∀ call ∈ calls, ∀ i, (call.1 i).toBool = false)
    (below : failures + calls.length < cb.failureThreshold) :
    (resilientRun cb p ⟨.closed, failures, 0, last⟩ calls).1.length = calls.length ∧
    (∀ out ∈ (resilientRun cb p ⟨.closed, failures, 0, last⟩ calls).1, out.1.toBool = false ∧
      out.2 = retryTrace ((List.range (max 1 p.maxAttempts - 1)).map p.delayAt)) ∧
    ∃ last', (resilientRun cb p ⟨.closed, failures, 0, last⟩ calls).2 =
      ⟨.closed, failures + calls.length, 0, last'⟩ := by
  induction calls generalizing failures last with
  | nil => exact ⟨rfl, nofun, last, rfl⟩
  | cons call calls ih =>
      obtain ⟨operation, checkedAt, finishedAt⟩ := call
      obtain ⟨failed, trace, recorded⟩ := execute_with_resilience_failing_closed cb p operation
        checkedAt finishedAt ⟨.closed, failures, 0, last⟩ rfl (failing _ (List.mem_cons_self _ _))
      have next : cb.recordFailure finishedAt ⟨.closed, failures, 0, last⟩ =
          ⟨.closed, failures + 1, 0, some finishedAt⟩ := by
        simp only [List.length_cons] at below
        simp [CircuitBreaker.recordFailure, show ¬ failures + 1 ≥ cb.failureThreshold by omega]
      obtain ⟨length, outs, last', after⟩ := ih (failures + 1) (some finishedAt)
        (fun call member => failing call (List.mem_cons_of_mem _ member))
        (by simp only [List.length_cons] at below; omega)
      simp only [resilientRun, recorded, next, List.length_cons, List.mem_cons, forall_eq_or_imp]
      exact ⟨by rw [length], ⟨⟨failed, trace⟩, outs⟩, last',
        by rw [after, show failures + 1 + calls.length = failures + (calls.length + 1) by omega]⟩

theorem resilient_run_open (s : CircuitBreakerState) (last : Nat) (opened : s.state = .«open»)
    (recorded : s.lastFailureTime = some last) (calls : List ((Nat → Except ε α) × Nat × Nat))
    (soon : ∀ call ∈ calls, call.2.1 - last ≤ cb.timeout) :
    resilientRun cb p s calls = (calls.map fun _ => (.error "Circuit breaker is open", []), s) := by
  induction calls with
  | nil => rfl
  | cons call calls ih =>
      obtain ⟨operation, checkedAt, finishedAt⟩ := call
      have refused : (cb.isAvailable checkedAt s).1 = false :=
        (CircuitBreaker.open_is_available checkedAt last opened recorded).mpr
          (soon _ (List.mem_cons_self _ _))
      simp [resilientRun, execute_with_resilience_unavailable cb p operation checkedAt finishedAt s
        refused, CircuitBreaker.step, CircuitBreaker.is_available_refused checkedAt refused,
        ih fun call member => soon call (List.mem_cons_of_mem _ member)]

/-- Retries and the breaker together, for calls whose operation always fails: the breaker
counts calls, not attempts, so it opens on the threshold-th call, after every one of those
calls made all its attempts with all its sleeps; every later call that checks within the
timeout of the last failure is refused without an attempt. -/
theorem failing_calls_open_breaker (first : List ((Nat → Except ε α) × Nat × Nat))
    (final : (Nat → Except ε α) × Nat × Nat) (later : List ((Nat → Except ε α) × Nat × Nat))
    (threshold : first.length + 1 = cb.failureThreshold)
    (failing : ∀ call ∈ first ++ final :: later, ∀ i, (call.1 i).toBool = false)
    (soon : ∀ call ∈ later, call.2.1 - final.2.2 ≤ cb.timeout) :
    (resilientRun cb p CircuitBreaker.initialState (first ++ final :: later)).2 =
        ⟨.«open», cb.failureThreshold, 0, some final.2.2⟩ ∧
    ∃ opening : List (Except String α × List Effect),
      (resilientRun cb p CircuitBreaker.initialState (first ++ final :: later)).1 =
        opening ++ later.map (fun _ => (.error "Circuit breaker is open", [])) ∧
      opening.length = cb.failureThreshold ∧
      ∀ out ∈ opening, out.1.toBool = false ∧
        out.2 = retryTrace ((List.range (max 1 p.maxAttempts - 1)).map p.delayAt) := by
  obtain ⟨length, outs, last, closed⟩ := resilient_run_failing_closed cb p 0 none first
    (fun call member => failing call (List.mem_append_left _ member)) (by omega)
  obtain ⟨operation, checkedAt, finishedAt⟩ := final
  obtain ⟨failed, trace, recorded⟩ := execute_with_resilience_failing_closed cb p operation
    checkedAt finishedAt ⟨.closed, first.length, 0, last⟩ rfl
    (failing (operation, checkedAt, finishedAt) (by simp))
  have opens : cb.recordFailure finishedAt ⟨.closed, first.length, 0, last⟩ =
      ⟨.«open», cb.failureThreshold, 0, some finishedAt⟩ := by
    simp [CircuitBreaker.recordFailure, threshold]
  have refused := resilient_run_open cb p ⟨.«open», cb.failureThreshold, 0, some finishedAt⟩
    finishedAt rfl rfl later soon
  simp only [Nat.zero_add] at closed
  rw [CircuitBreaker.initialState, resilient_run_append, closed]
  simp only [resilientRun, recorded, opens, refused, true_and]
  refine ⟨_, List.append_cons _ _ _, by simp [length, threshold], ?_⟩
  simp only [List.mem_append, List.mem_singleton]
  rintro out (earlier | rfl)
  exacts [outs out earlier, ⟨failed, trace⟩]

/-- Three calls of a down operation with a threshold of two and three attempts a call: two
calls of three attempts each open the breaker, and the third call is refused. -/
theorem failing_calls_open_breaker_threshold_two :
    let down : Nat → Except String Unit := fun _ => .error "down"
    let cb : CircuitBreaker := ⟨2, 100⟩
    let p := RetryPolicy.new 3 100 2
    [(down, 0, 5)].length + 1 = cb.failureThreshold ∧
    (∀ call ∈ [(down, 0, 5)] ++ (down, 10, 20) :: [(down, 50, 60)], ∀ i, (call.1 i).toBool = false) ∧
    (∀ call ∈ [(down, 50, 60)], call.2.1 - (down, 10, 20).2.2 ≤ cb.timeout) ∧
    (resilientRun cb p CircuitBreaker.initialState ([(down, 0, 5)] ++ (down, 10, 20) :: [(down, 50, 60)])).2 =
        ⟨.«open», cb.failureThreshold, 0, some (down, 10, 20).2.2⟩ ∧
    ∃ opening : List (Except String Unit × List Effect),
      (resilientRun cb p CircuitBreaker.initialState
          ([(down, 0, 5)] ++ (down, 10, 20) :: [(down, 50, 60)])).1 =
        opening ++ [(down, 50, 60)].map (fun _ => (.error "Circuit breaker is open", [])) ∧
      opening.length = cb.failureThreshold ∧
      ∀ out ∈ opening, out.1.toBool = false ∧
        out.2 = retryTrace ((List.range (max 1 p.maxAttempts - 1)).map p.delayAt) := by
  intro down cb p
  have failing : ∀ call ∈ [(down, 0, 5)] ++ (down, 10, 20) :: [(down, 50, 60)], ∀ i,
      (call.1 i).toBool = false := by
    simp [down, Except.toBool]
  exact ⟨rfl, failing, by decide,
    failing_calls_open_breaker cb p _ _ _ rfl failing (by decide)⟩

end Sequential

namespace Callers

variable {ε α : Type} [ToString ε]

def start (s : CircuitBreakerState) : World α := ⟨s, fun _ => .waiting, []⟩

/-- One move of a caller at the instant now: its is_available, or its retries and their
record; a caller that returned does nothing. -/
def move (ω : Callers ε α) (w : World α) (caller now : Nat) : World α :=
  match w.phase caller with
  | .waiting =>
      let checked := ω.circuitBreaker.isAvailable now w.breaker
      ⟨checked.2,
        Function.update w.phase caller
          (if checked.1 then .admitted else .returned (.error "Circuit breaker is open") []),
        w.log ++ [(caller, .isAvailable now)]⟩
  | .admitted =>
      let finished := retryAndRecord ω.retryPolicy (ω.operation caller) now
      ⟨ω.circuitBreaker.step w.breaker finished.2.2,
        Function.update w.phase caller (.returned finished.1 finished.2.1),
        w.log ++ [(caller, finished.2.2)]⟩
  | .returned _ _ => w

def run (ω : Callers ε α) (w : World α) (schedule : List (Nat × Nat)) : World α :=
  schedule.foldl (fun w next => ω.move w next.1 next.2) w

theorem move_waiting (ω : Callers ε α) (w : World α) (caller now : Nat)
    (waiting : w.phase caller = .waiting) :
    ω.move w caller now =
      ⟨(ω.circuitBreaker.isAvailable now w.breaker).2,
        Function.update w.phase caller
          (if (ω.circuitBreaker.isAvailable now w.breaker).1 then .admitted
            else .returned (.error "Circuit breaker is open") []),
        w.log ++ [(caller, .isAvailable now)]⟩ := by
  simp only [move, waiting]

theorem move_admitted (ω : Callers ε α) (w : World α) (caller now : Nat)
    (admitted : w.phase caller = .admitted) :
    ω.move w caller now =
      let finished := retryAndRecord ω.retryPolicy (ω.operation caller) now
      ⟨ω.circuitBreaker.step w.breaker finished.2.2,
        Function.update w.phase caller (.returned finished.1 finished.2.1),
        w.log ++ [(caller, finished.2.2)]⟩ := by
  simp only [move, admitted]

theorem move_returned (ω : Callers ε α) (w : World α) (caller now : Nat)
    (result : Except String α) (effects : List Effect)
    (returned : w.phase caller = .returned result effects) : ω.move w caller now = w := by
  simp only [move, returned]

theorem breaker_move (ω : Callers ε α) (s : CircuitBreakerState) (w : World α) (caller now : Nat)
    (logged : w.breaker = ω.circuitBreaker.run s (w.log.map Prod.snd)) :
    (ω.move w caller now).breaker = ω.circuitBreaker.run s ((ω.move w caller now).log.map Prod.snd) := by
  cases phase : w.phase caller with
  | waiting => simp [move_waiting ω w caller now phase, logged, CircuitBreaker.step]
  | admitted => simp [move_admitted ω w caller now phase, logged]
  | returned result effects => rwa [move_returned ω w caller now result effects phase]

theorem breaker_run (ω : Callers ε α) (s : CircuitBreakerState) (schedule : List (Nat × Nat)) :
    (ω.run (start s) schedule).breaker =
      ω.circuitBreaker.run s ((ω.run (start s) schedule).log.map Prod.snd) := by
  suffices from_any : ∀ w : World α, w.breaker = ω.circuitBreaker.run s (w.log.map Prod.snd) →
      (ω.run w schedule).breaker = ω.circuitBreaker.run s ((ω.run w schedule).log.map Prod.snd) from
    from_any (start s) rfl
  induction schedule with
  | nil => exact fun _ logged => logged
  | cons next rest ih => exact fun w logged => ih _ (breaker_move ω s w next.1 next.2 logged)

theorem move_waiting_phase (ω : Callers ε α) (w : World α) (caller now : Nat)
    (waiting : w.phase caller = .waiting) :
    (ω.move w caller now).phase caller =
      if (ω.circuitBreaker.isAvailable now w.breaker).1 then .admitted
      else .returned (.error "Circuit breaker is open") [] := by
  rw [move_waiting ω w caller now waiting]
  exact Function.update_same _ _ _

/-- The breaker's reachable-state invariant holds at every point of every interleaving of
resilient callers: each breaker call is atomic, so the breaker only ever goes through a run of
its own calls, whatever the callers do between them. -/
theorem callers_breaker_invariant (ω : Callers ε α)
    (positive : 1 ≤ ω.circuitBreaker.failureThreshold) (schedule : List (Nat × Nat)) :
    ω.circuitBreaker.Invariant (ω.run (start CircuitBreaker.initialState) schedule).breaker := by
  rw [breaker_run ω CircuitBreaker.initialState schedule]
  exact CircuitBreaker.reachable_invariant positive _

theorem callers_breaker_invariant_two_callers :
    let ω : Callers String Unit := ⟨⟨1, 100⟩, RetryPolicy.new 1 0 1, fun _ _ => .error "down"⟩
    1 ≤ ω.circuitBreaker.failureThreshold ∧
    ω.circuitBreaker.Invariant
      (ω.run (start CircuitBreaker.initialState) [(0, 0), (1, 0), (0, 10), (1, 50)]).breaker :=
  ⟨by decide, callers_breaker_invariant _ (by decide) _⟩

/-- No record_failure is lost or counted twice across interleavings: whenever the shared breaker
is closed, its failure count is the number of failures all callers recorded since the last
success or reset, in the order the lock granted their calls. -/
theorem callers_no_lost_failure (ω : Callers ε α) (schedule : List (Nat × Nat))
    (closed : (ω.run (start CircuitBreaker.initialState) schedule).breaker.state = .closed) :
    (ω.run (start CircuitBreaker.initialState) schedule).breaker.failureCount =
      CircuitBreaker.failureRun ((ω.run (start CircuitBreaker.initialState) schedule).log.map Prod.snd) := by
  have breaker := breaker_run ω CircuitBreaker.initialState schedule
  rw [breaker] at closed ⊢
  exact CircuitBreaker.closed_failure_count _ closed

/-- Two callers of a down operation, each let through before the other records: both failures
are counted. -/
theorem callers_no_lost_failure_two_callers :
    let ω : Callers String Unit := ⟨⟨3, 100⟩, RetryPolicy.new 1 0 1, fun _ _ => .error "down"⟩
    let w := ω.run (start CircuitBreaker.initialState) [(0, 0), (1, 0), (0, 10), (1, 50)]
    w.breaker.state = .closed ∧ w.breaker.failureCount = 2 ∧
      w.breaker.failureCount = CircuitBreaker.failureRun (w.log.map Prod.snd) := by
  intro ω w
  have retry := fun t => (retry_and_record_failing ω.retryPolicy (ω.operation 0) t (fun _ => rfl)).2.2
  have breaker : w.breaker = ⟨.closed, 2, 0, some 50⟩ := by
    simp [w, Callers.run, move, start, Function.update, CircuitBreaker.isAvailable,
      CircuitBreaker.initialState, CircuitBreaker.step, CircuitBreaker.recordFailure, ω] at retry ⊢
    simp [retry]
  exact ⟨by rw [breaker], by rw [breaker], callers_no_lost_failure ω _ (by rw [breaker])⟩

/-- Under every schedule from a fresh breaker, an open breaker stays open until its timeout has
passed since the last failure any caller recorded, even a caller let through before it
opened: a caller that checks at now is let through exactly when the timeout has passed. -/
theorem open_until_last_failure (ω : Callers ε α)
    (positive : 1 ≤ ω.circuitBreaker.failureThreshold) (schedule : List (Nat × Nat))
    (opened : (ω.run (start CircuitBreaker.initialState) schedule).breaker.state = .«open») :
    ∃ last, CircuitBreaker.lastFailureIn
        ((ω.run (start CircuitBreaker.initialState) schedule).log.map Prod.snd) = some last ∧
      ∀ caller now, (ω.run (start CircuitBreaker.initialState) schedule).phase caller = .waiting →
        ((ω.move (ω.run (start CircuitBreaker.initialState) schedule) caller now).phase caller = .admitted ↔
          ω.circuitBreaker.timeout < now - last) := by
  have breaker := breaker_run ω CircuitBreaker.initialState schedule
  generalize ω.run (start CircuitBreaker.initialState) schedule = w at breaker opened ⊢
  have inv := CircuitBreaker.reachable_invariant positive (w.log.map Prod.snd)
  rw [← breaker] at inv
  obtain ⟨last, recorded⟩ :=
    Option.isSome_iff_exists.mp ((CircuitBreaker.invariant_cases inv).1 opened).1
  have logged : CircuitBreaker.lastFailureIn (w.log.map Prod.snd) = some last := by
    rcases @CircuitBreaker.last_failure_time_run ω.circuitBreaker (w.log.map Prod.snd)
      with cleared | same
    · rw [← breaker, recorded] at cleared
      cases cleared
    · rw [← breaker, recorded] at same
      exact same.symm
  refine ⟨last, logged, fun caller now waiting => ?_⟩
  have rejects := @CircuitBreaker.open_is_available ω.circuitBreaker _ now last opened recorded
  rw [move_waiting_phase ω w caller now waiting]
  cases available : (ω.circuitBreaker.isAvailable now w.breaker).1 <;>
    simp [available] at rejects ⊢ <;> omega

/-- Two callers let through a closed breaker with a threshold of one: the first failure opens
it at 10, and the second caller's failure, recorded at 50 while it is open, moves the instant
its timeout counts from to 50. -/
theorem open_until_last_failure_stale :
    let ω : Callers String Unit := ⟨⟨1, 100⟩, RetryPolicy.new 1 0 1, fun _ _ => .error "down"⟩
    let w := ω.run (start CircuitBreaker.initialState) [(0, 0), (1, 0), (0, 10), (1, 50)]
    1 ≤ ω.circuitBreaker.failureThreshold ∧ w.breaker = ⟨.«open», 2, 0, some 50⟩ ∧
    ∃ last, CircuitBreaker.lastFailureIn (w.log.map Prod.snd) = some last ∧
      ∀ caller now, w.phase caller = .waiting →
        ((ω.move w caller now).phase caller = .admitted ↔ ω.circuitBreaker.timeout < now - last) := by
  intro ω w
  have retry := fun t => (retry_and_record_failing ω.retryPolicy (ω.operation 0) t (fun _ => rfl)).2.2
  have breaker : w.breaker = ⟨.«open», 2, 0, some 50⟩ := by
    simp [w, Callers.run, move, start, Function.update, CircuitBreaker.isAvailable,
      CircuitBreaker.initialState, CircuitBreaker.step, CircuitBreaker.recordFailure, ω] at retry ⊢
    simp [retry]
  exact ⟨by decide, breaker, open_until_last_failure ω (by decide) _ (by rw [breaker])⟩

end Callers

end AnalyticsHub.Resilience
