import AnalyticsHub.Resilience.BreakerRuns
import AnalyticsHub.Resilience.Binary64
import Mathlib.Algebra.Order.BigOperators.Group.List

set_option autoImplicit false

/- RetryPolicy of resilience/retry.rs and execute_with_resilience of resilience/mod.rs.
   Delays are millisecond counts and the multiplier is an f64: the backoff converts the delay to
   f64, multiplies, rounding to nearest, and casts back to u64 (Binary64). The operation is the
   sequence of outcomes its successive invocations return, and what execute does that a caller
   sees, its invocations and the sleeps between them, is returned in order beside the result.
   The log lines and the time the sleeps take are left out. -/
namespace AnalyticsHub.Resilience

structure RetryPolicy where
  maxAttempts : Nat
  initialDelay : Nat
  maxDelay : Nat
  multiplier : F64
deriving DecidableEq

inductive Effect where
  | invoke
  | sleep (millis : Nat)
deriving DecidableEq, Repr

namespace RetryPolicy

variable {ε α : Type}

def new (maxAttempts initialDelayMs : Nat) (multiplier : F64) : RetryPolicy :=
  ⟨maxAttempts, initialDelayMs, 30000, multiplier⟩

def default : RetryPolicy := new 3 100 2

-- Exponential backoff: from_millis((delay.as_millis() as f64 * multiplier) as u64).min(max_delay).
def nextDelay (p : RetryPolicy) (delay : Nat) : Nat :=
  min (F64.ofNat delay * p.multiplier).toU64 p.maxDelay

-- The f64 nearest 1.15 is 5179139571476070 · 2^-52: 20 ms backs off to 23 ms, the product
-- rounding up to 23.0, and 100 ms to 114 ms.
example : (new 3 20 ⟨false, 5179139571476070, -52, by decide⟩).nextDelay 20 = 23 ∧
    (new 3 100 ⟨false, 5179139571476070, -52, by decide⟩).nextDelay 100 = 114 := by decide

/-- The loop of execute after attempts invocations, with delay the sleep after the next
failure. -/
def executeLoop (p : RetryPolicy) (operation : Nat → Except ε α) (attempts delay : Nat) :
    Except ε α × List Effect :=
  match operation attempts with
  | .ok result => (.ok result, [.invoke])
  | .error err =>
      if attempts + 1 ≥ p.maxAttempts then (.error err, [.invoke])
      else
        let rest := p.executeLoop operation (attempts + 1) (p.nextDelay delay)
        (rest.1, .invoke :: .sleep delay :: rest.2)
termination_by p.maxAttempts - attempts

def execute (p : RetryPolicy) (operation : Nat → Except ε α) : Except ε α × List Effect :=
  p.executeLoop operation 0 p.initialDelay

/-- The sleep before retry i + 1: the initial delay, then one backoff step per retry. -/
def delayAt (p : RetryPolicy) (i : Nat) : Nat := p.nextDelay^[i] p.initialDelay

end RetryPolicy

/-- A run of invocations with one sleep between each two: invoke, sleep, invoke, ..., invoke. -/
def retryTrace (sleeps : List Nat) : List Effect :=
  (sleeps.flatMap fun d => [.invoke, .sleep d]) ++ [.invoke]

theorem retry_trace_cons (d : Nat) (sleeps : List Nat) :
    retryTrace (d :: sleeps) = .invoke :: .sleep d :: retryTrace sleeps := rfl

theorem count_invoke_retry_trace (sleeps : List Nat) :
    (retryTrace sleeps).count .invoke = sleeps.length + 1 := by
  induction sleeps with
  | nil => rfl
  | cons d sleeps ih => simp [retry_trace_cons, List.count_cons, ih]

/-- The milliseconds an effect spends asleep. -/
def Effect.sleptMillis : Effect → Nat
  | .invoke => 0
  | .sleep millis => millis

theorem slept_retry_trace (sleeps : List Nat) :
    ((retryTrace sleeps).map Effect.sleptMillis).sum = sleeps.sum := by
  induction sleeps with
  | nil => rfl
  | cons d sleeps ih => simp [retry_trace_cons, Effect.sleptMillis, ih]

namespace RetryPolicy

variable {ε α : Type}

theorem execute_loop_spec (p : RetryPolicy) (operation : Nat → Except ε α) (attempts delay : Nat) :
    ∃ j, (∀ i < j, (operation (attempts + i)).toBool = false) ∧
      ((operation (attempts + j)).toBool = true ∨ p.maxAttempts ≤ attempts + j + 1) ∧
      (j = 0 ∨ attempts + j < p.maxAttempts) ∧
      p.executeLoop operation attempts delay =
        (operation (attempts + j), retryTrace ((List.range j).map fun i => p.nextDelay^[i] delay)) := by
  induction attempts, delay using executeLoop.induct p operation with
  | case1 attempts delay result succeeded =>
      refine ⟨0, nofun, .inl (by simp [succeeded, Except.toBool]), .inl rfl, ?_⟩
      rw [Nat.add_zero, executeLoop, succeeded]
      rfl
  | case2 attempts delay err failed last =>
      refine ⟨0, nofun, .inr last, .inl rfl, ?_⟩
      rw [Nat.add_zero, executeLoop, failed]
      exact if_pos last
  | case3 attempts delay err failed more ih =>
      obtain ⟨j, leading, stops, bounded, loop⟩ := ih
      refine ⟨j + 1, fun i below => ?_, by simpa [Nat.add_right_comm, Nat.add_assoc] using stops,
        .inr (by omega), ?_⟩
      · cases i with
        | zero => simp [failed, Except.toBool]
        | succ i => simpa [Nat.add_right_comm, Nat.add_assoc] using leading i (by omega)
      · rw [executeLoop, failed]
        dsimp only
        rw [if_neg more, loop, List.range_succ_eq_map]
        simp [retry_trace_cons, Nat.add_right_comm, Nat.add_assoc, Function.comp_def,
          Function.iterate_succ_apply]

theorem execute_law (p : RetryPolicy) (operation : Nat → Except ε α) (k : Nat)
    (leading : ∀ i < k, (operation i).toBool = false)
    (stops : (operation k).toBool = true ∨ max 1 p.maxAttempts ≤ k) :
    p.execute operation =
      (operation (min k (max 1 p.maxAttempts - 1)),
        retryTrace ((List.range (min k (max 1 p.maxAttempts - 1))).map p.delayAt)) := by
  obtain ⟨j, failures, stopped, bounded, loop⟩ := execute_loop_spec p operation 0 p.initialDelay
  simp only [Nat.zero_add] at failures stopped bounded loop
  have count : j = min k (max 1 p.maxAttempts - 1) := by
    have notPast : j ≤ k := by
      by_contra past
      have failedAtK := failures k (by omega)
      rcases stops with succeeded | beyond
      · rw [succeeded] at failedAtK
        exact Bool.noConfusion failedAtK
      · omega
    rcases stopped with succeeded | last
    · have reached : k ≤ j := by
        by_contra before
        rw [leading j (by omega)] at succeeded
        exact Bool.noConfusion succeeded
      omega
    · omega
  subst count
  exact loop

theorem invocations_execute (p : RetryPolicy) (operation : Nat → Except ε α) (k : Nat)
    (leading : ∀ i < k, (operation i).toBool = false)
    (stops : (operation k).toBool = true ∨ max 1 p.maxAttempts ≤ k) :
    (p.execute operation).2.count .invoke = min (k + 1) (max 1 p.maxAttempts) := by
  rw [execute_law p operation k leading stops, count_invoke_retry_trace, List.length_map,
    List.length_range]
  omega

theorem delay_at_succ (p : RetryPolicy) (i : Nat) :
    p.delayAt (i + 1) = p.nextDelay (p.delayAt i) :=
  Function.iterate_succ_apply' _ _ _

theorem delay_at_succ_le (p : RetryPolicy) (i : Nat) : p.delayAt (i + 1) ≤ p.maxDelay := by
  rw [delay_at_succ]
  exact min_le_right _ _

theorem next_delay_ge (p : RetryPolicy) (delay : Nat) (capped : delay ≤ p.maxDelay)
    (exact : p.maxDelay < 2 ^ 53) (growing : 1 ≤ p.multiplier.toRat) : delay ≤ p.nextDelay delay :=
  le_min (F64.le_to_u64_mul delay (by omega) p.multiplier growing) capped

theorem delay_at_monotone (p : RetryPolicy) (capped : p.initialDelay ≤ p.maxDelay)
    (exact : p.maxDelay < 2 ^ 53) (growing : 1 ≤ p.multiplier.toRat) :
    Monotone p.delayAt ∧ ∀ i, p.delayAt i ≤ p.maxDelay := by
  have bounded : ∀ i, p.delayAt i ≤ p.maxDelay
    | 0 => capped
    | i + 1 => p.delay_at_succ_le i
  refine ⟨monotone_nat_of_le_succ fun i => ?_, bounded⟩
  rw [delay_at_succ]
  exact p.next_delay_ge _ (bounded i) exact growing

theorem sum_delay_at_le (p : RetryPolicy) (j : Nat) :
    ((List.range (j + 1)).map p.delayAt).sum ≤ p.initialDelay + j * p.maxDelay := by
  rw [List.range_succ_eq_map, List.map_cons, List.sum_cons, List.map_map]
  have capped : ∀ d ∈ (List.range j).map (p.delayAt ∘ Nat.succ), d ≤ p.maxDelay := by
    simp only [List.mem_map, Function.comp_apply]
    rintro _ ⟨i, -, rfl⟩
    exact p.delay_at_succ_le i
  have retried := List.sum_le_card_nsmul _ _ capped
  rw [List.length_map, List.length_range, smul_eq_mul] at retried
  exact Nat.add_le_add_left retried _

/-- However the operation behaves, execute sleeps at most the initial delay and then max_delay
before each further attempt: the time a caller waits on top of its invocations is bounded by
the policy alone. -/
theorem execute_sleep_budget (p : RetryPolicy) (operation : Nat → Except ε α) :
    ((p.execute operation).2.map Effect.sleptMillis).sum ≤
      if p.maxAttempts ≤ 1 then 0 else p.initialDelay + (p.maxAttempts - 2) * p.maxDelay := by
  obtain ⟨j, -, -, bounded, loop⟩ := execute_loop_spec p operation 0 p.initialDelay
  rw [execute, loop, slept_retry_trace]
  rcases j with _ | retries
  · exact Nat.zero_le _
  · have more : ¬p.maxAttempts ≤ 1 := by omega
    rw [if_neg more]
    calc ((List.range (retries + 1)).map p.delayAt).sum
        ≤ p.initialDelay + retries * p.maxDelay := p.sum_delay_at_le retries
      _ ≤ p.initialDelay + (p.maxAttempts - 2) * p.maxDelay :=
        Nat.add_le_add_left (Nat.mul_le_mul_right _ (by omega)) _

/-- RetryPolicy::new(3, 60000, 2.0) on an operation that fails twice and then succeeds: it
sleeps 60 s, above the 30 s max_delay, and then 30 s, shorter than the sleep before it. Only
the delays the backoff computes are capped, not the initial one. -/
theorem execute_initial_delay_uncapped :
    (new 3 60000 2).execute
        (fun i => if i < 2 then (.error "unavailable" : Except String Unit) else .ok ()) =
      (.ok (), [.invoke, .sleep 60000, .invoke, .sleep 30000, .invoke]) ∧
    (new 3 60000 2).maxDelay < 60000 ∧ 30000 < 60000 := by
  refine ⟨(execute_law _ _ 2 (fun i below => ?_) (.inl ?_)).trans ?_, by decide, by decide⟩
  · simp [below, Except.toBool]
  · rfl
  · have sleeps : (List.range (min 2 (max 1 (new 3 60000 2).maxAttempts - 1))).map (new 3 60000 2).delayAt =
        [60000, 30000] := by decide
    rw [sleeps]
    rfl

end RetryPolicy

variable {ε α : Type}

/-- What execute_with_resilience does once the breaker let it through: the retries, the result
it returns, and the breaker call that records their outcome at finishedAt. -/
def retryAndRecord [ToString ε] (retryPolicy : RetryPolicy) (operation : Nat → Except ε α)
    (finishedAt : Nat) : Except String α × List Effect × Op :=
  match retryPolicy.execute operation with
  | (.ok result, effects) => (.ok result, effects, .recordSuccess)
  | (.error err, effects) =>
      (.error ("Operation failed: " ++ toString err), effects, .recordFailure finishedAt)

/-- execute_with_resilience: its result, what execute did, and the breaker calls it made in
order, which CircuitBreaker.run applies to the breaker's state. The breaker is asked at
checkedAt and a failure is recorded at finishedAt, after the retries. -/
def executeWithResilience [ToString ε] (circuitBreaker : CircuitBreaker)
    (retryPolicy : RetryPolicy) (operation : Nat → Except ε α) (checkedAt finishedAt : Nat)
    (s : CircuitBreakerState) : Except String α × List Effect × List Op :=
  if !(circuitBreaker.isAvailable checkedAt s).1 then
    (.error "Circuit breaker is open", [], [.isAvailable checkedAt])
  else
    let (result, effects, record) := retryAndRecord retryPolicy operation finishedAt
    (result, effects, [.isAvailable checkedAt, record])

theorem execute_with_resilience_unavailable [ToString ε] (cb : CircuitBreaker) (p : RetryPolicy)
    (operation : Nat → Except ε α) (checkedAt finishedAt : Nat) (s : CircuitBreakerState)
    (unavailable : (cb.isAvailable checkedAt s).1 = false) :
    executeWithResilience cb p operation checkedAt finishedAt s =
      (.error "Circuit breaker is open", [], [.isAvailable checkedAt]) := by
  simp [executeWithResilience, unavailable]

theorem execute_with_resilience_available [ToString ε] (cb : CircuitBreaker) (p : RetryPolicy)
    (operation : Nat → Except ε α) (checkedAt finishedAt : Nat) (s : CircuitBreakerState)
    (available : (cb.isAvailable checkedAt s).1 = true) :
    executeWithResilience cb p operation checkedAt finishedAt s =
      let finished := retryAndRecord p operation finishedAt
      (finished.1, finished.2.1, [.isAvailable checkedAt, finished.2.2]) := by
  simp [executeWithResilience, available]

theorem retry_and_record_failing [ToString ε] (p : RetryPolicy) (operation : Nat → Except ε α)
    (finishedAt : Nat) (failing : ∀ i, (operation i).toBool = false) :
    (retryAndRecord p operation finishedAt).1.toBool = false ∧
      (retryAndRecord p operation finishedAt).2.1 =
        retryTrace ((List.range (max 1 p.maxAttempts - 1)).map p.delayAt) ∧
      (retryAndRecord p operation finishedAt).2.2 = .recordFailure finishedAt := by
  have law := p.execute_law operation (max 1 p.maxAttempts) (fun i _ => failing i) (.inr le_rfl)
  rw [min_eq_right (Nat.sub_le _ _)] at law
  cases failed : operation (max 1 p.maxAttempts - 1) with
  | ok result => exact absurd (failing (max 1 p.maxAttempts - 1)) (by simp [failed, Except.toBool])
  | error err => simp [retryAndRecord, law, failed, Except.toBool]

theorem execute_with_resilience_records [ToString ε] (cb : CircuitBreaker) (p : RetryPolicy)
    (operation : Nat → Except ε α) (checkedAt finishedAt : Nat) (s : CircuitBreakerState) :
    let r := executeWithResilience cb p operation checkedAt finishedAt s
    r.2.2.head? = some (.isAvailable checkedAt) ∧
    r.1.toBool = ((cb.isAvailable checkedAt s).1 && (p.execute operation).1.toBool) ∧
    if (cb.isAvailable checkedAt s).1 then
      r.2.1 = (p.execute operation).2 ∧
      r.2.2.countP (fun op => op.isSuccess || op.isFailure) = 1 ∧
      r.2.2.countP Op.isSuccess = if (p.execute operation).1.toBool then 1 else 0
    else r.2.1.count .invoke = 0 ∧ r.2.2.countP (fun op => op.isSuccess || op.isFailure) = 0 := by
  unfold executeWithResilience retryAndRecord
  cases (cb.isAvailable checkedAt s).1 with
  | false => simp [Op.isSuccess, Op.isFailure, Except.toBool]
  | true =>
      obtain ⟨result, effects⟩ := p.execute operation
      cases result <;> simp [Op.isSuccess, Op.isFailure, Except.toBool]

end AnalyticsHub.Resilience
