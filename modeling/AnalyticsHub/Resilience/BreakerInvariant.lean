import AnalyticsHub.Resilience.CircuitBreaker

set_option autoImplicit false

namespace AnalyticsHub.Resilience.CircuitBreaker

/-- What each circuit state guarantees about the counters of a reachable breaker. -/
def Invariant (cb : CircuitBreaker) (s : CircuitBreakerState) : Prop :=
  match s.state with
  | .«open» => s.lastFailureTime.isSome ∧ s.successCount = 0
  | .closed => s.failureCount < cb.failureThreshold ∧ s.successCount = 0
  | .halfOpen => s.failureCount = 0 ∧ s.successCount < 3

variable {cb : CircuitBreaker} {s : CircuitBreakerState}

theorem initial_invariant (positive : 1 ≤ cb.failureThreshold) : Invariant cb initialState :=
  ⟨positive, rfl⟩

theorem is_available_invariant (now : Nat) (inv : Invariant cb s) :
    Invariant cb (cb.isAvailable now s).2 := by
  rcases s with ⟨_ | _ | _, failures, successes, _ | last⟩ <;>
    simp only [isAvailable] <;> try exact inv
  split
  · simp [Invariant]
  · exact inv

theorem record_success_invariant (positive : 1 ≤ cb.failureThreshold) (inv : Invariant cb s) :
    Invariant cb (recordSuccess s) := by
  rcases s with ⟨_ | _ | _, failures, successes, last⟩
  · exact ⟨Nat.lt_of_le_of_lt (Nat.zero_le _) inv.1, inv.2⟩
  · exact inv
  · by_cases full : successes + 1 ≥ 3 <;>
      simp [recordSuccess, Invariant, full] at inv ⊢ <;> omega

theorem record_failure_invariant (now : Nat) (inv : Invariant cb s) :
    Invariant cb (cb.recordFailure now s) := by
  rcases s with ⟨_ | _ | _, failures, successes, last⟩
  · by_cases reached : failures + 1 ≥ cb.failureThreshold <;>
      simp [recordFailure, Invariant, reached] at inv ⊢ <;> omega
  · exact ⟨rfl, inv.2⟩
  · exact ⟨rfl, rfl⟩

theorem step_invariant (positive : 1 ≤ cb.failureThreshold) (op : Op) (inv : Invariant cb s) :
    Invariant cb (cb.step s op) := by
  cases op with
  | isAvailable now => exact is_available_invariant now inv
  | recordSuccess => exact record_success_invariant positive inv
  | recordFailure now => exact record_failure_invariant now inv
  | reset => exact initial_invariant positive

theorem run_invariant (positive : 1 ≤ cb.failureThreshold) (ops : List Op) (inv : Invariant cb s) :
    Invariant cb (cb.run s ops) := by
  induction ops generalizing s with
  | nil => exact inv
  | cons op ops ih => exact ih (step_invariant positive op inv)

theorem reachable_invariant (positive : 1 ≤ cb.failureThreshold) (ops : List Op) :
    Invariant cb (cb.run initialState ops) :=
  run_invariant positive ops (initial_invariant positive)

/-- An open breaker with a recorded failure reopens for trial calls once the timeout has
passed. -/
theorem open_elapsed_half_open (now last : Nat) (opened : s.state = .«open»)
    (recorded : s.lastFailureTime = some last) (elapsed : now - last > cb.timeout) :
    cb.isAvailable now s = (true, { s with state := .halfOpen, failureCount := 0, successCount := 0 }) := by
  simp [isAvailable, opened, recorded, elapsed]

theorem invariant_cases (inv : Invariant cb s) :
    (s.state = .«open» → s.lastFailureTime.isSome ∧ s.successCount = 0) ∧
    (s.state = .closed → s.failureCount < cb.failureThreshold ∧ s.successCount = 0) ∧
    (s.state = .halfOpen → s.failureCount = 0 ∧ s.successCount < 3) := by
  rcases s with ⟨_ | _ | _, _, _, _⟩ <;> simp_all [Invariant]

theorem reachable_state_invariant (failureThreshold timeoutSeconds : Nat)
    (positive : 1 ≤ failureThreshold) (ops : List Op) :
    let cb := CircuitBreaker.new failureThreshold timeoutSeconds
    let s := cb.run initialState ops
    (s.state = .«open» → s.lastFailureTime.isSome ∧ s.successCount = 0) ∧
    (s.state = .closed → s.failureCount < failureThreshold ∧ s.successCount = 0) ∧
    (s.state = .halfOpen → s.failureCount = 0 ∧ s.successCount < 3) ∧
    (s.state = .«open» → ∃ last, s.lastFailureTime = some last ∧ ∀ now, now - last > cb.timeout →
      cb.isAvailable now s = (true, { s with state := .halfOpen, failureCount := 0, successCount := 0 })) := by
  intro cb s
  have inv : Invariant cb s := reachable_invariant positive ops
  have cases := invariant_cases inv
  refine ⟨cases.1, cases.2.1, cases.2.2, fun opened => ?_⟩
  obtain ⟨last, recorded⟩ := Option.isSome_iff_exists.mp (cases.1 opened).1
  exact ⟨last, recorded, fun now elapsed => open_elapsed_half_open now last opened recorded elapsed⟩

theorem reachable_state_invariant_three_failures :
    1 ≤ 3 ∧
    let cb := CircuitBreaker.new 3 60
    let s := cb.run initialState [.recordFailure 0, .recordFailure 1, .recordFailure 2]
    (s.state = .«open» → s.lastFailureTime.isSome ∧ s.successCount = 0) ∧
    (s.state = .closed → s.failureCount < 3 ∧ s.successCount = 0) ∧
    (s.state = .halfOpen → s.failureCount = 0 ∧ s.successCount < 3) ∧
    (s.state = .«open» → ∃ last, s.lastFailureTime = some last ∧ ∀ now, now - last > cb.timeout →
      cb.isAvailable now s = (true, { s with state := .halfOpen, failureCount := 0, successCount := 0 })) :=
  ⟨by decide, reachable_state_invariant 3 60 (by decide) _⟩

end AnalyticsHub.Resilience.CircuitBreaker
