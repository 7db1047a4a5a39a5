import AnalyticsHub.Resilience.BreakerInvariant

set_option autoImplicit false

namespace AnalyticsHub.Resilience

namespace Op

def clearsFailures : Op → Bool
  | .recordSuccess | .reset => true
  | _ => false

def isFailure : Op → Bool
  | .recordFailure _ => true
  | _ => false

def isSuccess : Op → Bool
  | .recordSuccess => true
  | _ => false

-- Calls that neither fail nor reset: availability queries and successes.
def Quiet (op : Op) : Prop := op.isFailure = false ∧ op ≠ .reset

end Op

namespace CircuitBreaker

/-- The calls of a run after its last `record_success` or `reset`. -/
def sinceLastClear (ops : List Op) : List Op :=
  (ops.reverse.takeWhile fun op => !op.clearsFailures).reverse

/-- The `record_failure` calls of a run that no `record_success` or `reset` follows. -/
def failureRun (ops : List Op) : Nat := (sinceLastClear ops).countP Op.isFailure

theorem since_last_clear_concat (ops : List Op) (op : Op) :
    sinceLastClear (ops ++ [op]) = if op.clearsFailures then [] else sinceLastClear ops ++ [op] := by
  by_cases clears : op.clearsFailures <;> simp [sinceLastClear, clears]

theorem failure_run_concat (ops : List Op) (op : Op) :
    failureRun (ops ++ [op]) =
      if op.clearsFailures then 0 else failureRun ops + if op.isFailure then 1 else 0 := by
  by_cases clears : op.clearsFailures <;>
    simp [failureRun, since_last_clear_concat, clears, List.countP_cons]

theorem since_last_clear_suffix (ops : List Op) : ∃ pre, ops = pre ++ sinceLastClear ops := by
  refine ⟨(ops.reverse.dropWhile fun op => !op.clearsFailures).reverse, ?_⟩
  rw [sinceLastClear, ← List.reverse_append, List.takeWhile_append_dropWhile, List.reverse_reverse]

theorem since_last_clear_no_clear (ops : List Op) :
    ∀ op ∈ sinceLastClear ops, op.clearsFailures = false := by
  intro op member
  simpa using List.mem_takeWhile_imp (List.mem_reverse.mp member)

variable {cb : CircuitBreaker} {s : CircuitBreakerState}

/-- A call that leaves the breaker closed either cleared the failures or was made while it
was closed, adding one to the count exactly when it is a failure. -/
theorem step_closed (op : Op) (closed : (cb.step s op).state = .closed) :
    if op.clearsFailures then (cb.step s op).failureCount = 0
    else s.state = .closed ∧
      (cb.step s op).failureCount = s.failureCount + if op.isFailure then 1 else 0 := by
  rcases s with ⟨_ | _ | _, failures, successes, _ | last⟩ <;> cases op <;>
    simp only [step, isAvailable, recordSuccess, recordFailure, reset, initialState] at closed ⊢ <;>
    split_ifs at closed ⊢ <;> simp_all [Op.clearsFailures, Op.isFailure]

theorem record_failure_closed (now : Nat) (closed : s.state = .closed) :
    (cb.recordFailure now s).state =
      if s.failureCount + 1 ≥ cb.failureThreshold then .«open» else .closed := by
  rcases s with ⟨_, failures, successes, last⟩
  subst closed
  by_cases reached : failures + 1 ≥ cb.failureThreshold <;> simp [recordFailure, reached]

theorem closed_failure_count (ops : List Op) (closed : (cb.run initialState ops).state = .closed) :
    (cb.run initialState ops).failureCount = failureRun ops := by
  induction ops using List.reverseRecOn with
  | nil => rfl
  | append_singleton ops op ih =>
      rw [run_concat] at closed ⊢
      have after := step_closed op closed
      rw [failure_run_concat]
      by_cases clears : op.clearsFailures
      · simpa only [clears, if_true] using after
      · simp only [clears] at after ⊢
        rw [after.2, ih after.1]
        rfl

theorem run_closed_of_no_clear (suf : List Op) (noClear : ∀ op ∈ suf, op.clearsFailures = false)
    (closed : (cb.run s suf).state = .closed) : s.state = .closed := by
  induction suf generalizing s with
  | nil => exact closed
  | cons op rest ih =>
      have before := ih (fun op member => noClear op (.tail _ member)) closed
      have after := step_closed op before
      simp only [noClear op (.head _), Bool.false_eq_true, if_false] at after
      exact after.1

/-- A call that leaves the breaker half-open either is the availability query that moved it
out of open or a quiet call made while it was half-open. -/
theorem step_half_open (op : Op) (halfOpen : (cb.step s op).state = .halfOpen) :
    (s.state = .«open» ∧ (∃ now, op = .isAvailable now) ∧ (cb.step s op).successCount = 0) ∨
    (s.state = .halfOpen ∧ op.Quiet ∧
      (cb.step s op).successCount = s.successCount + if op.isSuccess then 1 else 0) := by
  rcases s with ⟨_ | _ | _, failures, successes, _ | last⟩ <;> cases op <;>
    simp only [step, isAvailable, recordSuccess, recordFailure, reset, initialState] at halfOpen ⊢ <;>
    split_ifs at halfOpen ⊢ <;> simp_all [Op.Quiet, Op.isFailure, Op.isSuccess]

/-- Successes counted since a half-open breaker started its trial: below three it is half-open
and holds the count, from three on it is closed. -/
def Tally (s : CircuitBreakerState) (count : Nat) : Prop :=
  (count < 3 → s.state = .halfOpen ∧ s.successCount = count) ∧ (3 ≤ count → s.state = .closed)

theorem tally_step (op : Op) (quiet : op.Quiet) (count : Nat) (tally : Tally s count) :
    Tally (cb.step s op) (count + if op.isSuccess then 1 else 0) := by
  obtain ⟨notFailure, notReset⟩ := quiet
  by_cases below : count < 3
  · obtain ⟨halfOpen, counted⟩ := tally.1 below
    rcases s with ⟨_, failures, successes, last⟩
    subst halfOpen counted
    cases op <;> simp_all [Tally, step, isAvailable, recordSuccess, Op.isFailure, Op.isSuccess]
    split_ifs <;> simp_all
  · have closed := tally.2 (by omega)
    rcases s with ⟨_, failures, successes, last⟩
    subst closed
    cases op <;> simp_all [Tally, step, isAvailable, recordSuccess, Op.isFailure, Op.isSuccess]
    omega

theorem tally_run (suf : List Op) (quiet : ∀ op ∈ suf, op.Quiet) (count : Nat)
    (tally : Tally s count) : Tally (cb.run s suf) (count + suf.countP Op.isSuccess) := by
  induction suf generalizing s count with
  | nil => exact tally
  | cons op rest ih =>
      have first : Tally (cb.step s op) _ := tally_step op (quiet op (.head _)) count tally
      have next := ih (fun op member => quiet op (.tail _ member)) _ first
      rw [List.countP_cons, ← Nat.add_assoc, Nat.add_right_comm]
      exact next

theorem half_open_entry (ops : List Op) (halfOpen : (cb.run initialState ops).state = .halfOpen) :
    ∃ pre now suf, ops = pre ++ .isAvailable now :: suf ∧
      (cb.run initialState pre).state = .«open» ∧ (∀ op ∈ suf, op.Quiet) ∧
      (cb.run initialState ops).successCount = suf.countP Op.isSuccess := by
  induction ops using List.reverseRecOn with
  | nil => cases halfOpen
  | append_singleton ops op ih =>
      rw [run_concat] at halfOpen
      rcases step_half_open op halfOpen with ⟨opened, ⟨now, rfl⟩, fresh⟩ | ⟨stays, quiet, counted⟩
      · exact ⟨ops, now, [], by simp, opened, by simp, by simpa [run_concat] using fresh⟩
      · obtain ⟨pre, now, suf, rfl, opened, quietSuf, count⟩ := ih stays
        refine ⟨pre, now, suf ++ [op], by simp, opened, ?_, ?_⟩
        · simpa [or_imp, forall_and] using And.intro quietSuf quiet
        · rw [run_concat, counted, count, List.countP_append]
          simp [List.countP_cons]

theorem half_open_record_failure (now : Nat) (halfOpen : s.state = .halfOpen) :
    (cb.recordFailure now s).state = .«open» := by
  rcases s with ⟨_, failures, successes, last⟩
  subst halfOpen
  rfl

theorem open_is_available (now last : Nat) (opened : s.state = .«open»)
    (recorded : s.lastFailureTime = some last) :
    (cb.isAvailable now s).1 = false ↔ now - last ≤ cb.timeout := by
  by_cases elapsed : now - last > cb.timeout <;> simp [isAvailable, opened, recorded, elapsed] <;> omega

theorem open_record_success (opened : s.state = .«open») : recordSuccess s = s := by
  simp [recordSuccess, opened]

theorem open_record_failure (now : Nat) (opened : s.state = .«open») :
    cb.recordFailure now s = { s with failureCount := s.failureCount + 1, lastFailureTime := some now } := by
  rcases s with ⟨_, failures, successes, last⟩
  subst opened
  rfl

theorem tally_state (count : Nat) (tally : Tally s count) :
    (s.state = .closed ↔ 3 ≤ count) ∧ (s.state = .halfOpen ↔ count < 3) := by
  by_cases below : count < 3
  · simp [(tally.1 below).1, below]
  · simp [tally.2 (by omega), below]
    omega

/-- The transition law of a breaker over every run from `CircuitBreaker::new`: when a closed
breaker opens, when a half-open one closes or reopens, and what calls do while it is open. -/
structure TransitionLaw (cb : CircuitBreaker) : Prop where
  closedFailure : ∀ ops now, (cb.run initialState ops).state = .closed →
    ((cb.recordFailure now (cb.run initialState ops)).state = .«open» ↔
      failureRun (ops ++ [.recordFailure now]) = cb.failureThreshold)
  closedSinceClear : ∀ ops, (cb.run initialState ops).state = .closed →
    ∀ pre suf, ops = pre ++ suf → (∀ op ∈ suf, op.clearsFailures = false) →
      (cb.run initialState pre).state = .closed
  closedSuccess : ∀ s, s.state = .closed →
    (recordSuccess s).state = .closed ∧ (recordSuccess s).failureCount = 0
  halfOpenCloses : ∀ pre now suf, (cb.run initialState pre).state = .«open» →
    (cb.isAvailable now (cb.run initialState pre)).2.state = .halfOpen → (∀ op ∈ suf, op.Quiet) →
      ((cb.run initialState (pre ++ .isAvailable now :: suf)).state = .closed ↔
        3 ≤ suf.countP Op.isSuccess) ∧
      ((cb.run initialState (pre ++ .isAvailable now :: suf)).state = .halfOpen ↔
        suf.countP Op.isSuccess < 3)
  halfOpenSinceEntry : ∀ ops, (cb.run initialState ops).state = .halfOpen →
    ∃ pre now suf, ops = pre ++ .isAvailable now :: suf ∧
      (cb.run initialState pre).state = .«open» ∧ (∀ op ∈ suf, op.Quiet) ∧
      (cb.run initialState ops).successCount = suf.countP Op.isSuccess
  halfOpenFailure : ∀ s now, s.state = .halfOpen → (cb.recordFailure now s).state = .«open»
  openCalls : ∀ ops, (cb.run initialState ops).state = .«open» →
    ∃ last, (cb.run initialState ops).lastFailureTime = some last ∧
      (∀ now, (cb.isAvailable now (cb.run initialState ops)).1 = false ↔ now - last ≤ cb.timeout) ∧
      recordSuccess (cb.run initialState ops) = cb.run initialState ops ∧
      ∀ now, (cb.recordFailure now (cb.run initialState ops)).state = .«open» ∧
        ∀ later, (cb.isAvailable later (cb.recordFailure now (cb.run initialState ops))).1 = false ↔
          later - now ≤ cb.timeout

theorem closed_failure_opens (positive : 1 ≤ cb.failureThreshold) (ops : List Op) (now : Nat)
    (closed : (cb.run initialState ops).state = .closed) :
    (cb.recordFailure now (cb.run initialState ops)).state = .«open» ↔
      failureRun (ops ++ [.recordFailure now]) = cb.failureThreshold := by
  have below := ((invariant_cases (reachable_invariant positive ops)).2.1 closed).1
  rw [record_failure_closed now closed, failure_run_concat, ← closed_failure_count ops closed]
  by_cases reached : (cb.run initialState ops).failureCount + 1 ≥ cb.failureThreshold <;>
    simp [reached, Op.clearsFailures, Op.isFailure] <;> omega

theorem half_open_closes (pre : List Op) (now : Nat) (suf : List Op)
    (opened : (cb.run initialState pre).state = .«open»)
    (enters : (cb.isAvailable now (cb.run initialState pre)).2.state = .halfOpen)
    (quiet : ∀ op ∈ suf, op.Quiet) :
    ((cb.run initialState (pre ++ .isAvailable now :: suf)).state = .closed ↔
        3 ≤ suf.countP Op.isSuccess) ∧
      ((cb.run initialState (pre ++ .isAvailable now :: suf)).state = .halfOpen ↔
        suf.countP Op.isSuccess < 3) := by
  have fresh : (cb.step (cb.run initialState pre) (.isAvailable now)).successCount = 0 := by
    rcases step_half_open (.isAvailable now) enters with ⟨-, -, fresh⟩ | ⟨halfOpen, -⟩
    · exact fresh
    · simp [opened] at halfOpen
  have start : Tally (cb.step (cb.run initialState pre) (.isAvailable now)) 0 :=
    ⟨fun _ => ⟨enters, fresh⟩, by omega⟩
  simpa using tally_state _ (tally_run suf quiet 0 start)

theorem open_calls (positive : 1 ≤ cb.failureThreshold) (ops : List Op)
    (opened : (cb.run initialState ops).state = .«open») :
    ∃ last, (cb.run initialState ops).lastFailureTime = some last ∧
      (∀ now, (cb.isAvailable now (cb.run initialState ops)).1 = false ↔ now - last ≤ cb.timeout) ∧
      recordSuccess (cb.run initialState ops) = cb.run initialState ops ∧
      ∀ now, (cb.recordFailure now (cb.run initialState ops)).state = .«open» ∧
        ∀ later, (cb.isAvailable later (cb.recordFailure now (cb.run initialState ops))).1 = false ↔
          later - now ≤ cb.timeout := by
  obtain ⟨last, recorded⟩ :=
    Option.isSome_iff_exists.mp ((invariant_cases (reachable_invariant positive ops)).1 opened).1
  refine ⟨last, recorded, fun now => open_is_available now last opened recorded,
    open_record_success opened, fun now => ⟨?_, fun later => ?_⟩⟩
  · rw [open_record_failure now opened]
    exact opened
  · rw [open_record_failure now opened]
    exact open_is_available later now opened rfl

theorem transition_law (failureThreshold timeoutSeconds : Nat) (positive : 1 ≤ failureThreshold) :
    TransitionLaw (CircuitBreaker.new failureThreshold timeoutSeconds) where
  closedFailure := closed_failure_opens positive
  closedSinceClear _ closed _ suf split noClear := by
    subst split
    exact run_closed_of_no_clear suf noClear (by simpa using closed)
  closedSuccess s closed := by
    rcases s with ⟨_, failures, successes, last⟩
    subst closed
    exact ⟨rfl, rfl⟩
  halfOpenCloses := half_open_closes
  halfOpenSinceEntry := half_open_entry
  halfOpenFailure _ now halfOpen := half_open_record_failure now halfOpen
  openCalls := open_calls positive

theorem transition_law_threshold_three :
    1 ≤ 3 ∧ TransitionLaw (CircuitBreaker.new 3 60) :=
  ⟨by decide, transition_law 3 60 (by decide)⟩

end CircuitBreaker

end AnalyticsHub.Resilience
