import Mathlib.Data.List.Basic

set_option autoImplicit false

/- The circuit breaker of resilience/circuit_breaker.rs. Every operation takes the
   write guard of the breaker's RwLock for its whole body, so concurrent callers act as
   one sequence of atomic operations, and a run is a list of them. Instants and durations
   are nanosecond counts; tokio's Instant subtraction saturates, which is Nat subtraction. -/
namespace AnalyticsHub.Resilience

inductive CircuitState where
  | closed
  | «open»
  | halfOpen
deriving DecidableEq, Repr

structure CircuitBreakerState where
  state : CircuitState
  failureCount : Nat
  successCount : Nat
  lastFailureTime : Option Nat
deriving DecidableEq, Repr

-- The fields of CircuitBreaker besides the lock-protected state.
structure CircuitBreaker where
  failureThreshold : Nat
  timeout : Nat
deriving DecidableEq, Repr

def Duration.fromSecs (secs : Nat) : Nat := secs * 1000000000

namespace CircuitBreaker

def new (failureThreshold timeoutSeconds : Nat) : CircuitBreaker :=
  ⟨failureThreshold, Duration.fromSecs timeoutSeconds⟩

def initialState : CircuitBreakerState := ⟨.closed, 0, 0, none⟩

def isAvailable (cb : CircuitBreaker) (now : Nat) (s : CircuitBreakerState) :
    Bool × CircuitBreakerState :=
  match s.state with
  | .closed => (true, s)
  | .«open» =>
      match s.lastFailureTime with
      | some lastFailure =>
          if now - lastFailure > cb.timeout then
            (true, { s with state := .halfOpen, failureCount := 0, successCount := 0 })
          else (false, s)
      | none => (false, s)
  | .halfOpen => (true, s)

def recordSuccess (s : CircuitBreakerState) : CircuitBreakerState :=
  match s.state with
  | .halfOpen =>
      let s := { s with successCount := s.successCount + 1 }
      if s.successCount ≥ 3 then
        { s with state := .closed, failureCount := 0, successCount := 0, lastFailureTime := none }
      else s
  | .closed => { s with failureCount := 0 }
  | .«open» => s

def recordFailure (cb : CircuitBreaker) (now : Nat) (s : CircuitBreakerState) :
    CircuitBreakerState :=
  let s := { s with failureCount := s.failureCount + 1, lastFailureTime := some now }
  match s.state with
  | .closed => if s.failureCount ≥ cb.failureThreshold then { s with state := .«open» } else s
  | .halfOpen => { s with state := .«open», successCount := 0 }
  | .«open» => s

def reset (_ : CircuitBreakerState) : CircuitBreakerState := initialState

def getState (s : CircuitBreakerState) : CircuitState := s.state

end CircuitBreaker

inductive Op where
  | isAvailable (now : Nat)
  | recordSuccess
  | recordFailure (now : Nat)
  | reset
deriving DecidableEq, Repr

namespace CircuitBreaker

def step (cb : CircuitBreaker) (s : CircuitBreakerState) : Op → CircuitBreakerState
  | .isAvailable now => (cb.isAvailable now s).2
  | .recordSuccess => recordSuccess s
  | .recordFailure now => cb.recordFailure now s
  | .reset => reset s

def run (cb : CircuitBreaker) (s : CircuitBreakerState) (ops : List Op) : CircuitBreakerState :=
  ops.foldl cb.step s

@[simp] theorem run_nil (cb : CircuitBreaker) (s : CircuitBreakerState) : cb.run s [] = s := rfl

@[simp] theorem run_append (cb : CircuitBreaker) (s : CircuitBreakerState) (ops more : List Op) :
    cb.run s (ops ++ more) = cb.run (cb.run s ops) more := List.foldl_append _ _ _ _

@[simp] theorem run_cons (cb : CircuitBreaker) (s : CircuitBreakerState) (op : Op) (ops : List Op) :
    cb.run s (op :: ops) = cb.run (cb.step s op) ops := rfl

theorem run_concat (cb : CircuitBreaker) (s : CircuitBreakerState) (ops : List Op) (op : Op) :
    cb.run s (ops ++ [op]) = cb.step (cb.run s ops) op := by
  simp

end CircuitBreaker

end AnalyticsHub.Resilience
