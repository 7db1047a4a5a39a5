import Mathlib.Data.List.DropRight
import Mathlib.Data.Rat.Defs

set_option autoImplicit false

/- Timestamps are chrono DateTime<Utc> values as nanoseconds since the epoch, and chrono
   durations are nanosecond counts; VecDeque is a List with its front at the head. -/
namespace AnalyticsHub.Analytics

abbrev DateTime := Int

namespace Duration

def minutes (m : Int) : Int := m * 60000000000

def hours (h : Int) : Int := h * 3600000000000

-- TimeDelta::num_seconds, which truncates towards zero.
def numSeconds (d : Int) : Int := d.tdiv 1000000000

end Duration

-- The fields of AnalyticsConfig that the engines read; the struct is declared in a part
-- of the crate outside these sources.
structure AnalyticsConfig where
  anomalySensitivity : ℚ
  predictionHistorySize : Nat
deriving DecidableEq, Repr

/-- The layout shared by `MetricBaseline` and `TimeSeriesData`: two parallel deques and the
capacity they are kept to. -/
structure Window where
  values : List ℚ
  timestamps : List DateTime
  maxSize : Nat
deriving DecidableEq, Repr

namespace Window

def new (maxSize : Nat) : Window := ⟨[], [], maxSize⟩

def push (w : Window) (value : ℚ) (timestamp : DateTime) : Window :=
  let w := if w.values.length ≥ w.maxSize then
    { w with values := w.values.tail, timestamps := w.timestamps.tail } else w
  { w with values := w.values ++ [value], timestamps := w.timestamps ++ [timestamp] }

def pushAll (w : Window) (inserted : List (ℚ × DateTime)) : Window :=
  inserted.foldl (fun w point => w.push point.1 point.2) w

@[simp] theorem push_max_size (w : Window) (value : ℚ) (timestamp : DateTime) :
    (w.push value timestamp).maxSize = w.maxSize := by
  unfold push
  split <;> rfl

end Window

abbrev MetricBaseline := Window

abbrev TimeSeriesData := Window

def MetricBaseline.new (maxSize : Nat) : MetricBaseline := Window.new maxSize

def MetricBaseline.addValue (baseline : MetricBaseline) (value : ℚ) (timestamp : DateTime) :
    MetricBaseline :=
  baseline.push value timestamp

def TimeSeriesData.new (maxSize : Nat) : TimeSeriesData := Window.new maxSize

def TimeSeriesData.addPoint (data : TimeSeriesData) (value : ℚ) (timestamp : DateTime) :
    TimeSeriesData :=
  data.push value timestamp

-- The while-let loop of cleanup_before, popping both deques while the front is expired.
def cleanupLoop (cutoff : DateTime) : List DateTime → List ℚ → List DateTime × List ℚ
  | [], values => ([], values)
  | ts :: rest, values =>
      if ts < cutoff then cleanupLoop cutoff rest values.tail else (ts :: rest, values)

def TimeSeriesData.cleanupBefore (data : TimeSeriesData) (cutoff : DateTime) : TimeSeriesData :=
  { data with timestamps := (cleanupLoop cutoff data.timestamps data.values).1,
              values := (cleanupLoop cutoff data.timestamps data.values).2 }

theorem rtake_evict_append {α : Type} (l : List α) (x : α) (c : Nat) :
    (if (l.rtake (max c 1)).length ≥ c then (l.rtake (max c 1)).tail else l.rtake (max c 1)) ++ [x] =
      (l ++ [x]).rtake (max c 1) := by
  unfold List.rtake
  rcases Nat.lt_or_ge l.length (max c 1) with short | long
  · have none : (l ++ [x]).length - max c 1 = 0 := by
      rw [List.length_append, List.length_singleton]
      omega
    rw [Nat.sub_eq_zero_of_le short.le, List.drop_zero, none, List.drop_zero]
    split_ifs with full
    · have empty : l = [] := List.eq_nil_of_length_eq_zero (by omega)
      simp [empty]
    · rfl
  · rw [if_pos (by rw [List.length_drop]; omega), List.tail_drop, List.length_append,
      List.length_singleton,
      List.drop_append_of_le_length (show l.length + 1 - max c 1 ≤ l.length by omega)]
    congr 2
    omega

namespace Window

/-- A window holds the last `max maxSize 1` values and timestamps of what was inserted. -/
def Holds (w : Window) (values : List ℚ) (timestamps : List DateTime) : Prop :=
  values.length = timestamps.length ∧ w.values = values.rtake (max w.maxSize 1) ∧
    w.timestamps = timestamps.rtake (max w.maxSize 1)

theorem holds_new (maxSize : Nat) : (new maxSize).Holds [] [] := ⟨rfl, by simp [new], by simp [new]⟩

theorem push_holds (w : Window) (values : List ℚ) (timestamps : List DateTime) (value : ℚ)
    (timestamp : DateTime) (holds : w.Holds values timestamps) :
    (w.push value timestamp).Holds (values ++ [value]) (timestamps ++ [timestamp]) := by
  obtain ⟨same, held, heldTimes⟩ := holds
  rcases w with ⟨current, currentTimes, maxSize⟩
  simp only at held heldTimes
  subst held heldTimes
  have lengths : (timestamps.rtake (max maxSize 1)).length =
      (values.rtake (max maxSize 1)).length := by
    simp [List.rtake, same]
  refine ⟨by simp [same], ?_, ?_⟩ <;> rw [push_max_size, ← rtake_evict_append] <;>
    by_cases full : (values.rtake (max maxSize 1)).length ≥ maxSize <;> simp [push, full, lengths]

theorem push_all_holds (w : Window) (values : List ℚ) (timestamps : List DateTime)
    (inserted : List (ℚ × DateTime)) (holds : w.Holds values timestamps) :
    (w.pushAll inserted).Holds (values ++ inserted.map Prod.fst)
      (timestamps ++ inserted.map Prod.snd) := by
  induction inserted generalizing w values timestamps with
  | nil => simpa using holds
  | cons point rest ih =>
      simpa using ih _ _ _ (push_holds w values timestamps point.1 point.2 holds)

@[simp] theorem push_all_max_size (w : Window) (inserted : List (ℚ × DateTime)) :
    (w.pushAll inserted).maxSize = w.maxSize := by
  induction inserted generalizing w with
  | nil => rfl
  | cons point rest ih => exact (ih _).trans (push_max_size w _ _)

/-- From a fresh window of capacity `maxSize`, `k` insertions leave exactly the last
`min k (max maxSize 1)` of them, values and timestamps paired in arrival order. -/
theorem push_all_new (maxSize : Nat) (inserted : List (ℚ × DateTime)) :
    ((new maxSize).pushAll inserted).values = (inserted.map Prod.fst).rtake (max maxSize 1) ∧
    ((new maxSize).pushAll inserted).timestamps = (inserted.map Prod.snd).rtake (max maxSize 1) := by
  simpa [new] using (push_all_holds (new maxSize) [] [] inserted (holds_new maxSize)).2

end Window

end AnalyticsHub.Analytics
