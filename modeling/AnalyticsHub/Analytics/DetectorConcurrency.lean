import AnalyticsHub.Analytics.AnomalyLog

set_option autoImplicit false

/- Concurrent check_anomaly and reset_baseline calls on one detector. check_anomaly's `entry`
   takes the write guard of its metric's baselines shard and holds it until the call returns:
   under it the call updates the window and decides, and a flagged check pushes its anomaly onto
   the metric's log, one more atomic step through the anomalies map. reset_baseline's `remove`
   waits for the guard and is one step. The guard is taken per metric here: calls on other
   metrics of the same shard wait as well, and leaving that out only admits more schedules.
   Each call takes effect at one step, a flagged check at its push and any other call where it
   decides or removes; the world records the calls in that order, and every interleaving is
   compared with the sequential detector run on them. -/
namespace AnalyticsHub.Analytics

/-- The metric a detector call works on. -/
def DetectorCall.metricName : DetectorCall → String
  | .checkAnomaly metricName _ _ | .resetBaseline metricName => metricName

namespace AnomalyDetector

theorem step_config (d : AnomalyDetector) (call : DetectorCall) : (d.step call).2.config = d.config := by
  cases call <;> simp [step, resetBaseline]

theorem run_config (d : AnomalyDetector) (calls : List DetectorCall) :
    (d.run calls).2.config = d.config := by
  induction calls generalizing d with
  | nil => rfl
  | cons call rest ih => simp only [run, ih, step_config]

theorem run_concat (d : AnomalyDetector) (calls : List DetectorCall) (call : DetectorCall) :
    d.run (calls ++ [call]) =
      ((d.run calls).1 ++ [((d.run calls).2.step call).1], ((d.run calls).2.step call).2) := by
  induction calls generalizing d with
  | nil => rfl
  | cons first rest ih => simp [run, ih]

theorem step_elsewhere (d : AnomalyDetector) (call : DetectorCall) (metricName : String)
    (different : metricName ≠ call.metricName) :
    (d.step call).2.baselines metricName = d.baselines metricName ∧
      (d.step call).2.anomalies metricName = d.anomalies metricName := by
  cases call with
  | checkAnomaly named value timestamp =>
      have different : metricName ≠ named := different
      exact ⟨by simp [step, Function.update_noteq different],
        check_anomaly_anomalies_other d named value timestamp metricName different⟩
  | resetBaseline named =>
      have different : metricName ≠ named := different
      exact ⟨by simp [step, resetBaseline, Function.update_noteq different], rfl⟩

theorem check_anomaly_of_agree (d d' : AnomalyDetector) (metricName : String) (value : ℚ)
    (timestamp : DateTime) (config : d.config = d'.config)
    (baseline : d.baselines metricName = d'.baselines metricName)
    (log : d.anomalies metricName = d'.anomalies metricName) :
    d.baselineOf metricName = d'.baselineOf metricName ∧
      (d.checkAnomaly metricName value timestamp).1 = (d'.checkAnomaly metricName value timestamp).1 :=
  ⟨by simp only [baselineOf, baseline],
    (check_anomaly_local d metricName value timestamp d' config baseline log).1⟩

-- Where a call is; a check holds its metric's guard while pushing and releasing.
inductive Pc where
  | start
  | pushing (anomaly : Anomaly)
  | releasing (result : Option Anomaly)
  | done (result : Option Anomaly)
deriving DecidableEq, Repr

def Pc.holdsGuard : Pc → Bool
  | .pushing _ | .releasing _ => true
  | .start | .done _ => false

/-- The reply of a call that has taken effect. -/
def Pc.result : Pc → Option (Option Anomaly)
  | .releasing result | .done result => some result
  | .start | .pushing _ => none

/-- The detector, where each thread's call is, and the threads in the order their calls took
effect. -/
structure World where
  detector : AnomalyDetector
  pc : Nat → Pc
  order : List Nat

/-- The configuration of the detector and the call of each thread. -/
structure Workload where
  config : AnalyticsConfig
  calls : List DetectorCall

namespace Workload

variable (ω : Workload)

def start : World := ⟨new ω.config, fun _ => .start, []⟩

def guardHeld (w : World) (metricName : String) : Bool :=
  (List.range ω.calls.length).any fun thread =>
    (w.pc thread).holdsGuard && ω.calls[thread]?.any (DetectorCall.checks metricName)

def checkAnomalyStep (w : World) (thread : Nat) (metricName : String) (value : ℚ)
    (timestamp : DateTime) : World :=
  match w.pc thread with
  | .start =>
      if ω.guardHeld w metricName then w
      else
        let baseline := (w.detector.baselineOf metricName).addValue value timestamp
        let detector := { w.detector with
          baselines := Function.update w.detector.baselines metricName (some baseline) }
        match (w.detector.checkAnomaly metricName value timestamp).1 with
        | some anomaly => ⟨detector, Function.update w.pc thread (.pushing anomaly), w.order⟩
        | none => ⟨detector, Function.update w.pc thread (.releasing none), w.order ++ [thread]⟩
  | .pushing anomaly =>
      ⟨{ w.detector with
          anomalies := Function.update w.detector.anomalies metricName
            (some (w.detector.logOf metricName ++ [anomaly])) },
        Function.update w.pc thread (.releasing (some anomaly)), w.order ++ [thread]⟩
  | .releasing result => { w with pc := Function.update w.pc thread (.done result) }
  | .done _ => w

def resetBaselineStep (w : World) (thread : Nat) (metricName : String) : World :=
  match w.pc thread with
  | .start =>
      if ω.guardHeld w metricName then w
      else ⟨w.detector.resetBaseline metricName, Function.update w.pc thread (.done none),
        w.order ++ [thread]⟩
  | _ => w

/-- One step of `thread`; a blocked or returned call stays where it is. -/
def step (w : World) (thread : Nat) : World :=
  match ω.calls[thread]? with
  | some (.checkAnomaly metricName value timestamp) =>
      ω.checkAnomalyStep w thread metricName value timestamp
  | some (.resetBaseline metricName) => ω.resetBaselineStep w thread metricName
  | none => w

def run (w : World) (schedule : List Nat) : World := schedule.foldl ω.step w

/-- The calls in the order they took effect. -/
def linearized (w : World) : List DetectorCall := w.order.filterMap fun thread => ω.calls[thread]?

/-- The sequential detector fed the calls in the order they took effect. -/
def sequential (w : World) : List (Option Anomaly) × AnomalyDetector :=
  (new ω.config).run (ω.linearized w)

/-- The check of `thread` has flagged `anomaly` and not pushed it yet. -/
def Pushing (pc : Nat → Pc) (thread : Nat) (metricName : String) (value : ℚ) (timestamp : DateTime)
    (anomaly : Anomaly) : Prop :=
  ω.calls[thread]? = some (.checkAnomaly metricName value timestamp) ∧ pc thread = .pushing anomaly

def PushingOn (pc : Nat → Pc) (thread : Nat) (metricName : String) : Prop :=
  ∃ value timestamp anomaly, ω.Pushing pc thread metricName value timestamp anomaly

/-- No flagged check on the metric waits to push. -/
def Idle (pc : Nat → Pc) (metricName : String) : Prop :=
  ∀ thread, ¬ ω.PushingOn pc thread metricName

/-- The order of the calls that took effect, and their replies against the sequential run. -/
structure Bookkept (w : World) : Prop where
  nodup : w.order.Nodup
  returned : ∀ thread ∈ w.order, (w.pc thread).result.isSome
  length : (ω.linearized w).length = w.order.length
  replies : ∀ thread result, (w.pc thread).result = some result →
    (thread, result) ∈ w.order.zip (ω.sequential w).1

/-- The detector against the sequential one: the same logs, and the same windows but where a
flagged check has updated its window and waits to push, one check per metric. -/
structure Agrees (w : World) : Prop where
  config : w.detector.config = ω.config
  anomalies : w.detector.anomalies = (ω.sequential w).2.anomalies
  baselines : ∀ metricName, ω.Idle w.pc metricName →
    w.detector.baselines metricName = (ω.sequential w).2.baselines metricName
  pending : ∀ thread metricName value timestamp anomaly,
    ω.Pushing w.pc thread metricName value timestamp anomaly →
    w.detector.baselines metricName =
        some (((ω.sequential w).2.baselineOf metricName).addValue value timestamp) ∧
      ((ω.sequential w).2.checkAnomaly metricName value timestamp).1 = some anomaly
  exclusive : ∀ thread other metricName, ω.PushingOn w.pc thread metricName →
    ω.PushingOn w.pc other metricName → thread = other

structure Linearizes (w : World) : Prop where
  bookkept : ω.Bookkept w
  agrees : ω.Agrees w

theorem sequential_concat (w w' : World) (thread : Nat) (call : DetectorCall)
    (found : ω.calls[thread]? = some call) (appended : w'.order = w.order ++ [thread]) :
    ω.sequential w' = ((ω.sequential w).1 ++ [((ω.sequential w).2.step call).1],
      ((ω.sequential w).2.step call).2) := by
  simp only [sequential, linearized, appended, List.filterMap_append, List.filterMap_cons,
    List.filterMap_nil, found]
  exact run_concat _ _ _

theorem sequential_same (w w' : World) (same : w'.order = w.order) : ω.sequential w' = ω.sequential w := by
  simp only [sequential, linearized, same]

theorem sequential_config (w : World) : (ω.sequential w).2.config = ω.config :=
  run_config _ _

theorem pushing_update_ne (pc : Nat → Pc) (thread : Nat) (next : Pc) {other : Nat}
    (moved : other ≠ thread) (metricName : String) (value : ℚ) (timestamp : DateTime)
    (anomaly : Anomaly) :
    ω.Pushing (Function.update pc thread next) other metricName value timestamp anomaly ↔
      ω.Pushing pc other metricName value timestamp anomaly := by
  simp only [Pushing, Function.update_noteq moved]

theorem pushing_on_update_ne (pc : Nat → Pc) (thread : Nat) (next : Pc) {other : Nat}
    (moved : other ≠ thread) (metricName : String) :
    ω.PushingOn (Function.update pc thread next) other metricName ↔ ω.PushingOn pc other metricName := by
  simp only [PushingOn, ω.pushing_update_ne pc thread next moved]

theorem pushing_update (pc : Nat → Pc) (thread : Nat) (next : Pc)
    (notPushing : ∀ anomaly, next ≠ .pushing anomaly) (other : Nat) (metricName : String)
    (value : ℚ) (timestamp : DateTime) (anomaly : Anomaly) :
    ω.Pushing (Function.update pc thread next) other metricName value timestamp anomaly ↔
      ω.Pushing pc other metricName value timestamp anomaly ∧ other ≠ thread := by
  by_cases same : other = thread
  · subst same
    simp [Pushing, notPushing]
  · simp only [ω.pushing_update_ne pc thread next same, ne_eq, same, not_false_eq_true, and_true]

theorem pushing_on_update (pc : Nat → Pc) (thread : Nat) (next : Pc)
    (notPushing : ∀ anomaly, next ≠ .pushing anomaly) (other : Nat) (metricName : String) :
    ω.PushingOn (Function.update pc thread next) other metricName ↔
      ω.PushingOn pc other metricName ∧ other ≠ thread := by
  simp only [PushingOn, ω.pushing_update pc thread next notPushing, exists_and_right]

theorem pushing_on_metric (pc : Nat → Pc) {thread : Nat} {call : DetectorCall} {metricName : String}
    (found : ω.calls[thread]? = some call) (pushing : ω.PushingOn pc thread metricName) :
    call.metricName = metricName := by
  obtain ⟨value, timestamp, anomaly, named, -⟩ := pushing
  obtain rfl := Option.some.inj (found.symm.trans named)
  rfl

theorem idle_of_free (w : World) (metricName : String) (free : ω.guardHeld w metricName = false) :
    ω.Idle w.pc metricName := by
  rintro thread ⟨value, timestamp, anomaly, found, pushing⟩
  have held : ω.guardHeld w metricName = true := List.any_eq_true.mpr
    ⟨thread, List.mem_range.mpr (List.getElem?_eq_some_iff.mp found).1,
      by simp [found, pushing, Pc.holdsGuard, DetectorCall.checks]⟩
  simp [free] at held

theorem idle_update_of_idle (pc : Nat → Pc) (thread : Nat) (next : Pc)
    (notPushing : ∀ anomaly, next ≠ .pushing anomaly) (metricName : String)
    (idle : ω.Idle pc metricName) : ω.Idle (Function.update pc thread next) metricName :=
  fun other pushing => idle other ((ω.pushing_on_update pc thread next notPushing other _).mp pushing).1

theorem result_update (pc : Nat → Pc) (thread : Nat) (next : Pc)
    (same : next.result = (pc thread).result) (other : Nat) :
    (Function.update pc thread next other).result = (pc other).result := by
  by_cases moved : other = thread
  · subst moved
    simp [same]
  · simp [Function.update_noteq moved]

theorem idle_of_update (pc : Nat → Pc) {thread : Nat} {call : DetectorCall} (next : Pc)
    (notPushing : ∀ anomaly, next ≠ .pushing anomaly) (found : ω.calls[thread]? = some call)
    (metricName : String) (different : metricName ≠ call.metricName)
    (idle : ω.Idle (Function.update pc thread next) metricName) : ω.Idle pc metricName := by
  intro other pushing
  by_cases same : other = thread
  · subst same
    exact different (ω.pushing_on_metric pc found pushing).symm
  · exact idle other ((ω.pushing_on_update pc thread next notPushing other metricName).mpr ⟨pushing, same⟩)

variable {ω} {w : World}

theorem Bookkept.commit (kept : ω.Bookkept w) {thread : Nat} {call : DetectorCall}
    (found : ω.calls[thread]? = some call) (waiting : (w.pc thread).result = none)
    (detector : AnomalyDetector) (next : Pc)
    (decided : next.result = some ((ω.sequential w).2.step call).1) :
    ω.Bookkept ⟨detector, Function.update w.pc thread next, w.order ++ [thread]⟩ := by
  have sequential := ω.sequential_concat w ⟨detector, Function.update w.pc thread next,
    w.order ++ [thread]⟩ thread call found rfl
  have fresh : thread ∉ w.order := fun listed => by simpa [waiting] using kept.returned thread listed
  have aligned : w.order.length = (ω.sequential w).1.length := by
    rw [← kept.length]
    exact (run_length _ _).symm
  refine ⟨kept.nodup.append (List.nodup_singleton _) (List.disjoint_singleton.mpr fresh), ?_, ?_, ?_⟩
  · intro other listed
    by_cases same : other = thread
    · subst same
      simp [decided]
    · simp only [Function.update_noteq same]
      exact kept.returned other (by simpa [same] using listed)
  · simp [linearized, List.filterMap_append, found, ← kept.length]
  · intro other result returned
    dsimp only at returned
    rw [sequential, List.zip_append aligned]
    by_cases same : other = thread
    · subst same
      simp only [Function.update_same, decided, Option.some.injEq] at returned
      simp [returned]
    · rw [Function.update_noteq same] at returned
      exact List.mem_append_left _ (kept.replies other result returned)

theorem Bookkept.same (kept : ω.Bookkept w) (w' : World) (order : w'.order = w.order)
    (results : ∀ thread, (w'.pc thread).result = (w.pc thread).result) : ω.Bookkept w' := by
  have sequential := ω.sequential_same w w' order
  refine ⟨order ▸ kept.nodup, fun thread listed => ?_, ?_, fun thread result returned => ?_⟩
  · rw [results]
    exact kept.returned thread (order ▸ listed)
  · simpa only [linearized, order] using kept.length
  · rw [sequential, order]
    exact kept.replies thread result (results thread ▸ returned)

theorem Agrees.commit (agrees : ω.Agrees w) {thread : Nat} {call : DetectorCall}
    (found : ω.calls[thread]? = some call) (next : Pc)
    (notPushing : ∀ anomaly, next ≠ .pushing anomaly)
    (idle : ω.Idle (Function.update w.pc thread next) call.metricName)
    (detector : AnomalyDetector) (config : detector.config = w.detector.config)
    (elsewhere : ∀ metricName, metricName ≠ call.metricName →
      detector.baselines metricName = w.detector.baselines metricName ∧
        detector.anomalies metricName = w.detector.anomalies metricName)
    (here : detector.baselines call.metricName =
        ((ω.sequential w).2.step call).2.baselines call.metricName ∧
      detector.anomalies call.metricName = ((ω.sequential w).2.step call).2.anomalies call.metricName) :
    ω.Agrees ⟨detector, Function.update w.pc thread next, w.order ++ [thread]⟩ := by
  have sequential := ω.sequential_concat w ⟨detector, Function.update w.pc thread next,
    w.order ++ [thread]⟩ thread call found rfl
  have stepConfig := step_config (ω.sequential w).2 call
  refine ⟨config.trans agrees.config, ?_, fun metricName idle' => ?_, fun other metricName value
    timestamp anomaly pushing' => ?_, fun first second metricName pushing₁ pushing₂ => ?_⟩
  · rw [sequential]
    funext metricName
    by_cases same : metricName = call.metricName
    · exact same ▸ here.2
    · rw [(elsewhere metricName same).2, agrees.anomalies,
        (step_elsewhere (ω.sequential w).2 call metricName same).2]
  · rw [sequential]
    by_cases same : metricName = call.metricName
    · exact same ▸ here.1
    · rw [(elsewhere metricName same).1, (step_elsewhere (ω.sequential w).2 call metricName same).1]
      exact agrees.baselines metricName (ω.idle_of_update w.pc next notPushing found metricName same idle')
  · obtain ⟨pushing, -⟩ := (ω.pushing_update w.pc thread next notPushing other metricName value
      timestamp anomaly).mp pushing'
    have different : metricName ≠ call.metricName := fun same =>
      idle other ⟨value, timestamp, anomaly, same ▸ pushing'⟩
    obtain ⟨baseline, log⟩ := step_elsewhere (ω.sequential w).2 call metricName different
    obtain ⟨sameBaseline, sameDecision⟩ := check_anomaly_of_agree _ _ metricName value timestamp
      stepConfig baseline log
    rw [sequential, (elsewhere metricName different).1, sameBaseline, sameDecision]
    exact agrees.pending other metricName value timestamp anomaly pushing
  · exact agrees.exclusive first second metricName
      ((ω.pushing_on_update w.pc thread next notPushing first metricName).mp pushing₁).1
      ((ω.pushing_on_update w.pc thread next notPushing second metricName).mp pushing₂).1

theorem Agrees.flag (agrees : ω.Agrees w) {thread : Nat} {metricName : String} {value : ℚ}
    {timestamp : DateTime} (found : ω.calls[thread]? = some (.checkAnomaly metricName value timestamp))
    (starting : w.pc thread = .start) (idle : ω.Idle w.pc metricName) {anomaly : Anomaly}
    (flagged : (w.detector.checkAnomaly metricName value timestamp).1 = some anomaly) :
    ω.Agrees ⟨{ w.detector with
        baselines := Function.update w.detector.baselines metricName
          (some ((w.detector.baselineOf metricName).addValue value timestamp)) },
      Function.update w.pc thread (.pushing anomaly), w.order⟩ := by
  have sequential : ∀ detector pc, ω.sequential ⟨detector, pc, w.order⟩ = ω.sequential w :=
    fun _ _ => rfl
  obtain ⟨sameBaseline, sameDecision⟩ := check_anomaly_of_agree w.detector (ω.sequential w).2
    metricName value timestamp (agrees.config.trans (ω.sequential_config w).symm)
    (agrees.baselines metricName idle) (congrFun agrees.anomalies metricName)
  have others := fun {other} (moved : other ≠ thread) named =>
    ω.pushing_on_update_ne w.pc thread (.pushing anomaly) moved named
  have mover : ω.PushingOn (Function.update w.pc thread (.pushing anomaly)) thread metricName :=
    ⟨value, timestamp, anomaly, found, Function.update_same _ _ _⟩
  have elsewhere : ∀ other named, ω.PushingOn w.pc other named → other ≠ thread ∧ named ≠ metricName :=
    fun other named pushing => by
      refine ⟨fun same => ?_, fun same => idle other (same ▸ pushing)⟩
      obtain ⟨_, _, _, _, waiting⟩ := pushing
      simp [same, starting] at waiting
  refine ⟨agrees.config, agrees.anomalies, fun named idle' => ?_, fun other named value'
    timestamp' anomaly' pushing' => ?_, fun first second named pushing₁ pushing₂ => ?_⟩
  · have different : named ≠ metricName := fun same => idle' thread (same ▸ mover)
    rw [sequential]
    simp only [Function.update_noteq different]
    refine agrees.baselines named fun other pushing => idle' other ?_
    exact (others (elsewhere other named pushing).1 named).mpr pushing
  · rw [sequential]
    by_cases same : other = thread
    · subst same
      obtain ⟨named, waiting⟩ := pushing'
      simp only [found, Option.some.injEq, DetectorCall.checkAnomaly.injEq, Function.update_same,
        Pc.pushing.injEq] at named waiting
      obtain ⟨rfl, rfl, rfl⟩ := named
      subst waiting
      simp [sameBaseline, ← sameDecision, flagged]
    · have pushing := (ω.pushing_update_ne w.pc thread _ same named value' timestamp' anomaly').mp pushing'
      simp only [Function.update_noteq (elsewhere other named ⟨_, _, _, pushing⟩).2]
      exact agrees.pending other named value' timestamp' anomaly' pushing
  · by_cases first_mover : first = thread <;> by_cases second_mover : second = thread
    · exact first_mover.trans second_mover.symm
    · have pushing := (others second_mover named).mp pushing₂
      exact absurd (ω.pushing_on_metric _ found (first_mover ▸ pushing₁))
        (elsewhere second named pushing).2.symm
    · have pushing := (others first_mover named).mp pushing₁
      exact absurd (ω.pushing_on_metric _ found (second_mover ▸ pushing₂))
        (elsewhere first named pushing).2.symm
    · exact agrees.exclusive first second named ((others first_mover named).mp pushing₁)
        ((others second_mover named).mp pushing₂)

theorem Agrees.same (agrees : ω.Agrees w) (w' : World) (detector : w'.detector = w.detector)
    (order : w'.order = w.order)
    (pushing : ∀ thread metricName value timestamp anomaly,
      ω.Pushing w'.pc thread metricName value timestamp anomaly ↔
        ω.Pushing w.pc thread metricName value timestamp anomaly) : ω.Agrees w' := by
  have sequential := ω.sequential_same w w' order
  have pushingOn : ∀ thread metricName, ω.PushingOn w'.pc thread metricName ↔
      ω.PushingOn w.pc thread metricName := fun thread metricName => by
    simp only [PushingOn, pushing]
  refine ⟨by rw [detector]; exact agrees.config, by rw [detector, sequential]; exact agrees.anomalies,
    fun metricName idle => ?_, fun thread metricName value timestamp anomaly pushed => ?_,
    fun thread other metricName first second => agrees.exclusive thread other metricName
      ((pushingOn _ _).mp first) ((pushingOn _ _).mp second)⟩
  · rw [detector, sequential]
    exact agrees.baselines metricName fun thread pushed =>
      idle thread ((pushingOn thread metricName).mpr pushed)
  · rw [detector, sequential]
    exact agrees.pending thread metricName value timestamp anomaly ((pushing _ _ _ _ _).mp pushed)

theorem Linearizes.check_anomaly_step (linearizes : ω.Linearizes w) {thread : Nat}
    {metricName : String} {value : ℚ} {timestamp : DateTime}
    (found : ω.calls[thread]? = some (.checkAnomaly metricName value timestamp)) :
    ω.Linearizes (ω.checkAnomalyStep w thread metricName value timestamp) := by
  obtain ⟨kept, agrees⟩ := linearizes
  have stepCheck : ∀ d : AnomalyDetector,
      d.step (.checkAnomaly metricName value timestamp) = d.checkAnomaly metricName value timestamp :=
    fun _ => rfl
  unfold checkAnomalyStep
  cases pc : w.pc thread with
  | start =>
      cases held : ω.guardHeld w metricName
      · have idle := ω.idle_of_free w metricName held
        obtain ⟨sameBaseline, sameDecision⟩ := check_anomaly_of_agree w.detector (ω.sequential w).2
          metricName value timestamp (agrees.config.trans (ω.sequential_config w).symm)
          (agrees.baselines metricName idle) (congrFun agrees.anomalies metricName)
        cases flagged : (w.detector.checkAnomaly metricName value timestamp).1 with
        | none =>
            refine ⟨kept.commit found (by simp [pc, Pc.result]) _ (.releasing none) (by
              simp [Pc.result, stepCheck, ← sameDecision, flagged]), agrees.commit found (.releasing none)
              (fun _ => nofun) (ω.idle_update_of_idle _ thread (.releasing none) (fun _ => nofun) _ idle) _ rfl
              (fun named different => ⟨Function.update_noteq different _ _, rfl⟩) ⟨?_, ?_⟩⟩
            · simp [DetectorCall.metricName, stepCheck, sameBaseline]
            · rw [DetectorCall.metricName, stepCheck, check_anomaly_anomalies, ← sameDecision, flagged]
              exact congrFun agrees.anomalies metricName
        | some anomaly =>
            exact ⟨kept.same _ rfl (result_update _ _ _ (by simp [pc, Pc.result])),
              agrees.flag found pc idle flagged⟩
      · exact ⟨kept, agrees⟩
  | pushing anomaly =>
      have pushing : ω.Pushing w.pc thread metricName value timestamp anomaly := ⟨found, pc⟩
      obtain ⟨baseline, decision⟩ := agrees.pending thread metricName value timestamp anomaly pushing
      have idle' : ω.Idle (Function.update w.pc thread (.releasing (some anomaly))) metricName := by
        intro other pushing'
        obtain ⟨pushed, different⟩ := (ω.pushing_on_update w.pc thread (.releasing (some anomaly))
          (fun _ => nofun) other _).mp pushing'
        exact different (agrees.exclusive other thread metricName pushed ⟨value, timestamp, anomaly, pushing⟩)
      refine ⟨kept.commit found (by simp [pc, Pc.result]) _ (.releasing (some anomaly)) (by
        simp [Pc.result, stepCheck, decision]), agrees.commit found (.releasing (some anomaly))
        (fun _ => nofun) idle' _ rfl (fun named different => ⟨rfl, Function.update_noteq different _ _⟩)
        ⟨?_, ?_⟩⟩
      · simp [DetectorCall.metricName, stepCheck, baseline]
      · simp only [DetectorCall.metricName, stepCheck, check_anomaly_anomalies, decision,
          Function.update_same, logOf, agrees.anomalies]
  | releasing result =>
      refine ⟨kept.same _ rfl (result_update _ _ _ (by simp [pc, Pc.result])),
        agrees.same _ rfl rfl fun other named value timestamp anomaly => ?_⟩
      rw [ω.pushing_update w.pc thread (.done result) (fun _ => nofun)]
      exact ⟨And.left, fun pushing => ⟨pushing, fun same => by simp [Pushing, same, pc] at pushing⟩⟩
  | done result => exact ⟨kept, agrees⟩

theorem Linearizes.reset_baseline_step (linearizes : ω.Linearizes w) {thread : Nat}
    {metricName : String} (found : ω.calls[thread]? = some (.resetBaseline metricName)) :
    ω.Linearizes (ω.resetBaselineStep w thread metricName) := by
  obtain ⟨kept, agrees⟩ := linearizes
  unfold resetBaselineStep
  cases pc : w.pc thread with
  | start =>
      cases held : ω.guardHeld w metricName
      · have idle := ω.idle_update_of_idle _ thread (.done none) (fun _ => nofun) _
          (ω.idle_of_free w metricName held)
        refine ⟨kept.commit found (by simp [pc, Pc.result]) _ (.done none) rfl, agrees.commit found
          (.done none) (fun _ => nofun) idle (w.detector.resetBaseline metricName) rfl
          (fun named different => ⟨Function.update_noteq different _ _, rfl⟩) ⟨?_, ?_⟩⟩
        · simp [DetectorCall.metricName, AnomalyDetector.step, resetBaseline]
        · exact congrFun agrees.anomalies metricName
      · exact ⟨kept, agrees⟩
  | _ => exact ⟨kept, agrees⟩

theorem Linearizes.step (linearizes : ω.Linearizes w) (thread : Nat) :
    ω.Linearizes (ω.step w thread) := by
  unfold Workload.step
  cases found : ω.calls[thread]? with
  | none => exact linearizes
  | some call =>
      cases call with
      | checkAnomaly metricName value timestamp => exact linearizes.check_anomaly_step found
      | resetBaseline metricName => exact linearizes.reset_baseline_step found

theorem Linearizes.run (linearizes : ω.Linearizes w) (schedule : List Nat) :
    ω.Linearizes (ω.run w schedule) := by
  induction schedule generalizing w with
  | nil => exact linearizes
  | cons thread rest ih => exact ih (linearizes.step thread)

theorem linearizes_start : ω.Linearizes ω.start :=
  ⟨⟨List.nodup_nil, nofun, rfl, fun _ _ => nofun⟩,
    ⟨rfl, rfl, fun _ _ => rfl, fun _ _ _ _ _ pushing => (nomatch pushing.2),
      fun _ _ _ ⟨_, _, _, _, pushing⟩ => (nomatch pushing)⟩⟩

end Workload

/-- Concurrent check_anomaly and reset_baseline calls are linearizable. At every point of every
interleaving, each call that has taken effect did so once, its reply is the reply the sequential
detector gives it when fed the calls in the order they took effect, every metric's log is that
detector's, and so is every window no flagged check is about to push on. -/
theorem concurrent_checks_linearizable (ω : Workload) (schedule : List Nat) :
    (ω.run ω.start schedule).order.Nodup ∧
    (ω.linearized (ω.run ω.start schedule)).length = (ω.run ω.start schedule).order.length ∧
    (∀ thread result, ((ω.run ω.start schedule).pc thread).result = some result →
      (thread, result) ∈ (ω.run ω.start schedule).order.zip (ω.sequential (ω.run ω.start schedule)).1) ∧
    (ω.run ω.start schedule).detector.anomalies = (ω.sequential (ω.run ω.start schedule)).2.anomalies ∧
    ∀ metricName, ω.Idle (ω.run ω.start schedule).pc metricName →
      (ω.run ω.start schedule).detector.baselines metricName =
        (ω.sequential (ω.run ω.start schedule)).2.baselines metricName := by
  obtain ⟨⟨nodup, -, length, replies⟩, ⟨-, anomalies, baselines, -, -⟩⟩ :=
    Workload.linearizes_start.run schedule
  exact ⟨nodup, length, replies, anomalies, baselines⟩

end AnomalyDetector

end AnalyticsHub.Analytics
