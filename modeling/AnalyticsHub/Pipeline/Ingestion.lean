import AnalyticsHub.Schemas.Events

set_option autoImplicit false

/- The consumer loop that EventIngester::start_consuming spawns (pipeline/ingestion.rs). The
   Kafka stream is what consumer.recv() returns, one item per pass of the loop: a transport
   error, or a message whose payload may be missing. serde_json's decoding of an
   AnalyticsEvent is a parameter. The mpsc channel is the list of events tx.send has delivered
   and whether its receiver is still alive: tokio's send fails only once the receiver is
   dropped. The log lines, the one-second sleep after an error and Kafka's offsets are left
   out. -/
namespace AnalyticsHub.Pipeline

open AnalyticsHub.Schemas

abbrev Payload := List UInt8

/-- The loop's locals, message_count and batch, and the channel that tx feeds. -/
structure ConsumerState where
  messageCount : Nat
  batch : List AnalyticsEvent
  sent : List AnalyticsEvent
  receiverAlive : Bool
deriving DecidableEq, Repr

namespace ConsumerState

variable {KafkaError DecodeError : Type}

def start : ConsumerState := ⟨0, [], [], true⟩

/-- for event in batch.drain(..) { if tx.send(event).await.is_err() { break } }: the drained
events are sent in order until a send fails, and drain leaves the batch empty either way. -/
def sendDrained (s : ConsumerState) : List AnalyticsEvent → ConsumerState
  | [] => s
  | event :: rest =>
      if s.receiverAlive then sendDrained { s with sent := s.sent ++ [event] } rest else s

/-- One pass of the loop over what consumer.recv() returned. -/
def step (decode : Payload → Except DecodeError AnalyticsEvent) (s : ConsumerState) :
    Except KafkaError (Option Payload) → ConsumerState
  | .error _ => s
  | .ok none => { s with messageCount := s.messageCount + 1 }
  | .ok (some payload) =>
      let s := { s with messageCount := s.messageCount + 1 }
      match decode payload with
      | .error _ => s
      | .ok event =>
          let s := { s with batch := s.batch ++ [event] }
          if s.batch.length ≥ 1000 then sendDrained { s with batch := [] } s.batch else s

def run (decode : Payload → Except DecodeError AnalyticsEvent) (s : ConsumerState)
    (stream : List (Except KafkaError (Option Payload))) : ConsumerState :=
  stream.foldl (step decode) s

end ConsumerState

/-- The events of a stream that decode, in arrival order: what the loop is to hand on. -/
def decodedEvents {KafkaError DecodeError : Type} (decode : Payload → Except DecodeError AnalyticsEvent)
    (stream : List (Except KafkaError (Option Payload))) : List AnalyticsEvent :=
  stream.filterMap fun received =>
    match received with
    | .ok (some payload) => (decode payload).toOption
    | _ => none

namespace ConsumerState

variable {KafkaError DecodeError : Type} (decode : Payload → Except DecodeError AnalyticsEvent)

theorem send_drained_alive (s : ConsumerState) (alive : s.receiverAlive = true)
    (events : List AnalyticsEvent) :
    sendDrained s events = { s with sent := s.sent ++ events } := by
  induction events generalizing s with
  | nil => simp [sendDrained]
  | cons event rest ih =>
      rw [sendDrained, if_pos alive, ih { s with sent := s.sent ++ [event] } alive]
      simp

theorem send_drained_receiver (s : ConsumerState) (events : List AnalyticsEvent) :
    (sendDrained s events).receiverAlive = s.receiverAlive ∧ (sendDrained s events).batch = s.batch := by
  induction events generalizing s with
  | nil => exact ⟨rfl, rfl⟩
  | cons event rest ih =>
      unfold sendDrained
      split
      · exact ih _
      · exact ⟨rfl, rfl⟩

theorem step_receiver_alive (s : ConsumerState) (received : Except KafkaError (Option Payload)) :
    (step decode s received).receiverAlive = s.receiverAlive := by
  rcases received with _ | _ | payload
  · rfl
  · rfl
  · simp only [step]
    split
    · rfl
    · split
      · exact (send_drained_receiver _ _).1
      · rfl

/-- An item that carries no decodable event, a transport error, a message without payload or
a malformed one, changes neither the batch nor what was sent. -/
theorem step_without_event (s : ConsumerState) (received : Except KafkaError (Option Payload))
    (none : decodedEvents decode [received] = []) :
    (step decode s received).sent = s.sent ∧ (step decode s received).batch = s.batch := by
  rcases received with _ | _ | payload
  · exact ⟨rfl, rfl⟩
  · exact ⟨rfl, rfl⟩
  · simp only [decodedEvents, List.filterMap_cons, List.filterMap_nil] at none
    simp only [step]
    split
    · exact ⟨rfl, rfl⟩
    · rename_i event decoded
      simp [decoded, Except.toOption] at none

/-- With the receiver alive, one pass appends the item's decoded event, if any, to what was
sent followed by the batch, and keeps the batch below 1000. -/
theorem step_accounting (s : ConsumerState) (alive : s.receiverAlive = true)
    (small : s.batch.length < 1000) (received : Except KafkaError (Option Payload)) :
    (step decode s received).sent ++ (step decode s received).batch =
        s.sent ++ s.batch ++ decodedEvents decode [received] ∧
      (step decode s received).batch.length < 1000 := by
  rcases received with _ | _ | payload
  · simpa [step, decodedEvents] using small
  · simpa [step, decodedEvents] using small
  · simp only [step]
    split
    · rename_i err decoded
      simpa [decodedEvents, decoded, Except.toOption] using small
    · rename_i event decoded
      split
      · simp [send_drained_alive, alive, decodedEvents, decoded, Except.toOption]
      · rename_i notFull
        simp only [List.length_append, List.length_singleton] at notFull ⊢
        exact ⟨by simp [decodedEvents, decoded, Except.toOption], by omega⟩

theorem run_accounting (s : ConsumerState) (alive : s.receiverAlive = true)
    (small : s.batch.length < 1000) (stream : List (Except KafkaError (Option Payload))) :
    (run decode s stream).sent ++ (run decode s stream).batch =
        s.sent ++ s.batch ++ decodedEvents decode stream ∧
      (run decode s stream).batch.length < 1000 ∧ (run decode s stream).receiverAlive = true := by
  induction stream generalizing s with
  | nil => exact ⟨by simp [run, decodedEvents], small, alive⟩
  | cons received rest ih =>
      obtain ⟨accounted, bounded⟩ := step_accounting decode s alive small received
      obtain ⟨accountedRest, boundedRest, aliveRest⟩ :=
        ih (step decode s received) (by rw [step_receiver_alive, alive]) bounded
      refine ⟨?_, boundedRest, aliveRest⟩
      have split : decodedEvents decode (received :: rest) =
          decodedEvents decode [received] ++ decodedEvents decode rest := by
        simp only [decodedEvents, List.filterMap_cons, List.filterMap_nil]
        split <;> simp
      rw [run, List.foldl_cons, ← run, accountedRest, accounted, split, List.append_assoc]

/-- While the receiver is alive, the consumer loop neither loses, duplicates nor reorders
events: after every prefix of the stream, what was sent followed by the pending batch is the
decoded events in arrival order, the batch holds fewer than 1000, and an item without a
decodable event leaves both as they are. -/
theorem consumer_loop_no_loss (stream : List (Except KafkaError (Option Payload))) :
    let s := run decode start stream
    s.sent ++ s.batch = decodedEvents decode stream ∧ s.batch.length < 1000 ∧
    ∀ received : Except KafkaError (Option Payload), decodedEvents decode [received] = [] →
      (step decode s received).sent = s.sent ∧ (step decode s received).batch = s.batch := by
  obtain ⟨accounted, bounded, -⟩ := run_accounting decode start rfl (by decide) stream
  exact ⟨by simpa [start] using accounted, bounded,
    fun received none => step_without_event decode _ received none⟩

theorem send_drained_dropped (s : ConsumerState) (dropped : s.receiverAlive = false)
    (events : List AnalyticsEvent) : sendDrained s events = s := by
  cases events <;> simp [sendDrained, dropped]

theorem run_receiver_alive (s : ConsumerState) (stream : List (Except KafkaError (Option Payload))) :
    (run decode s stream).receiverAlive = s.receiverAlive := by
  induction stream generalizing s with
  | nil => rfl
  | cons received rest ih => rw [run, List.foldl_cons, ← run, ih, step_receiver_alive]

theorem decoded_events_append (stream more : List (Except KafkaError (Option Payload))) :
    decodedEvents decode (stream ++ more) = decodedEvents decode stream ++ decodedEvents decode more :=
  List.filterMap_append _ _ _

/-- One pass of the loop in terms of the events pending before it: the batch keeps what is
left after whole thousands, and those go to the channel if the receiver is alive. -/
theorem step_batches (s : ConsumerState) (small : s.batch.length < 1000)
    (received : Except KafkaError (Option Payload)) :
    let pending := s.batch ++ decodedEvents decode [received]
    let flushed := 1000 * (pending.length / 1000)
    (step decode s received).batch = pending.drop flushed ∧
    (step decode s received).sent = s.sent ++ if s.receiverAlive then pending.take flushed else [] := by
  have none : s.batch.length / 1000 = 0 := Nat.div_eq_of_lt small
  rcases received with _ | _ | payload
  · simp [step, decodedEvents, none]
  · simp [step, decodedEvents, none]
  · simp only [step]
    split
    · rename_i err decoded
      simp [decodedEvents, decoded, Except.toOption, none]
    · rename_i event decoded
      have single :
          decodedEvents decode [(Except.ok (some payload) : Except KafkaError (Option Payload))] =
            [event] := by
        simp [decodedEvents, decoded, Except.toOption]
      simp only [single]
      split
      · rename_i full
        have whole : (s.batch ++ [event]).length = 1000 := by
          simp only [List.length_append, List.length_singleton] at full ⊢
          omega
        rw [whole]
        cases alive : s.receiverAlive
        · simp [send_drained_dropped, alive, ← whole]
        · simp [send_drained_alive, alive, ← whole]
      · rename_i notFull
        simp only [List.length_append, List.length_singleton] at notFull
        have below : (s.batch.length + 1) / 1000 = 0 := Nat.div_eq_of_lt (by omega)
        simp [below]

/-- The batching law of the consumer loop: after any stream, the batch holds the pending events
left over after whole thousands, and the thousands before them have all been sent, in order,
if the receiver is alive, and all dropped by drain if it is not. -/
theorem consumer_loop_batches (s : ConsumerState) (small : s.batch.length < 1000)
    (stream : List (Except KafkaError (Option Payload))) :
    let pending := s.batch ++ decodedEvents decode stream
    let flushed := 1000 * (pending.length / 1000)
    (run decode s stream).batch = pending.drop flushed ∧
    (run decode s stream).sent = s.sent ++ if s.receiverAlive then pending.take flushed else [] := by
  induction stream using List.reverseRecOn with
  | nil => simp [run, decodedEvents, Nat.div_eq_of_lt small]
  | append_singleton stream received ih =>
      dsimp only at ih ⊢
      obtain ⟨batched, sentBefore⟩ := ih
      have bounded : (run decode s stream).batch.length < 1000 := by
        rw [batched, List.length_drop]
        omega
      obtain ⟨batchedNext, sentNext⟩ := step_batches decode (run decode s stream) bounded received
      rw [run, List.foldl_append, List.foldl_cons, List.foldl_nil, ← run, batchedNext, sentNext,
        decoded_events_append, run_receiver_alive, batched, sentBefore]
      generalize decodedEvents decode stream = decoded
      generalize decodedEvents decode [received] = arrived
      have within : 1000 * ((s.batch ++ decoded).length / 1000) ≤ (s.batch ++ decoded).length :=
        Nat.mul_div_le _ _
      have split : 1000 * ((s.batch ++ decoded ++ arrived).length / 1000) =
          1000 * ((s.batch ++ decoded).length / 1000) +
            1000 * (((s.batch ++ decoded).drop (1000 * ((s.batch ++ decoded).length / 1000)) ++
              arrived).length / 1000) := by
        simp only [List.length_append, List.length_drop]
        omega
      rw [← List.append_assoc, split, ← List.drop_append_of_le_length within, List.drop_drop]
      refine ⟨rfl, ?_⟩
      split
      · rw [List.append_assoc, List.take_add, List.take_append_of_le_length within,
          List.drop_append_of_le_length within]
      · simp

/-- 1001 messages that decode, with the receiver alive: the first 1000 are sent as one batch,
and the last one waits in the next. -/
theorem consumer_loop_batches_full_batch :
    let event : AnalyticsEvent := ⟨⟨1, 0, .llmObservatory, .telemetry, none, none, .info⟩⟩
    let decode : Payload → Except Unit AnalyticsEvent := fun _ => .ok event
    let stream : List (Except Unit (Option Payload)) := List.replicate 1001 (.ok (some []))
    start.batch.length < 1000 ∧
    (run decode start stream).sent = List.replicate 1000 event ∧
    (run decode start stream).batch = [event] := by
  intro event decode stream
  have decoded (n : Nat) :
      decodedEvents decode (List.replicate n (.ok (some []) : Except Unit (Option Payload))) =
        List.replicate n event := by
    induction n with
    | zero => rfl
    | succ n ih => rw [List.replicate_succ, List.replicate_succ, ← ih]; rfl
  obtain ⟨batched, sent⟩ := consumer_loop_batches decode start (by decide) stream
  simp only [start, stream, decoded 1001, List.nil_append, List.length_replicate, if_true,
    List.take_replicate, List.drop_replicate] at batched sent
  exact ⟨by decide, sent, batched⟩

end ConsumerState

end AnalyticsHub.Pipeline
