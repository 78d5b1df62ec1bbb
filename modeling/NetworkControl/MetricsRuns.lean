import NetworkControl.LossAccounting

/-!
# Runs of MetricsCollector

Any sequence of the collector's public operations, `Reset` and
`GetSnapshot` among them, with the clock readings they take. The clock is
`std::chrono::steady_clock`, so the readings never go back
(`ClockForward`).
-/

namespace NetworkControl

namespace MetricsCollector

/-- `GetSnapshot` changes nothing, but it reads the clock. -/
inductive Operation where
  | call (call : Call)
  | reset
  | getSnapshot (now : TimePoint)

/-- The clock reading that the statistics use. -/
def Call.time? : Call → Option TimePoint
  | .onPacketReceived receivedTime _ _ _ => some receivedTime
  | .onPlay now => some now
  | .onPause now => some now
  | .setExpectedDataRate _ => none

namespace Operation

def apply (m : MetricsCollector) : Operation → MetricsCollector
  | call c => c.apply m
  | reset => m.reset
  | getSnapshot _ => m

def time? : Operation → Option TimePoint
  | call c => c.time?
  | reset => none
  | getSnapshot now => some now

def sequenceId? : Operation → Option Nat
  | call c => c.sequenceId?
  | _ => none

end Operation

/-- A collector from its construction on. -/
def run (operations : List Operation) : MetricsCollector :=
  operations.foldl Operation.apply {}

theorem run_concat (operations : List Operation) (op : Operation) :
    run (operations ++ [op]) = op.apply (run operations) :=
  List.foldl_concat ..

theorem Received.record_hasReceivedPacket (r : Received) (id : Nat) :
    (r.record id).hasReceivedPacket = true := by
  by_cases hreceived : r.hasReceivedPacket = true
  · by_cases hnewer : id > r.highestSequenceId
    · rw [Received.record_newer hreceived hnewer]
      exact hreceived
    · rw [Received.record_older hreceived (Nat.not_lt.mp hnewer)]
      exact hreceived
  · rw [Received.record_first (Bool.eq_false_of_not_eq_true hreceived)]

/-- A packet came in since the last `reset`. -/
def packetReceived (operations : List Operation) : Bool :=
  operations.foldl (fun received op =>
    match op with
    | .call (.onPacketReceived ..) => true
    | .reset => false
    | _ => received) false

theorem packetReceived_concat (operations : List Operation)
    (op : Operation) : packetReceived (operations ++ [op])
      = match op with
        | .call (.onPacketReceived ..) => true
        | .reset => false
        | _ => packetReceived operations := by
  rw [packetReceived, List.foldl_concat]
  rfl

/-- The collector's own flag says so. -/
theorem run_hasReceivedPacket (operations : List Operation) :
    (run operations).hasReceivedPacket = packetReceived operations := by
  induction operations using List.reverseRecOn with
  | nil => rfl
  | append_singleton operations op ih =>
      rw [run_concat, packetReceived_concat]
      cases op with
      | reset => rfl
      | getSnapshot now => exact ih
      | call c =>
          have hflag := congrArg Received.hasReceivedPacket
            (Call.apply_received (run operations) c)
          cases c with
          | onPacketReceived receivedTime nowMicroseconds id sendTimestamp =>
              exact hflag.trans (Received.record_hasReceivedPacket _ _)
          | _ => exact hflag.trans ih

/-- The clock readings of some operations, in order. -/
def clock (operations : List Operation) : List TimePoint :=
  operations.filterMap Operation.time?

/-- Up to the reading `now`, the clock does not go back. -/
def ClockForward (operations : List Operation) (now : TimePoint) : Prop :=
  (clock operations ++ [now]).Pairwise (· ≤ ·)

instance (operations : List Operation) (now : TimePoint) :
    Decidable (ClockForward operations now) :=
  inferInstanceAs (Decidable (List.Pairwise _ _))

section

variable {operations : List Operation} {op : Operation} {now : TimePoint}

/-- The last operation came after the others and before `now`. -/
theorem ClockForward.of_concat (h : ClockForward (operations ++ [op]) now) :
    ∃ t, ClockForward operations t ∧ t ≤ now ∧ ∀ time ∈ op.time?, time = t := by
  rw [ClockForward, clock, List.filterMap_append, ← clock] at h
  cases htime : op.time? with
  | none =>
      rw [List.filterMap_cons_none htime, List.filterMap_nil,
        List.append_nil] at h
      exact ⟨now, h, le_rfl, fun _ ht => nomatch ht⟩
  | some time =>
      rw [List.filterMap_cons_some htime, List.filterMap_nil] at h
      refine ⟨time, (List.pairwise_append.mp h).1, ?_,
        fun _ ht => (Option.some.inj ht).symm⟩
      exact (List.pairwise_append.mp h).2.2 time (by simp) now (by simp)

theorem ClockForward.mono {later : TimePoint} (h : ClockForward operations now)
    (hle : now ≤ later) : ClockForward operations later := by
  obtain ⟨hpast, -, hnow⟩ := List.pairwise_append.mp h
  refine List.pairwise_append.mpr ⟨hpast, List.pairwise_singleton _ _, ?_⟩
  intro t ht t' ht'
  obtain rfl := List.mem_singleton.mp ht'
  exact (hnow t ht now (by simp)).trans hle

end

end MetricsCollector

end NetworkControl
