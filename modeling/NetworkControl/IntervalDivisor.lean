import NetworkControl.ReceiveIntervals

/-!
# The divisor of an interval

`RecordReceiveInterval` divides by the difference of two ids, one that
wraps around below 0, and returns early where it is 0. Neither happens: the
baseline is never above the highest id (`Based`), and the function is only
entered for an id above that (`enterRecordReceiveInterval`).

The baseline is set in three places and dropped in four, and no operation
breaks it, whatever the ids are: here they are not even bounded, and the
clock may go anywhere.
-/

namespace NetworkControl

namespace MetricsCollector

/-! ## The entry -/

section

variable (m : MetricsCollector) (receivedTime : TimePoint)
  (nowMicroseconds sequenceId sendTimestamp : Nat)

/-- The collector as `OnPacketReceived` enters `RecordReceiveInterval`, where
it does. -/
def enterRecordReceiveInterval : Option MetricsCollector :=
  let m := m.countReceived nowMicroseconds sendTimestamp
  if !m.hasReceivedPacket then none
  else if sequenceId > m.highestSequenceId then
    some { m with
      missingSequenceIds :=
        insertMissing m.missingSequenceIds m.highestSequenceId sequenceId }
  else none

variable {m sequenceId nowMicroseconds sendTimestamp}

/-- There is no other way in. -/
theorem onPacketReceived_of_enter {n : MetricsCollector}
    (h : m.enterRecordReceiveInterval nowMicroseconds sequenceId sendTimestamp
      = some n) :
    m.onPacketReceived receivedTime nowMicroseconds sequenceId sendTimestamp
      = { n.recordReceiveInterval receivedTime sequenceId with
          highestSequenceId := sequenceId }.expireStaleMissingSequenceIds
            sequenceId := by
  unfold enterRecordReceiveInterval at h
  unfold onPacketReceived
  dsimp only at h ⊢
  split at h
  · cases h
  · rename_i hreceived
    split at h
    · rename_i hnewer
      obtain rfl := Option.some.inj h
      rw [if_neg hreceived, if_pos hnewer]
    · cases h

/-- Otherwise the baseline stays, or is the first packet. -/
theorem onPacketReceived_of_not_enter
    (h : m.enterRecordReceiveInterval nowMicroseconds sequenceId sendTimestamp
      = none) :
    (m.onPacketReceived receivedTime nowMicroseconds sequenceId
        sendTimestamp).intervals = m.intervals
      ∨ (m.onPacketReceived receivedTime nowMicroseconds sequenceId
          sendTimestamp).intervals
        = m.intervals.takeBaseline receivedTime sequenceId := by
  have hcount := m.countReceived_intervals nowMicroseconds sendTimestamp
  unfold enterRecordReceiveInterval at h
  unfold onPacketReceived
  dsimp only at h ⊢
  generalize m.countReceived nowMicroseconds sendTimestamp = n at hcount h ⊢
  rw [← hcount]
  by_cases hfirst : (!n.hasReceivedPacket) = true
  · right
    rw [if_pos hfirst]
    rfl
  · left
    rw [if_neg hfirst] at h ⊢
    split at h
    · cases h
    · rename_i hle
      rw [if_neg hle]
      split <;> rfl

/-- What the branch that enters has checked. -/
theorem enter_spec {n : MetricsCollector}
    (h : m.enterRecordReceiveInterval nowMicroseconds sequenceId sendTimestamp
      = some n) :
    n.intervals = m.intervals ∧ n.hasReceivedPacket = true
      ∧ n.highestSequenceId < sequenceId := by
  unfold enterRecordReceiveInterval at h
  dsimp only at h
  split at h
  · cases h
  · rename_i hreceived
    split at h
    · rename_i hnewer
      obtain rfl := Option.some.inj h
      exact ⟨m.countReceived_intervals nowMicroseconds sendTimestamp,
        by simpa using hreceived, hnewer⟩
    · cases h

/-- It moves the baseline to the new id, or returns early. -/
theorem recordReceiveInterval_lastTiming :
    (m.recordReceiveInterval receivedTime sequenceId).lastTimingSequenceId
        = sequenceId
      ∨ m.recordReceiveInterval receivedTime sequenceId = m := by
  simp only [recordReceiveInterval]
  split_ifs
  · exact Or.inl rfl
  · exact Or.inr rfl
  all_goals exact Or.inl rfl

theorem recordReceiveInterval_hasReceivedPacket :
    (m.recordReceiveInterval receivedTime sequenceId).hasReceivedPacket
      = m.hasReceivedPacket := by
  simp only [recordReceiveInterval]
  split_ifs <;> rfl

end

/-! ## The baseline in every run -/

section

variable {m : MetricsCollector}

theorem onPacketReceived_based (h : m.intervals.Based)
    (receivedTime : TimePoint)
    (nowMicroseconds sequenceId sendTimestamp : Nat) :
    (m.onPacketReceived receivedTime nowMicroseconds sequenceId
      sendTimestamp).intervals.Based := by
  cases henter : m.enterRecordReceiveInterval nowMicroseconds sequenceId
      sendTimestamp with
  | none =>
      rcases onPacketReceived_of_not_enter receivedTime henter with
        hsame | hfirst
      · rw [hsame]
        exact h
      · rw [hfirst]
        exact fun _ => ⟨rfl, le_rfl⟩
  | some n =>
      obtain ⟨hintervals, hreceived, hnewer⟩ := enter_spec henter
      rw [onPacketReceived_of_enter receivedTime henter,
        expireStale_intervals]
      rw [← hintervals] at h
      intro htiming
      refine ⟨?_, ?_⟩
      · exact (recordReceiveInterval_hasReceivedPacket receivedTime).trans
          hreceived
      · show (n.recordReceiveInterval receivedTime
          sequenceId).lastTimingSequenceId ≤ sequenceId
        have hmoved : (n.recordReceiveInterval receivedTime
              sequenceId).lastTimingSequenceId = sequenceId
            ∨ n.recordReceiveInterval receivedTime sequenceId = n :=
          recordReceiveInterval_lastTiming receivedTime
        rcases hmoved with hnew | hearly
        · exact hnew.le
        · -- the id differs by a multiple of 2^64, and the baseline stays
          rw [hearly]
          have htiming : n.hasTimingSample = true := by
            rw [← hearly]
            exact htiming
          exact (h htiming).2.trans hnewer.le

/-- No operation breaks the baseline. -/
theorem based_step (h : m.intervals.Based) (op : Operation) :
    (op.apply m).intervals.Based := by
  cases op with
  | getSnapshot now => exact h
  | reset => exact fun htiming => nomatch htiming
  | call c =>
      cases c with
      | onPacketReceived receivedTime nowMicroseconds id sendTimestamp =>
          exact onPacketReceived_based h _ _ _ _
      | setExpectedDataRate rate => exact fun htiming => nomatch htiming
      | onPlay now =>
          show (m.onPlay now).intervals.Based
          rw [onPlay_intervals]
          exact fun htiming => nomatch htiming
      | onPause now =>
          show (m.onPause now).intervals.Based
          rw [onPause_intervals]
          exact fun htiming => nomatch htiming

end

theorem run_based (operations : List Operation) :
    (run operations).intervals.Based := by
  induction operations using List.reverseRecOn with
  | nil => exact fun htiming => nomatch htiming
  | append_singleton operations op ih =>
      rw [run_concat]
      exact based_step ih op

/-- Whenever `RecordReceiveInterval` is entered with a baseline, the
baseline is a received packet and lies below the new id: the difference
does not wrap, is not 0, and a sample is taken. -/
theorem interval_divisor_pos (operations : List Operation)
    (receivedTime : TimePoint) (nowMicroseconds sendTimestamp : Nat)
    (sequenceId : UInt64) {m : MetricsCollector}
    (henter : (run operations).enterRecordReceiveInterval nowMicroseconds
      sequenceId.toNat sendTimestamp = some m)
    (htiming : m.hasTimingSample = true) :
    m.hasReceivedPacket = true
      ∧ m.lastTimingSequenceId ≤ m.highestSequenceId
      ∧ m.highestSequenceId < sequenceId.toNat
      ∧ sub64 sequenceId.toNat m.lastTimingSequenceId
          = sequenceId.toNat - m.lastTimingSequenceId
      ∧ 1 ≤ sub64 sequenceId.toNat m.lastTimingSequenceId
      ∧ (m.recordReceiveInterval receivedTime
          sequenceId.toNat).intervalSampleCount = m.intervalSampleCount + 1 := by
  obtain ⟨hintervals, hreceived, hnewer⟩ := enter_spec henter
  have hbased : m.intervals.Based := hintervals ▸ run_based operations
  have hle : m.lastTimingSequenceId ≤ m.highestSequenceId :=
    (hbased htiming).2
  have hlast : m.lastTimingSequenceId < sequenceId.toNat :=
    hle.trans_lt hnewer
  have hsub : sub64 sequenceId.toNat m.lastTimingSequenceId
      = sequenceId.toNat - m.lastTimingSequenceId :=
    sub64_of_lt hlast.le sequenceId.toNat_lt
  refine ⟨hreceived, hle, hnewer, hsub, ?_, ?_⟩
  · rw [hsub]
    exact Nat.sub_pos_of_lt hlast
  · rw [recordReceiveInterval_addSample _ _ _ htiming hlast
      sequenceId.toNat_lt]
    rfl

/-- The second of two packets. -/
theorem interval_divisor_pos_second :
    1 ≤ sub64 3 1 :=
  (interval_divisor_pos [.call (.onPacketReceived 0 0 1 0)] 1 0 0 3 rfl
    rfl).2.2.2.2.1

end MetricsCollector

end NetworkControl
