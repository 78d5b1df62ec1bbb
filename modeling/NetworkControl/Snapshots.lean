import NetworkControl.ReceiveIntervals
import NetworkControl.RunningAverage

/-!
# Consistent snapshots

The numbers of a snapshot come from counters that different branches of
`OnPacketReceived` count up and different operations reset. Their bounds
hold in every state of a collector whose clock does not go back and whose
counters stay below 2^64: an invariant for each part (`Intervals.Bounded`,
`Latencies.Bounded`) and one for the counters (`Tallied`), each kept by
every operation.
-/

namespace NetworkControl

namespace MetricsCollector

/-! ## The intervals -/

namespace Intervals

/-- What the interval statistics say, as far as the clock went. -/
structure Bounded (v : Intervals) (now : TimePoint) : Prop where
  based : v.Based
  baseline_le : v.hasTimingSample → v.lastReceiveTime ≤ now
  delayed_le : v.delayedPacketCount ≤ v.intervalSampleCount
  average : RunningAverage v.intervalSampleCount
    v.totalReceiveIntervalMilliseconds 0 v.maxReceiveIntervalMilliseconds

section

variable {v : Intervals} {now : TimePoint} {id : Nat}

theorem Bounded.mono (h : v.Bounded now) {later : TimePoint}
    (hle : now ≤ later) : v.Bounded later :=
  { h with baseline_le := fun htiming => (h.baseline_le htiming).trans hle }

theorem Bounded.drop (h : v.Bounded now) (dataRate : DataRate) :
    { v with
      expectedDataRate := dataRate, hasTimingSample := false }.Bounded now :=
  { h with
    based := fun htiming => nomatch htiming
    baseline_le := fun htiming => nomatch htiming }

theorem interval_nonneg (h : v.Bounded now)
    (htiming : v.hasTimingSample = true) : 0 ≤ v.interval now id :=
  div_nonneg (mul_nonneg (sub_nonneg.mpr (h.baseline_le htiming))
    (by norm_num)) (Nat.cast_nonneg _)

theorem Bounded.record (h : v.Bounded now) (id : Nat) :
    (v.record now id).Bounded now := by
  have hbased : (v.record now id).Based := h.based.record
  by_cases hlate : v.Late id
  · rw [record_late hlate]
    exact h
  by_cases htiming : v.hasTimingSample = true
  · rw [record_sample hlate htiming] at hbased ⊢
    refine { based := hbased, baseline_le := fun _ => le_rfl
             delayed_le := ?_, average := ?_ }
    · have hdelayed := h.delayed_le
      simp only [addSample, takeBaseline]
      split <;> omega
    · have hadd := h.average.add (v.interval now id)
      rw [min_eq_left (interval_nonneg h htiming)] at hadd
      exact hadd
  · rw [record_baseline hlate htiming] at hbased ⊢
    exact { h with based := hbased, baseline_le := fun _ => le_rfl }

/-- Only a packet that is not late adds a sample, and not the first one. -/
theorem record_intervalSampleCount_le (hbased : v.Based)
    (receivedTime : TimePoint) :
    (v.record receivedTime id).intervalSampleCount ≤ v.intervalSampleCount
      + if v.hasReceivedPacket ∧ ¬ v.Late id then 1 else 0 := by
  by_cases hlate : v.Late id
  · rw [record_late hlate]
    exact Nat.le_add_right _ _
  by_cases htiming : v.hasTimingSample = true
  · rw [record_sample hlate htiming,
      if_pos ⟨(hbased htiming).1, hlate⟩]
    exact le_rfl
  · rw [record_baseline hlate htiming]
    exact Nat.le_add_right _ _

end

end Intervals

/-! ## The latencies -/

structure Latencies where
  hasLatencySample : Bool
  latencySampleCount : Nat
  totalLatencyMilliseconds : ℚ
  minLatencyMilliseconds : ℚ
  maxLatencyMilliseconds : ℚ

def latencies (m : MetricsCollector) : Latencies where
  hasLatencySample := m.hasLatencySample
  latencySampleCount := m.latencySampleCount
  totalLatencyMilliseconds := m.totalLatencyMilliseconds
  minLatencyMilliseconds := m.minLatencyMilliseconds
  maxLatencyMilliseconds := m.maxLatencyMilliseconds

/-- What the latency statistics say after `received` packets. -/
structure Latencies.Bounded (v : Latencies) (received : Nat) : Prop where
  hasSample : v.hasLatencySample = true ↔ v.latencySampleCount ≠ 0
  count_le : v.latencySampleCount ≤ received
  min_nonneg : 0 ≤ v.minLatencyMilliseconds
  average : RunningAverage v.latencySampleCount v.totalLatencyMilliseconds
    v.minLatencyMilliseconds v.maxLatencyMilliseconds

section

variable (m : MetricsCollector) (now receivedTime : TimePoint)
  (nowMicroseconds sequenceId sendTimestamp : Nat)

theorem recordReceiveInterval_latencies :
    (m.recordReceiveInterval receivedTime sequenceId).latencies
      = m.latencies := by
  simp only [recordReceiveInterval]
  split_ifs <;> rfl

theorem expireStale_latencies :
    (m.expireStaleMissingSequenceIds sequenceId).latencies = m.latencies := by
  unfold expireStaleMissingSequenceIds
  split <;> rfl

/-- `RecordLatency` is all that `OnPacketReceived` does to this part. -/
theorem onPacketReceived_latencies :
    (m.onPacketReceived receivedTime nowMicroseconds sequenceId
        sendTimestamp).latencies
      = (m.recordLatency nowMicroseconds sendTimestamp).latencies := by
  have hcount : (m.countReceived nowMicroseconds sendTimestamp).latencies
      = (m.recordLatency nowMicroseconds sendTimestamp).latencies := by
    unfold countReceived recordLatency
    split <;> rfl
  unfold onPacketReceived
  dsimp only
  rw [← hcount]
  split
  · rfl
  · split
    · rw [expireStale_latencies]
      exact recordReceiveInterval_latencies _ _ _
    · split <;> rfl

theorem onPlay_latencies : (m.onPlay now).latencies = m.latencies := by
  unfold onPlay
  split <;> rfl

theorem onPause_latencies : (m.onPause now).latencies = m.latencies := by
  unfold onPause
  split <;> rfl

variable {m}

theorem Latencies.Bounded.recordLatency {received : Nat}
    (h : m.latencies.Bounded received) :
    (m.recordLatency nowMicroseconds sendTimestamp).latencies.Bounded
      (received + 1) := by
  unfold MetricsCollector.recordLatency
  split
  · exact { h with count_le := h.count_le.trans (Nat.le_succ _) }
  dsimp only
  have hnonneg :
      (0 : ℚ) ≤ ((nowMicroseconds - sendTimestamp : Nat) : ℚ) / 1000 :=
    div_nonneg (Nat.cast_nonneg _) (by norm_num)
  generalize ((nowMicroseconds - sendTimestamp : Nat) : ℚ) / 1000 = latency
    at hnonneg ⊢
  have hcount : m.latencySampleCount + 1 ≤ received + 1 :=
    Nat.succ_le_succ h.count_le
  by_cases hhas : m.hasLatencySample = true
  · -- not the first sample
    have hmin : (if (!m.hasLatencySample
            || decide (latency < m.minLatencyMilliseconds)) = true then latency
          else m.minLatencyMilliseconds)
        = min m.minLatencyMilliseconds latency := by
      simp only [hhas, Bool.not_true, Bool.false_or, decide_eq_true_eq]
      rw [min_comm]
      exact (min_def_lt _ _).symm
    have hmax : (if (!m.hasLatencySample
            || decide (latency > m.maxLatencyMilliseconds)) = true then latency
          else m.maxLatencyMilliseconds)
        = max m.maxLatencyMilliseconds latency := by
      simp only [hhas, Bool.not_true, Bool.false_or, decide_eq_true_eq]
      exact (max_def_lt _ _).symm
    rw [hmin, hmax]
    exact
      { hasSample := iff_of_true rfl (Nat.succ_ne_zero _)
        count_le := hcount
        min_nonneg := le_min h.min_nonneg hnonneg
        average := h.average.add latency }
  · -- the first one
    have hzero : m.latencySampleCount = 0 :=
      not_not.mp fun hne => hhas (h.hasSample.mpr hne)
    have hfalse : m.hasLatencySample = false :=
      Bool.eq_false_of_not_eq_true hhas
    have haverage : RunningAverage 0 m.totalLatencyMilliseconds
        m.minLatencyMilliseconds m.maxLatencyMilliseconds := by
      rw [← hzero]
      exact h.average
    have htotal : m.totalLatencyMilliseconds = 0 := haverage.eq_zero
    rw [hfalse, Bool.not_false, Bool.true_or, Bool.true_or, if_pos rfl,
      if_pos rfl, htotal, hzero, zero_add, zero_add]
    rw [hzero, zero_add] at hcount
    exact
      { hasSample := iff_of_true rfl one_ne_zero
        count_le := hcount
        min_nonneg := hnonneg
        average := RunningAverage.single latency }

end

/-! ## The counters -/

/-- Every packet but the first is at most one of: in place of a lost one,
or a sample. What is lost lies below the highest id. -/
structure Tallied (m : MetricsCollector) : Prop where
  none : m.hasReceivedPacket = false →
    m.totalReceivedCount = 0 ∧ m.outOfOrderCount = 0
      ∧ m.intervalSampleCount = 0 ∧ m.received.lost = 0
  some : m.hasReceivedPacket = true →
    m.outOfOrderCount + m.intervalSampleCount < m.totalReceivedCount
  lost_le : m.received.lost ≤ m.received.highestSequenceId

theorem Received.record_lost_le {r : Received} (id : Nat)
    (hfirst : r.hasReceivedPacket = false → r.lost = 0)
    (hlost : r.lost ≤ r.highestSequenceId) :
    (r.record id).lost ≤ (r.record id).highestSequenceId := by
  by_cases hreceived : r.hasReceivedPacket = true
  · by_cases hnewer : id > r.highestSequenceId
    · -- at most the ids in between are added
      have hunion := Finset.card_union_le r.missingSequenceIds
        (Finset.Ioo r.highestSequenceId id)
      rw [Nat.card_Ioo] at hunion
      rw [Received.record_newer_lost hreceived hnewer,
        Received.record_newer hreceived hnewer]
      unfold Received.lost at hlost
      dsimp only
      omega
    · rw [Received.record_older hreceived (Nat.not_lt.mp hnewer)]
      have herase := Finset.card_erase_le
        (s := r.missingSequenceIds) (a := id)
      unfold Received.lost at hlost ⊢
      dsimp only
      omega
  · have hnone := Bool.eq_false_of_not_eq_true hreceived
    rw [Received.record_first hnone]
    exact (hfirst hnone).le.trans (Nat.zero_le _)

theorem Received.le_record_highest (r : Received) (id : Nat) :
    id ≤ (r.record id).highestSequenceId := by
  unfold Received.record
  split
  · exact le_rfl
  · split
    · exact le_rfl
    · rename_i hle
      exact Nat.not_lt.mp hle

/-- What holds of a collector whose clock has come to `now`. -/
structure Sound (m : MetricsCollector) (now : TimePoint) : Prop where
  intervals : m.intervals.Bounded now
  latencies : m.latencies.Bounded m.totalReceivedCount
  tallied : m.Tallied

theorem sound_reset (m : MetricsCollector) (now : TimePoint) :
    m.reset.Sound now where
  intervals :=
    { based := fun htiming => nomatch htiming
      baseline_le := fun htiming => nomatch htiming
      delayed_le := le_rfl
      average := RunningAverage.empty 0 0 }
  latencies :=
    { hasSample := iff_of_false Bool.false_ne_true fun hne => hne rfl
      count_le := le_rfl
      min_nonneg := le_rfl
      average := RunningAverage.empty 0 0 }
  tallied :=
    { none := fun _ => ⟨rfl, rfl, rfl, rfl⟩
      some := fun hsome => nomatch hsome
      lost_le := le_rfl }

section

variable {m : MetricsCollector} {time : TimePoint}

theorem Sound.mono (h : m.Sound time) {later : TimePoint}
    (hle : time ≤ later) : m.Sound later :=
  { h with intervals := h.intervals.mono hle }

theorem Tallied.onPacketReceived (h : m.Tallied) (hbased : m.intervals.Based)
    (nowMicroseconds id sendTimestamp : Nat) (hid : id < 2 ^ 64) :
    (m.onPacketReceived time nowMicroseconds id sendTimestamp).Tallied := by
  have htotal :=
    m.onPacketReceived_totalReceivedCount time nowMicroseconds id sendTimestamp
  have horder :=
    m.onPacketReceived_outOfOrderCount time nowMicroseconds id sendTimestamp
  have hreceived :=
    m.onPacketReceived_received time nowMicroseconds id sendTimestamp
  have hintervals : (m.onPacketReceived time nowMicroseconds id
        sendTimestamp).intervalSampleCount
      = (m.intervals.record time id).intervalSampleCount :=
    congrArg Intervals.intervalSampleCount
      (m.onPacketReceived_intervals time nowMicroseconds id sendTimestamp
        hbased hid)
  have hsample : (m.intervals.record time id).intervalSampleCount
      ≤ m.intervalSampleCount
        + if m.hasReceivedPacket ∧ ¬ m.intervals.Late id then 1 else 0 :=
    Intervals.record_intervalSampleCount_le hbased time
  rw [← hintervals] at hsample
  generalize m.onPacketReceived time nowMicroseconds id sendTimestamp = n at *
  refine ⟨?_, fun _ => ?_, ?_⟩
  · intro hnone
    have hsome : n.hasReceivedPacket = true :=
      (congrArg Received.hasReceivedPacket hreceived).trans
        (Received.record_hasReceivedPacket _ _)
    rw [hnone] at hsome
    cases hsome
  · by_cases hfirst : m.hasReceivedPacket = true
    · have hlt := h.some hfirst
      by_cases hlate : m.intervals.Late id
      · rw [if_neg fun hnew => hnew.2 hlate] at hsample
        split at horder <;> omega
      · rw [if_pos ⟨hfirst, hlate⟩] at hsample
        rw [if_neg fun hfills : m.received.Fills id =>
          hlate ⟨hfills.1, hfills.2.1⟩] at horder
        omega
    · obtain ⟨hzero, horder0, hcount0, -⟩ :=
        h.none (Bool.eq_false_of_not_eq_true hfirst)
      rw [if_neg fun hnew => hfirst hnew.1] at hsample
      rw [if_neg fun hfills : m.received.Fills id => hfirst hfills.1] at horder
      omega
  · rw [hreceived]
    exact Received.record_lost_le id (fun hnone => (h.none hnone).2.2.2)
      h.lost_le

/-- What only drops the baseline keeps the statistics. -/
theorem Sound.of_drop {n : MetricsCollector} (h : m.Sound time)
    {dataRate : DataRate}
    (hintervals : n.intervals
      = { m.intervals with
          expectedDataRate := dataRate, hasTimingSample := false })
    (hlatencies : n.latencies = m.latencies)
    (hcount : n.totalReceivedCount = m.totalReceivedCount)
    (htallied : n.Tallied) : n.Sound time where
  intervals := by
    rw [hintervals]
    exact h.intervals.drop _
  latencies := by
    rw [hlatencies, hcount]
    exact h.latencies
  tallied := htallied

/-- One operation, at the reading of the clock it takes. -/
theorem Sound.step {op : Operation} (h : m.Sound time)
    (htime : ∀ t ∈ op.time?, t = time) (hid : ∀ id ∈ op.sequenceId?,
      id < 2 ^ 64) : (op.apply m).Sound time := by
  cases op with
  | getSnapshot now => exact h
  | reset => exact sound_reset m time
  | call c =>
      cases c with
      | setExpectedDataRate rate =>
          exact h.of_drop (m.setExpectedDataRate_intervals rate) rfl rfl
            { h.tallied with }
      | onPacketReceived receivedTime nowMicroseconds id sendTimestamp =>
          obtain rfl : receivedTime = time := htime _ rfl
          have hid : id < 2 ^ 64 := hid id rfl
          refine
            { intervals := ?_, latencies := ?_
              tallied := h.tallied.onPacketReceived h.intervals.based _ id _
                hid }
          · show (m.onPacketReceived _ _ _ _).intervals.Bounded _
            rw [onPacketReceived_intervals _ _ _ _ _ h.intervals.based hid]
            exact h.intervals.record id
          · show (m.onPacketReceived _ _ _ _).latencies.Bounded
              (m.onPacketReceived _ _ _ _).totalReceivedCount
            rw [onPacketReceived_latencies,
              onPacketReceived_totalReceivedCount]
            exact h.latencies.recordLatency _ _
      | onPlay now =>
          refine h.of_drop (m.onPlay_intervals now) (m.onPlay_latencies now)
            (Call.apply_totalReceivedCount m (.onPlay now)) ?_
          unfold Operation.apply Call.apply onPlay
          dsimp only
          split <;> exact { h.tallied with }
      | onPause now =>
          refine h.of_drop (m.onPause_intervals now) (m.onPause_latencies now)
            (Call.apply_totalReceivedCount m (.onPause now)) ?_
          unfold Operation.apply Call.apply onPause
          dsimp only
          split <;> exact { h.tallied with }

end

/-! ## Runs -/

/-- The counters stay within 64 bits. -/
def InRange (operations : List Operation) : Prop :=
  ∀ earlier, earlier <+: operations →
    (run earlier).totalReceivedCount < 2 ^ 64
      ∧ (run earlier).totalReceivedCount + (run earlier).highestSequenceId
          < 2 ^ 64

instance (operations : List Operation) : Decidable (InRange operations) :=
  decidable_of_iff
    (∀ earlier ∈ operations.inits, (run earlier).totalReceivedCount < 2 ^ 64
      ∧ (run earlier).totalReceivedCount + (run earlier).highestSequenceId
          < 2 ^ 64)
    (forall_congr' fun _ => by rw [List.mem_inits])

/-- So do the ids of the packets. -/
theorem InRange.of_concat {operations : List Operation} {op : Operation}
    (h : InRange (operations ++ [op])) :
    InRange operations ∧ ∀ id ∈ op.sequenceId?, id < 2 ^ 64 := by
  refine ⟨fun earlier hbegins =>
    h earlier (hbegins.trans (List.prefix_append _ _)), ?_⟩
  intro id hid
  have hrange := (h _ (List.prefix_refl _)).2
  rw [run_concat] at hrange
  rcases op with ⟨receivedTime, nowMicroseconds, sequenceId, sent⟩ | _ | _
  all_goals cases hid
  have hle : id ≤ ((run operations).onPacketReceived receivedTime
      nowMicroseconds id sent).received.highestSequenceId := by
    rw [onPacketReceived_received]
    exact Received.le_record_highest _ _
  exact (hle.trans (Nat.le_add_left _ _)).trans_lt hrange

theorem run_sound (operations : List Operation) :
    ∀ now, ClockForward operations now → InRange operations →
      (run operations).Sound now := by
  induction operations using List.reverseRecOn with
  | nil =>
      intro now _ _
      exact sound_reset {} now
  | append_singleton operations op ih =>
      intro now hclock hrange
      obtain ⟨t, hpast, hle, htime⟩ := hclock.of_concat
      obtain ⟨hbefore, hid⟩ := hrange.of_concat
      rw [run_concat]
      exact ((ih t hpast hbefore).step htime hid).mono hle

end MetricsCollector

/-! ## The snapshot -/

/-- The bounds between the numbers of one snapshot; `received` says whether
there was a packet. -/
structure MetricsSnapshot.Consistent (s : MetricsSnapshot Nat ℚ)
    (received : Bool) : Prop where
  lossRate : 0 ≤ s.lossRate ∧ s.lossRate ≤ 100
  counts : received = true →
    s.outOfOrderCount + s.intervalSampleCount < s.totalReceivedCount
  delayed : s.delayedPacketCount ≤ s.intervalSampleCount
  delayedRate : 0 ≤ s.delayedPacketRate ∧ s.delayedPacketRate ≤ 100
  intervals : 0 ≤ s.averageReceiveIntervalMilliseconds
    ∧ s.averageReceiveIntervalMilliseconds ≤ s.maxReceiveIntervalMilliseconds
  latencyCount : s.latencySampleCount ≤ s.totalReceivedCount
  latencies : 0 ≤ s.minLatencyMilliseconds
    ∧ s.minLatencyMilliseconds ≤ s.averageLatencyMilliseconds
    ∧ s.averageLatencyMilliseconds ≤ s.maxLatencyMilliseconds
  noOverflow : s.totalReceivedCount + s.lossCount < 2 ^ 64

namespace MetricsCollector

theorem percentage_mem {part whole : Nat} (h : part ≤ whole) :
    0 ≤ (part : ℚ) / whole * 100 ∧ (part : ℚ) / whole * 100 ≤ 100 := by
  have hle : (part : ℚ) / whole ≤ 1 :=
    div_le_one_of_le₀ (Nat.cast_le.mpr h) (Nat.cast_nonneg _)
  have hnonneg : 0 ≤ (part : ℚ) / whole :=
    div_nonneg (Nat.cast_nonneg _) (Nat.cast_nonneg _)
  constructor <;> linarith

section

variable {m : MetricsCollector} {now : TimePoint}

theorem Sound.delayedPacketRate (h : m.Sound now) :
    0 ≤ (m.getSnapshot now).delayedPacketRate
      ∧ (m.getSnapshot now).delayedPacketRate ≤ 100 := by
  show 0 ≤ ite _ _ _ ∧ ite _ _ _ ≤ _
  split
  · exact percentage_mem h.intervals.delayed_le
  · norm_num

theorem Sound.receiveIntervals (h : m.Sound now) :
    0 ≤ (m.getSnapshot now).averageReceiveIntervalMilliseconds
      ∧ (m.getSnapshot now).averageReceiveIntervalMilliseconds
        ≤ (m.getSnapshot now).maxReceiveIntervalMilliseconds := by
  show 0 ≤ ite _ _ _ ∧ ite _ _ _ ≤ ite _ _ _
  split
  · rename_i hcount
    exact ⟨h.intervals.average.le_average hcount,
      h.intervals.average.average_le hcount⟩
  · exact ⟨le_rfl, le_rfl⟩

theorem Sound.snapshotLatencies (h : m.Sound now) :
    0 ≤ (m.getSnapshot now).minLatencyMilliseconds
      ∧ (m.getSnapshot now).minLatencyMilliseconds
        ≤ (m.getSnapshot now).averageLatencyMilliseconds
      ∧ (m.getSnapshot now).averageLatencyMilliseconds
        ≤ (m.getSnapshot now).maxLatencyMilliseconds := by
  show 0 ≤ ite _ _ _ ∧ ite _ _ _ ≤ ite _ _ _ ∧ ite _ _ _ ≤ ite _ _ _
  split
  · rename_i hcount
    exact ⟨h.latencies.min_nonneg, h.latencies.average.le_average hcount,
      h.latencies.average.average_le hcount⟩
  · exact ⟨le_rfl, le_rfl, le_rfl⟩

theorem lossRate_mem (m : MetricsCollector) (now : TimePoint) :
    0 ≤ (m.getSnapshot now).lossRate ∧ (m.getSnapshot now).lossRate ≤ 100 := by
  rw [lossRate_eq]
  exact percentage_mem (Nat.le_add_left _ _)

end

/-- Every snapshot of a run with a steady clock and without overflow is
consistent. -/
theorem getSnapshot_consistent (operations : List Operation)
    (now : TimePoint) (hclock : ClockForward operations now)
    (hrange : InRange operations) :
    ((run operations).getSnapshot now).Consistent
      (packetReceived operations) := by
  have h := run_sound operations now hclock hrange
  have hbound := (hrange _ (List.prefix_refl _)).2
  rw [← run_hasReceivedPacket]
  generalize run operations = m at h hbound
  refine
    { lossRate := lossRate_mem m now
      counts := h.tallied.some
      delayed := h.intervals.delayed_le
      delayedRate := h.delayedPacketRate
      intervals := h.receiveIntervals
      latencyCount := h.latencies.count_le
      latencies := h.snapshotLatencies
      noOverflow := ?_ }
  exact (Nat.add_le_add_left h.tallied.lost_le _).trans_lt hbound

/-- One id is lost, one late, one packet is sent ahead of the receiver's
clock, and there is a pause; the rates and averages lie inside. -/
theorem getSnapshot_consistent_late :
    ((run [.call (.onPacketReceived 1 2000 3 1000),
      .call (.onPacketReceived 2 5000 6 4500),
      .call (.onPacketReceived 2 5000 5 9000), .call (.onPause 3),
      .call (.onPlay 4), .call (.onPacketReceived 5 7000 7 6000)]).getSnapshot
        6).Consistent true :=
  getSnapshot_consistent _ 6 (by decide) (by decide)

end MetricsCollector

end NetworkControl
