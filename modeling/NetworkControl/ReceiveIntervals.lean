import Mathlib.Tactic.FieldSimp
import Mathlib.Tactic.Linarith
import NetworkControl.MetricsRuns
import NetworkControl.ExactLoss

/-!
# Receive intervals

The part of the collector that `RecordReceiveInterval` works on. An interval
is measured from the last baseline to the next packet with a higher id, and
divided by the number of ids between the two, so lost packets do not
stretch it; late packets are not measured at all. `OnPlay`, `OnPause` and
`SetExpectedDataRate` drop the baseline, so nothing is measured across a
pause.

For packets that are sent at a constant pace this makes the statistics
exact, whatever is lost, late or paused (`steady_intervals`).
-/

namespace NetworkControl

namespace MetricsCollector

/-! ## The part that measures -/

structure Intervals where
  hasReceivedPacket : Bool
  highestSequenceId : Nat
  expectedDataRate : DataRate
  hasTimingSample : Bool
  lastTimingSequenceId : Nat
  lastReceiveTime : TimePoint
  intervalSampleCount : Nat
  totalReceiveIntervalMilliseconds : ℚ
  maxReceiveIntervalMilliseconds : ℚ
  totalIntervalDeviationMilliseconds : ℚ
  delayedPacketCount : Nat

def intervals (m : MetricsCollector) : Intervals where
  hasReceivedPacket := m.hasReceivedPacket
  highestSequenceId := m.highestSequenceId
  expectedDataRate := m.expectedDataRate
  hasTimingSample := m.hasTimingSample
  lastTimingSequenceId := m.lastTimingSequenceId
  lastReceiveTime := m.lastReceiveTime
  intervalSampleCount := m.intervalSampleCount
  totalReceiveIntervalMilliseconds := m.totalReceiveIntervalMilliseconds
  maxReceiveIntervalMilliseconds := m.maxReceiveIntervalMilliseconds
  totalIntervalDeviationMilliseconds := m.totalIntervalDeviationMilliseconds
  delayedPacketCount := m.delayedPacketCount

namespace Intervals

def expected (v : Intervals) : ℚ :=
  1000 / (v.expectedDataRate.toUInt32.toNat : ℚ)

/-- The time since the baseline, for one id. -/
def interval (v : Intervals) (receivedTime : TimePoint) (sequenceId : Nat) :
    ℚ :=
  (receivedTime - v.lastReceiveTime) * 1000
    / ((sequenceId - v.lastTimingSequenceId : Nat) : ℚ)

def takeBaseline (v : Intervals) (receivedTime : TimePoint)
    (sequenceId : Nat) : Intervals :=
  { v with
    hasReceivedPacket := true
    highestSequenceId := sequenceId
    hasTimingSample := true
    lastTimingSequenceId := sequenceId
    lastReceiveTime := receivedTime }

def addSample (v : Intervals) (receivedTime : TimePoint) (sequenceId : Nat) :
    Intervals :=
  let interval := v.interval receivedTime sequenceId
  { v.takeBaseline receivedTime sequenceId with
    intervalSampleCount := v.intervalSampleCount + 1
    totalReceiveIntervalMilliseconds :=
      v.totalReceiveIntervalMilliseconds + interval
    maxReceiveIntervalMilliseconds :=
      max v.maxReceiveIntervalMilliseconds interval
    totalIntervalDeviationMilliseconds :=
      v.totalIntervalDeviationMilliseconds + |interval - v.expected|
    delayedPacketCount := v.delayedPacketCount
      + if interval ≤ 3 / 2 * v.expected then 0 else 1 }

/-- An id that is not the highest so far. -/
def Late (v : Intervals) (sequenceId : Nat) : Prop :=
  v.hasReceivedPacket ∧ sequenceId ≤ v.highestSequenceId

instance (v : Intervals) (sequenceId : Nat) :
    Decidable (v.Late sequenceId) :=
  inferInstanceAs (Decidable (_ ∧ _))

/-- What `OnPacketReceived` does to this part. -/
def record (v : Intervals) (receivedTime : TimePoint) (sequenceId : Nat) :
    Intervals :=
  if v.Late sequenceId then v
  else if v.hasTimingSample then v.addSample receivedTime sequenceId
  else v.takeBaseline receivedTime sequenceId

/-- The baseline is a packet that was received, and none with a higher id
than the highest one. -/
def Based (v : Intervals) : Prop :=
  v.hasTimingSample →
    v.hasReceivedPacket ∧ v.lastTimingSequenceId ≤ v.highestSequenceId

section

variable {v : Intervals} {receivedTime : TimePoint} {sequenceId : Nat}

theorem record_late (h : v.Late sequenceId) :
    v.record receivedTime sequenceId = v :=
  if_pos h

theorem record_sample (h : ¬ v.Late sequenceId)
    (htiming : v.hasTimingSample = true) :
    v.record receivedTime sequenceId
      = v.addSample receivedTime sequenceId := by
  unfold record
  rw [if_neg h, if_pos htiming]

theorem record_baseline (h : ¬ v.Late sequenceId)
    (htiming : ¬ v.hasTimingSample = true) :
    v.record receivedTime sequenceId
      = v.takeBaseline receivedTime sequenceId := by
  unfold record
  rw [if_neg h, if_neg htiming]

/-- The ids of a sample differ. -/
theorem Based.lt (hbased : v.Based) (h : ¬ v.Late sequenceId)
    (htiming : v.hasTimingSample = true) :
    v.lastTimingSequenceId < sequenceId := by
  obtain ⟨hreceived, hle⟩ := hbased htiming
  by_contra hnot
  exact h ⟨hreceived, (Nat.not_lt.mp hnot).trans hle⟩

theorem Based.record (hbased : v.Based) :
    (v.record receivedTime sequenceId).Based := by
  by_cases hlate : v.Late sequenceId
  · rw [record_late hlate]
    exact hbased
  · by_cases htiming : v.hasTimingSample = true
    · rw [record_sample hlate htiming]
      exact fun _ => ⟨rfl, le_rfl⟩
    · rw [record_baseline hlate htiming]
      exact fun _ => ⟨rfl, le_rfl⟩

end

end Intervals

section

variable (m : MetricsCollector) (now receivedTime : TimePoint)
  (nowMicroseconds sequenceId sendTimestamp : Nat) (dataRate : DataRate)

theorem countReceived_intervals :
    (m.countReceived nowMicroseconds sendTimestamp).intervals
      = m.intervals := by
  unfold countReceived recordLatency
  split <;> rfl

theorem expireStale_intervals :
    (m.expireStaleMissingSequenceIds sequenceId).intervals = m.intervals := by
  unfold expireStaleMissingSequenceIds
  split <;> rfl

theorem sub64_of_lt {a b : Nat} (hle : b ≤ a) (hlt : a < 2 ^ 64) :
    sub64 a b = a - b := by
  unfold sub64
  omega

theorem recordReceiveInterval_takeBaseline (h : m.hasTimingSample = false) :
    m.recordReceiveInterval receivedTime sequenceId
      = { m with
          lastTimingSequenceId := sequenceId
          lastReceiveTime := receivedTime
          hasTimingSample := true } := by
  simp [recordReceiveInterval, h]

/-- Below 2^64 the difference of the ids does not wrap, and it is not 0. -/
theorem recordReceiveInterval_addSample (h : m.hasTimingSample = true)
    (hlast : m.lastTimingSequenceId < sequenceId)
    (hid : sequenceId < 2 ^ 64) :
    m.recordReceiveInterval receivedTime sequenceId
      = let v := m.intervals.addSample receivedTime sequenceId
        { m with
          intervalSampleCount := v.intervalSampleCount
          totalReceiveIntervalMilliseconds :=
            v.totalReceiveIntervalMilliseconds
          maxReceiveIntervalMilliseconds := v.maxReceiveIntervalMilliseconds
          totalIntervalDeviationMilliseconds :=
            v.totalIntervalDeviationMilliseconds
          delayedPacketCount := v.delayedPacketCount
          lastTimingSequenceId := sequenceId
          lastReceiveTime := receivedTime } := by
  have hsub : sub64 sequenceId m.lastTimingSequenceId
      = sequenceId - m.lastTimingSequenceId := sub64_of_lt hlast.le hid
  have hne : sequenceId - m.lastTimingSequenceId ≠ 0 :=
    Nat.sub_ne_zero_of_lt hlast
  have hpos : (0 : ℚ) < (sequenceId - m.lastTimingSequenceId : Nat) :=
    Nat.cast_pos.mpr (Nat.pos_of_ne_zero hne)
  have hinterval : (receivedTime - m.lastReceiveTime) * 1000
      / (sequenceId - m.lastTimingSequenceId : Nat)
        = m.intervals.interval receivedTime sequenceId := rfl
  have hdelayed : (receivedTime - m.lastReceiveTime) * 1000
        > m.getExpectedIntervalMilliseconds
          * (sequenceId - m.lastTimingSequenceId : Nat) * (3 / 2)
      ↔ ¬ m.intervals.interval receivedTime sequenceId
          ≤ 3 / 2 * m.intervals.expected := by
    have hscale : m.getExpectedIntervalMilliseconds
          * (sequenceId - m.lastTimingSequenceId : Nat) * (3 / 2)
        = 3 / 2 * m.intervals.expected
          * (sequenceId - m.lastTimingSequenceId : Nat) := by
      rw [mul_right_comm, mul_comm _ (3 / 2 : ℚ)]
      rfl
    rw [not_le, hscale]
    exact (lt_div_iff₀ hpos).symm
  unfold recordReceiveInterval
  rw [h]
  simp only [Bool.not_true, Bool.false_eq_true, if_false, hsub, if_neg hne,
    hdelayed, hinterval]
  have hmax : (if m.intervals.interval receivedTime sequenceId
          > m.maxReceiveIntervalMilliseconds then
        m.intervals.interval receivedTime sequenceId
      else m.maxReceiveIntervalMilliseconds)
      = max m.maxReceiveIntervalMilliseconds
          (m.intervals.interval receivedTime sequenceId) :=
    (max_def_lt _ _).symm
  have hcount : (if ¬ m.intervals.interval receivedTime sequenceId
          ≤ 3 / 2 * m.intervals.expected then m.delayedPacketCount + 1
        else m.delayedPacketCount)
      = m.delayedPacketCount
        + if m.intervals.interval receivedTime sequenceId
            ≤ 3 / 2 * m.intervals.expected then 0 else 1 := by
    split_ifs <;> rfl
  rw [hmax, hcount]
  rfl

/-- The step for a packet with a new highest id. -/
theorem recordReceiveInterval_intervals (hreceived : m.hasReceivedPacket = true)
    (hlast : m.hasTimingSample = true → m.lastTimingSequenceId < sequenceId)
    (hid : sequenceId < 2 ^ 64) :
    { m.recordReceiveInterval receivedTime sequenceId with
        highestSequenceId := sequenceId }.intervals
      = if m.hasTimingSample then m.intervals.addSample receivedTime sequenceId
        else m.intervals.takeBaseline receivedTime sequenceId := by
  split
  · rename_i htiming
    rw [recordReceiveInterval_addSample _ _ _ htiming (hlast htiming) hid]
    simp only [intervals, Intervals.addSample, Intervals.takeBaseline,
      Intervals.interval, Intervals.expected, hreceived, htiming]
  · rename_i htiming
    rw [recordReceiveInterval_takeBaseline _ _ _
      (Bool.eq_false_of_not_eq_true htiming)]
    simp only [intervals, Intervals.takeBaseline, hreceived]

/-- As long as the baseline is a received packet, the three places where
`OnPacketReceived` touches this part are one function of it. -/
theorem onPacketReceived_intervals (hbased : m.intervals.Based)
    (hid : sequenceId < 2 ^ 64) :
    (m.onPacketReceived receivedTime nowMicroseconds sequenceId
        sendTimestamp).intervals
      = m.intervals.record receivedTime sequenceId := by
  have hcount := m.countReceived_intervals nowMicroseconds sendTimestamp
  unfold onPacketReceived
  dsimp only
  generalize m.countReceived nowMicroseconds sendTimestamp = n at hcount ⊢
  rw [← hcount] at hbased ⊢
  unfold Intervals.record
  split
  · rename_i h
    have hfirst : n.hasReceivedPacket = false := (Bool.not_eq_true' _).mp h
    have htiming : n.intervals.hasTimingSample ≠ true := by
      intro htiming
      have hreceived : n.hasReceivedPacket = true := (hbased htiming).1
      rw [hfirst] at hreceived
      cases hreceived
    have hnot : ¬ n.intervals.Late sequenceId := by
      rintro ⟨hreceived, -⟩
      rw [show n.hasReceivedPacket = true from hreceived] at hfirst
      cases hfirst
    rw [if_neg hnot, if_neg htiming]
    rfl
  · rename_i h
    have hreceived : n.hasReceivedPacket = true := by simpa using h
    split
    · rename_i hnewer
      have hnot : ¬ n.intervals.Late sequenceId :=
        fun hle => absurd hle.2 (Nat.not_le.mpr hnewer)
      rw [if_neg hnot, expireStale_intervals]
      exact recordReceiveInterval_intervals
        { n with
          missingSequenceIds := insertMissing n.missingSequenceIds
            n.highestSequenceId sequenceId } receivedTime sequenceId hreceived
        (fun htiming => (hbased htiming).2.trans_lt hnewer) hid
    · rename_i hle
      have hlate : n.intervals.Late sequenceId :=
        ⟨hreceived, Nat.not_lt.mp hle⟩
      rw [if_pos hlate]
      split <;> rfl

theorem onPlay_intervals :
    (m.onPlay now).intervals
      = { m.intervals with hasTimingSample := false } := by
  unfold onPlay
  split <;> rfl

theorem onPause_intervals :
    (m.onPause now).intervals
      = { m.intervals with hasTimingSample := false } := by
  unfold onPause
  split <;> rfl

theorem setExpectedDataRate_intervals :
    (m.setExpectedDataRate dataRate).intervals
      = { m.intervals with
          expectedDataRate := dataRate, hasTimingSample := false } := rfl

end

/-! ## A constant pace -/

/-- The calls of `OnPlay` and `OnPause` cut a run into stretches. -/
def stretch (calls : List Call) : Nat :=
  calls.countP fun
    | .onPlay _ | .onPause _ => true
    | _ => false

/-- Within a stretch a packet with a new highest id is on time: `d`
milliseconds for each id, from the offset of the stretch on. -/
def Steady (calls : List Call) (d : ℚ) (offset : Nat → ℚ) : Prop :=
  ∀ earlier receivedTime nowMicroseconds sequenceId sendTimestamp,
    earlier ++ [.onPacketReceived receivedTime nowMicroseconds sequenceId
        sendTimestamp] <+: calls →
      (∀ j ∈ sequenceIds earlier, j < sequenceId) →
        receivedTime * 1000 = offset (stretch earlier) + d * sequenceId

theorem Steady.of_prefix {calls more : List Call} {d : ℚ}
    {offset : Nat → ℚ} (h : Steady more d offset) (hbegins : calls <+: more) :
    Steady calls d offset :=
  fun _ _ _ _ _ hearlier => h _ _ _ _ _ (hearlier.trans hbegins)

theorem Steady.nil (d : ℚ) (offset : Nat → ℚ) : Steady [] d offset := by
  intro earlier _ _ _ _ hbegins
  simp at hbegins

theorem Steady.concat {calls : List Call} {d : ℚ} {offset : Nat → ℚ}
    (h : Steady calls d offset) (call : Call)
    (hcall : ∀ receivedTime nowMicroseconds sequenceId sendTimestamp,
      call = .onPacketReceived receivedTime nowMicroseconds sequenceId
          sendTimestamp →
        (∀ j ∈ sequenceIds calls, j < sequenceId) →
          receivedTime * 1000 = offset (stretch calls) + d * sequenceId) :
    Steady (calls ++ [call]) d offset := by
  intro earlier receivedTime nowMicroseconds sequenceId sendTimestamp hbegins
  rcases List.prefix_concat_iff.mp hbegins with heq | hbefore
  · obtain ⟨rfl, hlast⟩ := List.append_inj' heq rfl
    exact hcall _ _ _ _ (List.singleton_inj.mp hlast).symm
  · exact h _ _ _ _ _ hbefore

namespace Intervals

/-- What the statistics say after the arrivals `ids` at the pace `d`, in
the stretch that has the offset `c`. -/
structure Paced (v : Intervals) (ids : List Nat) (expected d c : ℚ) :
    Prop where
  based : v.Based
  le_highest : ∀ j ∈ ids, v.hasReceivedPacket ∧ j ≤ v.highestSequenceId
  expected_eq : v.expected = expected
  baseline : v.hasTimingSample →
    v.lastReceiveTime * 1000 = c + d * v.lastTimingSequenceId
  total : v.totalReceiveIntervalMilliseconds = v.intervalSampleCount * d
  max : v.maxReceiveIntervalMilliseconds
    = if v.intervalSampleCount = 0 then 0 else d
  deviation : v.totalIntervalDeviationMilliseconds
    = v.intervalSampleCount * |d - expected|
  delayed : v.delayedPacketCount
    = if d ≤ 3 / 2 * expected then 0 else v.intervalSampleCount

section

variable {v : Intervals} {ids : List Nat} {expected d c : ℚ}
  {receivedTime : TimePoint} {id : Nat}

theorem Paced.of_drop (h : v.Paced ids expected d c) (c' : ℚ) :
    { v with hasTimingSample := false }.Paced ids expected d c' :=
  { h with
    based := fun htiming => nomatch htiming
    baseline := fun htiming => nomatch htiming }

/-- Lost ids lie on both sides of the fraction. -/
theorem Paced.interval_eq (h : v.Paced ids expected d c)
    (htiming : v.hasTimingSample = true) (hlt : v.lastTimingSequenceId < id)
    (htime : receivedTime * 1000 = c + d * id) :
    v.interval receivedTime id = d := by
  have hpos : (0 : ℚ) < (id - v.lastTimingSequenceId : Nat) :=
    Nat.cast_pos.mpr (Nat.sub_pos_of_lt hlt)
  unfold interval
  rw [div_eq_iff hpos.ne', sub_mul, htime, h.baseline htiming,
    Nat.cast_sub hlt.le]
  ring

theorem Paced.record (h : v.Paced ids expected d c) (hd : 0 ≤ d)
    (htime : (∀ j ∈ ids, j < id) → receivedTime * 1000 = c + d * id) :
    (v.record receivedTime id).Paced (ids ++ [id]) expected d c := by
  by_cases hlate : v.Late id
  · rw [record_late hlate]
    refine { h with le_highest := ?_ }
    intro j hj
    rcases List.mem_append.mp hj with hold | hnew
    · exact h.le_highest j hold
    · rw [List.mem_singleton.mp hnew]
      exact hlate
  have hnewest : ∀ j ∈ ids, j < id := by
    intro j hj
    obtain ⟨hreceived, hle⟩ := h.le_highest j hj
    exact hle.trans_lt (Nat.lt_of_not_le fun hid => hlate ⟨hreceived, hid⟩)
  have htime := htime hnewest
  have hle : ∀ j ∈ ids ++ [id], true = true ∧ j ≤ id := by
    intro j hj
    rcases List.mem_append.mp hj with hold | hnew
    · exact ⟨rfl, (hnewest j hold).le⟩
    · exact ⟨rfl, (List.mem_singleton.mp hnew).le⟩
  have hbased : (v.record receivedTime id).Based := h.based.record
  by_cases htiming : v.hasTimingSample = true
  · have hinterval : v.interval receivedTime id = d :=
      h.interval_eq htiming (h.based.lt hlate htiming) htime
    rw [record_sample hlate htiming] at hbased ⊢
    refine { based := hbased, le_highest := hle, expected_eq := h.expected_eq
             baseline := fun _ => htime
             total := ?_, max := ?_, deviation := ?_, delayed := ?_ }
    · show v.totalReceiveIntervalMilliseconds + v.interval receivedTime id
        = ((v.intervalSampleCount + 1 : Nat) : ℚ) * d
      rw [h.total, hinterval, Nat.cast_succ]
      ring
    · show Max.max v.maxReceiveIntervalMilliseconds
          (v.interval receivedTime id) = d
      rw [h.max, hinterval]
      split
      · exact max_eq_right hd
      · exact max_self d
    · show v.totalIntervalDeviationMilliseconds
          + |v.interval receivedTime id - v.expected|
        = ((v.intervalSampleCount + 1 : Nat) : ℚ) * |d - expected|
      rw [h.deviation, hinterval, h.expected_eq, Nat.cast_succ]
      ring
    · show v.delayedPacketCount
          + (if v.interval receivedTime id ≤ 3 / 2 * v.expected then 0 else 1)
        = _
      rw [h.delayed, hinterval, h.expected_eq]
      split <;> rfl
  · rw [record_baseline hlate htiming] at hbased ⊢
    exact { h with
      based := hbased, le_highest := hle, baseline := fun _ => htime }

end

end Intervals

theorem stretch_concat (calls : List Call) (call : Call) :
    stretch (calls ++ [call]) = stretch calls + stretch [call] :=
  List.countP_append

theorem sinceReset_paced (m : MetricsCollector) {d : ℚ} (hd : 0 ≤ d)
    (offset : Nat → ℚ) (calls : List Call) :
    (∀ id ∈ sequenceIds calls, id < 2 ^ 64) →
      (∀ dataRate, .setExpectedDataRate dataRate ∈ calls →
        dataRate = m.expectedDataRate) →
      Steady calls d offset →
      (m.sinceReset calls).intervals.Paced (sequenceIds calls)
        m.getExpectedIntervalMilliseconds d (offset (stretch calls)) := by
  induction calls using List.reverseRecOn with
  | nil =>
      intro _ _ _
      exact
        { based := fun htiming => nomatch htiming
          le_highest := fun _ hj => nomatch hj
          expected_eq := rfl
          baseline := fun htiming => nomatch htiming
          total := (zero_mul d).symm
          max := rfl
          deviation := (zero_mul _).symm
          delayed := (ite_self 0).symm }
  | append_singleton calls call ih =>
      intro hids hrate hsteady
      have hstep : m.sinceReset (calls ++ [call])
          = call.apply (m.sinceReset calls) := List.foldl_concat ..
      have hbefore := ih
        (fun id hid => hids id (by
          rw [sequenceIds_concat]
          exact List.mem_append_left _ hid))
        (fun rate hmem => hrate rate (List.mem_append_left _ hmem))
        (hsteady.of_prefix (List.prefix_append _ _))
      rw [hstep, sequenceIds_concat]
      cases call with
      | onPacketReceived receivedTime nowMicroseconds id sendTimestamp =>
          have hid : id < 2 ^ 64 := hids id (by
            rw [sequenceIds_concat]
            exact List.mem_append_right _ (List.mem_singleton_self _))
          rw [Call.apply, onPacketReceived_intervals _ _ _ _ _ hbefore.based
            hid, stretch_concat]
          exact hbefore.record hd
            (hsteady calls _ _ id _ (List.prefix_refl _))
      | setExpectedDataRate dataRate =>
          obtain rfl : dataRate = m.expectedDataRate :=
            hrate dataRate (by simp)
          rw [Call.sequenceId?, Option.toList_none, List.append_nil]
          exact { hbefore.of_drop _ with expected_eq := rfl }
      | onPlay now =>
          rw [Call.apply, onPlay_intervals, Call.sequenceId?,
            Option.toList_none, List.append_nil]
          exact hbefore.of_drop _
      | onPause now =>
          rw [Call.apply, onPause_intervals, Call.sequenceId?,
            Option.toList_none, List.append_nil]
          exact hbefore.of_drop _

/-- Packets that come every `d` milliseconds, for each id, show the
interval `d` in every statistic, whatever was lost, late or paused. -/
theorem steady_intervals (m : MetricsCollector) (now : TimePoint)
    (calls : List Call) (d : ℚ) (offset : Nat → ℚ) (hd : 0 ≤ d)
    (hids : ∀ id ∈ sequenceIds calls, id < 2 ^ 64)
    (hrate : ∀ dataRate, .setExpectedDataRate dataRate ∈ calls →
      dataRate = m.expectedDataRate)
    (hsteady : Steady calls d offset)
    (hcount :
      ((m.sinceReset calls).getSnapshot now).intervalSampleCount ≠ 0) :
    let snapshot := (m.sinceReset calls).getSnapshot now
    let expected : ℚ := 1000 / (m.expectedDataRate.toUInt32.toNat : ℚ)
    snapshot.averageReceiveIntervalMilliseconds = d
      ∧ snapshot.maxReceiveIntervalMilliseconds = d
      ∧ snapshot.averageIntervalDeviationMilliseconds = |d - expected|
      ∧ snapshot.delayedPacketCount
          = if d ≤ 3 / 2 * expected then 0
            else snapshot.intervalSampleCount := by
  have h := m.sinceReset_paced hd offset calls hids hrate hsteady
  generalize m.sinceReset calls = n at h hcount
  have hcount : n.intervalSampleCount ≠ 0 := hcount
  have hne : (n.intervalSampleCount : ℚ) ≠ 0 := Nat.cast_ne_zero.mpr hcount
  have htotal : n.totalReceiveIntervalMilliseconds
      = n.intervalSampleCount * d := h.total
  have hmax : n.maxReceiveIntervalMilliseconds
      = if n.intervalSampleCount = 0 then 0 else d := h.max
  have hdeviation : n.totalIntervalDeviationMilliseconds
      = n.intervalSampleCount * |d - m.getExpectedIntervalMilliseconds| :=
    h.deviation
  refine ⟨?_, ?_, ?_, h.delayed⟩
  · show (if n.intervalSampleCount ≠ 0 then _ else _) = d
    rw [if_pos hcount, htotal, mul_div_cancel_left₀ d hne]
  · show (if n.intervalSampleCount ≠ 0 then _ else _) = d
    rw [if_pos hcount, hmax, if_neg hcount]
  · show (if n.intervalSampleCount ≠ 0 then _ else _) = _
    rw [if_pos hcount, hdeviation, mul_div_cancel_left₀ _ hne]
    rfl

/-- 20 ms for each id, but 6 and 8 are lost, 5 is late and the pause moves
the pace by 150 ms. At 60 Hz every sample lies 10/3 ms off. -/
theorem steady_intervals_paused :
    let calls : List Call :=
      [.onPacketReceived (80 / 1000) 0 4 0,
        .onPacketReceived (140 / 1000) 0 7 0,
        .onPacketReceived (150 / 1000) 0 5 0,
        .onPause (200 / 1000), .onPlay (250 / 1000),
        .onPacketReceived (330 / 1000) 0 9 0,
        .onPacketReceived (350 / 1000) 0 10 0]
    let snapshot :=
      (sinceReset { expectedDataRate := .hz60 } calls).getSnapshot 3
    snapshot.averageReceiveIntervalMilliseconds = 20
      ∧ snapshot.averageIntervalDeviationMilliseconds = 10 / 3
      ∧ snapshot.delayedPacketCount = 0 := by
  intro calls snapshot
  have hsteady : Steady calls 20 fun k => if k = 0 then 0 else 150 := by
    show Steady ([] ++ [_] ++ [_] ++ [_] ++ [_] ++ [_] ++ [_] ++ [_]) _ _
    refine (((((((Steady.nil _ _).concat _ ?_).concat _ ?_).concat _ ?_).concat
      _ ?_).concat _ ?_).concat _ ?_).concat _ ?_
    case refine_3 =>
      rintro _ _ _ _ ⟨⟩ hnewest
      exact absurd (hnewest 7 (by decide)) (by decide)
    all_goals rintro _ _ _ _ ⟨⟩ -
    all_goals norm_num [stretch]
  obtain ⟨haverage, -, hdeviation, hdelayed⟩ :=
    steady_intervals { expectedDataRate := .hz60 } 3 calls 20 _ (by norm_num)
      (by decide) (by simp [calls]) hsteady (by decide)
  have hrate : ((DataRate.hz60.toUInt32.toNat : Nat) : ℚ) = 60 := rfl
  refine ⟨haverage, hdeviation.trans ?_, hdelayed.trans ?_⟩
  · rw [hrate]
    norm_num
  · rw [hrate, if_pos (by norm_num)]

end MetricsCollector

end NetworkControl
