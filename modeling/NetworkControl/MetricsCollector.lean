import Mathlib.Algebra.Order.Field.Rat
import Mathlib.Data.Finset.Card
import Mathlib.Data.Finset.Union
import Mathlib.Order.Interval.Finset.Nat
import NetworkControl.Protocol

/-!
# MetricsCollector

`ClientCore/MetricsCollector.cpp`, every field and every operation. Each
operation holds the collector's mutex throughout, so each is one function
of the state; the clock readings it takes are its arguments.

`uint64_t` sequence ids are naturals below 2^64, with the one subtraction
that could wrap written out; time points and `double`s are exact
rationals (seconds since the clock's epoch, and milliseconds where the
name says so).

The rest of the development goes through `received`, the part of the
collector that says what arrived and what is missing: `Received.record`
is what `OnPacketReceived` does to it, and no other operation but `reset`
touches it.
-/

namespace NetworkControl

/-- `std::chrono::steady_clock::time_point`, in seconds. -/
abbrev TimePoint := ℚ

/-- `MetricsSnapshot`, over the types of its `uint64_t` and `double`
fields: exact here, bit patterns on the wire. -/
structure MetricsSnapshot (N D : Type) where
  elapsedSeconds : D
  totalReceivedCount : N
  lossCount : N
  outOfOrderCount : N
  lossRate : D
  intervalSampleCount : N
  averageReceiveIntervalMilliseconds : D
  maxReceiveIntervalMilliseconds : D
  averageIntervalDeviationMilliseconds : D
  delayedPacketCount : N
  delayedPacketRate : D
  latencySampleCount : N
  averageLatencyMilliseconds : D
  minLatencyMilliseconds : D
  maxLatencyMilliseconds : D
deriving DecidableEq, Repr

/-- Bit patterns for exact values. -/
def MetricsSnapshot.map {N N' D D' : Type} (count : N → N') (real : D → D')
    (metrics : MetricsSnapshot N D) : MetricsSnapshot N' D' where
  elapsedSeconds := real metrics.elapsedSeconds
  totalReceivedCount := count metrics.totalReceivedCount
  lossCount := count metrics.lossCount
  outOfOrderCount := count metrics.outOfOrderCount
  lossRate := real metrics.lossRate
  intervalSampleCount := count metrics.intervalSampleCount
  averageReceiveIntervalMilliseconds :=
    real metrics.averageReceiveIntervalMilliseconds
  maxReceiveIntervalMilliseconds := real metrics.maxReceiveIntervalMilliseconds
  averageIntervalDeviationMilliseconds :=
    real metrics.averageIntervalDeviationMilliseconds
  delayedPacketCount := count metrics.delayedPacketCount
  delayedPacketRate := real metrics.delayedPacketRate
  latencySampleCount := count metrics.latencySampleCount
  averageLatencyMilliseconds := real metrics.averageLatencyMilliseconds
  minLatencyMilliseconds := real metrics.minLatencyMilliseconds
  maxLatencyMilliseconds := real metrics.maxLatencyMilliseconds

structure MetricsCollector where
  totalReceivedCount : Nat := 0
  outOfOrderCount : Nat := 0
  confirmedLostCount : Nat := 0
  highestSequenceId : Nat := 0
  hasReceivedPacket : Bool := false
  statsStartTime : TimePoint := 0
  isPaused : Bool := false
  pauseStartTime : TimePoint := 0
  accumulatedPausedSeconds : ℚ := 0
  missingSequenceIds : Finset Nat := ∅
  expectedDataRate : DataRate := .hz30
  hasTimingSample : Bool := false
  lastTimingSequenceId : Nat := 0
  lastReceiveTime : TimePoint := 0
  intervalSampleCount : Nat := 0
  totalReceiveIntervalMilliseconds : ℚ := 0
  maxReceiveIntervalMilliseconds : ℚ := 0
  totalIntervalDeviationMilliseconds : ℚ := 0
  delayedPacketCount : Nat := 0
  hasLatencySample : Bool := false
  latencySampleCount : Nat := 0
  totalLatencyMilliseconds : ℚ := 0
  minLatencyMilliseconds : ℚ := 0
  maxLatencyMilliseconds : ℚ := 0
deriving DecidableEq

/-- The subtraction of two `uint64_t`. -/
def sub64 (a b : Nat) : Nat := (a + 2 ^ 64 - b) % 2 ^ 64

namespace MetricsCollector

def missingSequenceWindow : Nat := 1000

/-! ## The private steps of OnPacketReceived -/

def getExpectedIntervalMilliseconds (m : MetricsCollector) : ℚ :=
  1000 / (m.expectedDataRate.toUInt32.toNat : ℚ)

/-- `nowMicroseconds` is the clock reading `RecordLatency` takes itself. -/
def recordLatency (m : MetricsCollector) (nowMicroseconds : Nat)
    (sendTimestampMicroseconds : Nat) : MetricsCollector :=
  if nowMicroseconds < sendTimestampMicroseconds then m
  else
    let latencyMilliseconds : ℚ :=
      ((nowMicroseconds - sendTimestampMicroseconds : Nat) : ℚ) / 1000
    { m with
      latencySampleCount := m.latencySampleCount + 1
      totalLatencyMilliseconds :=
        m.totalLatencyMilliseconds + latencyMilliseconds
      minLatencyMilliseconds :=
        if !m.hasLatencySample
            || latencyMilliseconds < m.minLatencyMilliseconds then
          latencyMilliseconds
        else m.minLatencyMilliseconds
      maxLatencyMilliseconds :=
        if !m.hasLatencySample
            || latencyMilliseconds > m.maxLatencyMilliseconds then
          latencyMilliseconds
        else m.maxLatencyMilliseconds
      hasLatencySample := true }

def recordReceiveInterval (m : MetricsCollector) (receivedTime : TimePoint)
    (sequenceId : Nat) : MetricsCollector :=
  if !m.hasTimingSample then
    { m with
      lastTimingSequenceId := sequenceId
      lastReceiveTime := receivedTime
      hasTimingSample := true }
  else
    let sequenceDifference := sub64 sequenceId m.lastTimingSequenceId
    if sequenceDifference = 0 then m
    else
      let actualElapsedMilliseconds :=
        (receivedTime - m.lastReceiveTime) * 1000
      let expectedIntervalMilliseconds := m.getExpectedIntervalMilliseconds
      let expectedElapsedMilliseconds :=
        expectedIntervalMilliseconds * sequenceDifference
      let normalizedIntervalMilliseconds :=
        actualElapsedMilliseconds / sequenceDifference
      let deviationMilliseconds :=
        |normalizedIntervalMilliseconds - expectedIntervalMilliseconds|
      { m with
        intervalSampleCount := m.intervalSampleCount + 1
        totalReceiveIntervalMilliseconds :=
          m.totalReceiveIntervalMilliseconds + normalizedIntervalMilliseconds
        maxReceiveIntervalMilliseconds :=
          if normalizedIntervalMilliseconds
              > m.maxReceiveIntervalMilliseconds then
            normalizedIntervalMilliseconds
          else m.maxReceiveIntervalMilliseconds
        totalIntervalDeviationMilliseconds :=
          m.totalIntervalDeviationMilliseconds + deviationMilliseconds
        delayedPacketCount :=
          if actualElapsedMilliseconds
              > expectedElapsedMilliseconds * (3 / 2) then
            m.delayedPacketCount + 1
          else m.delayedPacketCount
        lastTimingSequenceId := sequenceId
        lastReceiveTime := receivedTime }

/-- The loop that inserts every id strictly between the highest one so
far and the new one. -/
def insertMissing (missing : Finset Nat) (highestSequenceId sequenceId : Nat) :
    Finset Nat :=
  (List.range' (highestSequenceId + 1)
      (sequenceId - (highestSequenceId + 1))).foldl
    (fun ids missingId => insert missingId ids) missing

/-- The loop erases the stale ids one by one, counting each. -/
def expireStaleMissingSequenceIds (m : MetricsCollector)
    (highestSequenceId : Nat) : MetricsCollector :=
  if highestSequenceId ≤ missingSequenceWindow then m
  else
    let expiryThreshold := highestSequenceId - missingSequenceWindow
    { m with
      missingSequenceIds :=
        m.missingSequenceIds.filter fun id => ¬ id ≤ expiryThreshold
      confirmedLostCount := m.confirmedLostCount
        + (m.missingSequenceIds.filter fun id => id ≤ expiryThreshold).card }

/-! ## The operations -/

/-- What the branches of `OnPacketReceived` start from: the packet is
counted and its latency recorded. -/
def countReceived (m : MetricsCollector) (nowMicroseconds : Nat)
    (sendTimestampMicroseconds : Nat) : MetricsCollector :=
  { m with totalReceivedCount := m.totalReceivedCount + 1 }.recordLatency
    nowMicroseconds sendTimestampMicroseconds

def onPacketReceived (m : MetricsCollector) (receivedTime : TimePoint)
    (nowMicroseconds : Nat) (sequenceId sendTimestampMicroseconds : Nat) :
    MetricsCollector :=
  let m := m.countReceived nowMicroseconds sendTimestampMicroseconds
  if !m.hasReceivedPacket then
    { m with
      highestSequenceId := sequenceId
      hasReceivedPacket := true
      statsStartTime := receivedTime
      lastTimingSequenceId := sequenceId
      lastReceiveTime := receivedTime
      hasTimingSample := true }
  else if sequenceId > m.highestSequenceId then
    let m := { m with
      missingSequenceIds :=
        insertMissing m.missingSequenceIds m.highestSequenceId sequenceId }
    let m := m.recordReceiveInterval receivedTime sequenceId
    let m := { m with highestSequenceId := sequenceId }
    m.expireStaleMissingSequenceIds m.highestSequenceId
  else if sequenceId ∈ m.missingSequenceIds then
    { m with
      missingSequenceIds := m.missingSequenceIds.erase sequenceId
      outOfOrderCount := m.outOfOrderCount + 1 }
  else m

def setExpectedDataRate (m : MetricsCollector) (dataRate : DataRate) :
    MetricsCollector :=
  { m with expectedDataRate := dataRate, hasTimingSample := false }

def onPlay (m : MetricsCollector) (now : TimePoint) : MetricsCollector :=
  let m :=
    if m.isPaused then
      { m with
        accumulatedPausedSeconds :=
          m.accumulatedPausedSeconds + (now - m.pauseStartTime)
        isPaused := false }
    else m
  { m with hasTimingSample := false }

def onPause (m : MetricsCollector) (now : TimePoint) : MetricsCollector :=
  let m :=
    if m.hasReceivedPacket && !m.isPaused then
      { m with pauseStartTime := now, isPaused := true }
    else m
  { m with hasTimingSample := false }

/-- Everything but `expectedDataRate` goes back to its initial value. -/
def reset (m : MetricsCollector) : MetricsCollector :=
  { m with
    totalReceivedCount := 0
    outOfOrderCount := 0
    confirmedLostCount := 0
    highestSequenceId := 0
    hasReceivedPacket := false
    statsStartTime := 0
    isPaused := false
    pauseStartTime := 0
    accumulatedPausedSeconds := 0
    missingSequenceIds := ∅
    hasTimingSample := false
    lastTimingSequenceId := 0
    lastReceiveTime := 0
    intervalSampleCount := 0
    totalReceiveIntervalMilliseconds := 0
    maxReceiveIntervalMilliseconds := 0
    totalIntervalDeviationMilliseconds := 0
    delayedPacketCount := 0
    hasLatencySample := false
    latencySampleCount := 0
    totalLatencyMilliseconds := 0
    minLatencyMilliseconds := 0
    maxLatencyMilliseconds := 0 }

/-- `LossCount` as `GetSnapshot` computes it. -/
def lossCount (m : MetricsCollector) : Nat :=
  m.confirmedLostCount + m.missingSequenceIds.card

def getSnapshot (m : MetricsCollector) (now : TimePoint) :
    MetricsSnapshot Nat ℚ :=
  let pausedSeconds := m.accumulatedPausedSeconds
    + if m.isPaused then now - m.pauseStartTime else 0
  let expectedPacketCount := m.totalReceivedCount + m.lossCount
  { elapsedSeconds :=
      if m.hasReceivedPacket then
        (now - m.statsStartTime) - pausedSeconds
      else 0
    totalReceivedCount := m.totalReceivedCount
    lossCount := m.lossCount
    outOfOrderCount := m.outOfOrderCount
    lossRate :=
      if expectedPacketCount ≠ 0 then
        (m.lossCount : ℚ) / expectedPacketCount * 100
      else 0
    intervalSampleCount := m.intervalSampleCount
    averageReceiveIntervalMilliseconds :=
      if m.intervalSampleCount ≠ 0 then
        m.totalReceiveIntervalMilliseconds / m.intervalSampleCount
      else 0
    maxReceiveIntervalMilliseconds :=
      if m.intervalSampleCount ≠ 0 then m.maxReceiveIntervalMilliseconds
      else 0
    averageIntervalDeviationMilliseconds :=
      if m.intervalSampleCount ≠ 0 then
        m.totalIntervalDeviationMilliseconds / m.intervalSampleCount
      else 0
    delayedPacketCount := m.delayedPacketCount
    delayedPacketRate :=
      if m.intervalSampleCount ≠ 0 then
        (m.delayedPacketCount : ℚ) / m.intervalSampleCount * 100
      else 0
    latencySampleCount := m.latencySampleCount
    averageLatencyMilliseconds :=
      if m.latencySampleCount ≠ 0 then
        m.totalLatencyMilliseconds / m.latencySampleCount
      else 0
    minLatencyMilliseconds :=
      if m.latencySampleCount ≠ 0 then m.minLatencyMilliseconds else 0
    maxLatencyMilliseconds :=
      if m.latencySampleCount ≠ 0 then m.maxLatencyMilliseconds else 0 }

/-! ## What the steps leave alone -/

section

variable (m : MetricsCollector) (now receivedTime : TimePoint)
  (nowMicroseconds sequenceId sendTimestamp : Nat) (dataRate : DataRate)

/-- The part of the collector that says what was received and lost. -/
structure Received where
  hasReceivedPacket : Bool
  highestSequenceId : Nat
  missingSequenceIds : Finset Nat
  confirmedLostCount : Nat
deriving DecidableEq

def received : Received where
  hasReceivedPacket := m.hasReceivedPacket
  highestSequenceId := m.highestSequenceId
  missingSequenceIds := m.missingSequenceIds
  confirmedLostCount := m.confirmedLostCount

@[simp] theorem countReceived_received :
    (m.countReceived nowMicroseconds sendTimestamp).received
      = m.received := by
  rw [countReceived, recordLatency]
  split <;> rfl

@[simp] theorem recordReceiveInterval_received :
    (m.recordReceiveInterval receivedTime sequenceId).received
      = m.received := by
  simp only [recordReceiveInterval]
  split_ifs <;> rfl

@[simp] theorem setExpectedDataRate_received :
    (m.setExpectedDataRate dataRate).received = m.received := rfl

@[simp] theorem onPlay_received : (m.onPlay now).received = m.received := by
  rw [onPlay]
  split <;> rfl

@[simp] theorem onPause_received : (m.onPause now).received = m.received := by
  rw [onPause]
  split <;> rfl

/-! The expected rate only ever changes through `setExpectedDataRate`. -/

theorem countReceived_expectedDataRate :
    (m.countReceived nowMicroseconds sendTimestamp).expectedDataRate
      = m.expectedDataRate := by
  rw [countReceived, recordLatency]
  split <;> rfl

theorem recordReceiveInterval_expectedDataRate :
    (m.recordReceiveInterval receivedTime sequenceId).expectedDataRate
      = m.expectedDataRate := by
  simp only [recordReceiveInterval]
  split_ifs <;> rfl

theorem expireStale_expectedDataRate :
    (m.expireStaleMissingSequenceIds sequenceId).expectedDataRate
      = m.expectedDataRate := by
  rw [expireStaleMissingSequenceIds]
  split <;> rfl

@[simp] theorem onPacketReceived_expectedDataRate :
    (m.onPacketReceived receivedTime nowMicroseconds sequenceId
      sendTimestamp).expectedDataRate = m.expectedDataRate := by
  have hcount :=
    m.countReceived_expectedDataRate nowMicroseconds sendTimestamp
  rw [onPacketReceived]
  dsimp only
  split
  · exact hcount
  · split
    · rw [expireStale_expectedDataRate]
      exact (recordReceiveInterval_expectedDataRate _ _ _).trans hcount
    · split
      · exact hcount
      · exact hcount

@[simp] theorem setExpectedDataRate_expectedDataRate :
    (m.setExpectedDataRate dataRate).expectedDataRate = dataRate := rfl

@[simp] theorem onPlay_expectedDataRate :
    (m.onPlay now).expectedDataRate = m.expectedDataRate := by
  rw [onPlay]
  split <;> rfl

@[simp] theorem onPause_expectedDataRate :
    (m.onPause now).expectedDataRate = m.expectedDataRate := by
  rw [onPause]
  split <;> rfl

@[simp] theorem reset_expectedDataRate :
    m.reset.expectedDataRate = m.expectedDataRate := rfl

end

/-! ## The baseline and the loss counters -/

theorem insertMissing_eq (missing : Finset Nat) (highest id : Nat) :
    insertMissing missing highest id = missing ∪ Finset.Ioo highest id := by
  have hfold : ∀ (ids : List Nat) (acc : Finset Nat),
      ids.foldl (fun acc id => insert id acc) acc = acc ∪ ids.toFinset := by
    intro ids
    induction ids with
    | nil => simp
    | cons x xs ih =>
        intro acc
        rw [List.foldl_cons, ih, List.toFinset_cons, Finset.insert_union,
          Finset.union_insert]
  rw [insertMissing, hfold]
  congr 1
  ext j
  simp only [List.mem_toFinset, List.mem_range'_1, Finset.mem_Ioo]
  omega

/-- What `OnPacketReceived` does to the received part, in one equation. -/
def Received.record (r : Received) (sequenceId : Nat) : Received :=
  if !r.hasReceivedPacket then
    { r with highestSequenceId := sequenceId, hasReceivedPacket := true }
  else if sequenceId > r.highestSequenceId then
    let missing := r.missingSequenceIds
      ∪ Finset.Ioo r.highestSequenceId sequenceId
    { r with
      highestSequenceId := sequenceId
      missingSequenceIds := missing.filter fun id =>
        sequenceId ≤ missingSequenceWindow
          ∨ sequenceId - missingSequenceWindow < id
      confirmedLostCount := r.confirmedLostCount
        + (missing.filter fun id => missingSequenceWindow < sequenceId
            ∧ id ≤ sequenceId - missingSequenceWindow).card }
  else
    { r with missingSequenceIds := r.missingSequenceIds.erase sequenceId }

theorem Received.record_first {r : Received} {id : Nat}
    (h : r.hasReceivedPacket = false) :
    r.record id
      = { r with highestSequenceId := id, hasReceivedPacket := true } := by
  simp [record, h]

theorem Received.record_newer {r : Received} {id : Nat}
    (h : r.hasReceivedPacket = true) (hgt : id > r.highestSequenceId) :
    r.record id
      = { r with
          highestSequenceId := id
          missingSequenceIds :=
            (r.missingSequenceIds ∪ Finset.Ioo r.highestSequenceId id).filter
              fun j => id ≤ missingSequenceWindow
                ∨ id - missingSequenceWindow < j
          confirmedLostCount := r.confirmedLostCount
            + ((r.missingSequenceIds
                ∪ Finset.Ioo r.highestSequenceId id).filter fun j =>
                  missingSequenceWindow < id
                    ∧ j ≤ id - missingSequenceWindow).card } := by
  simp [record, h, hgt]

theorem Received.record_older {r : Received} {id : Nat}
    (h : r.hasReceivedPacket = true) (hle : id ≤ r.highestSequenceId) :
    r.record id
      = { r with missingSequenceIds := r.missingSequenceIds.erase id } := by
  simp [record, h, Nat.not_lt.mpr hle]

theorem expireStale_received (m : MetricsCollector) (highest : Nat) :
    (m.expireStaleMissingSequenceIds highest).received
      = { m.received with
          missingSequenceIds := m.missingSequenceIds.filter fun id =>
            highest ≤ missingSequenceWindow
              ∨ highest - missingSequenceWindow < id
          confirmedLostCount := m.confirmedLostCount
            + (m.missingSequenceIds.filter fun id =>
                missingSequenceWindow < highest
                  ∧ id ≤ highest - missingSequenceWindow).card } := by
  rw [expireStaleMissingSequenceIds]
  split
  · rename_i h
    simp [received, h, Nat.not_lt.mpr h]
  · rename_i h
    simp [received, h, Nat.lt_of_not_le h]

theorem onPacketReceived_received (m : MetricsCollector)
    (receivedTime : TimePoint)
    (nowMicroseconds sequenceId sendTimestamp : Nat) :
    (m.onPacketReceived receivedTime nowMicroseconds sequenceId
      sendTimestamp).received = m.received.record sequenceId := by
  have hcount := m.countReceived_received nowMicroseconds sendTimestamp
  rw [onPacketReceived]
  dsimp only
  generalize m.countReceived nowMicroseconds sendTimestamp = n at hcount ⊢
  rw [← hcount]
  split
  · rename_i h
    have hfirst : n.received.hasReceivedPacket = false :=
      (Bool.not_eq_true' _).mp h
    exact (Received.record_first hfirst).symm
  · rename_i h
    have hreceived : n.hasReceivedPacket = true := by simpa using h
    split
    · rename_i hgt
      rw [Received.record_newer hreceived hgt, expireStale_received]
      have hrec := recordReceiveInterval_received
        { n with
          missingSequenceIds := insertMissing n.missingSequenceIds
            n.highestSequenceId sequenceId } receivedTime sequenceId
      simp only [received, Received.mk.injEq, insertMissing_eq] at hrec ⊢
      obtain ⟨h1, -, h3, h4⟩ := hrec
      simp only [h1, h3, h4, and_self]
    · rename_i hle
      rw [Received.record_older hreceived (Nat.not_lt.mp hle)]
      split
      · rfl
      · rename_i hmem
        have herase : n.missingSequenceIds.erase sequenceId
            = n.missingSequenceIds := Finset.erase_eq_of_notMem hmem
        simp only [received, herase]

end MetricsCollector

end NetworkControl
