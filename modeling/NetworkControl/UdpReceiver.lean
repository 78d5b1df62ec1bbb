import NetworkControl.EntityWorld
import NetworkControl.MetricsCollector
import NetworkControl.StreamingService

/-!
# UdpReceiver

`ClientCore/UdpReceiver.cpp`: what the client does with a datagram, and
the switches the commands throw. `ReceiveWorker` is split where another
thread can get in between: `receiveDatagram` up to the decoded batch, the
test of `isActive_`, and `record`.

`broadcast_delivered` connects it to the server: which of the packets
`UdpStreamingService` sends get through to `OnState`.
-/

namespace NetworkControl

open Endian

/-! ## Receiving -/

/-- `uint8_t buffer[2048]`. -/
def receiveBufferSize : Nat := 2048

/-- `recvfrom`, which fails on a datagram larger than the buffer. -/
def receiveFrom (bufferSize : Nat) (datagram : List UInt8) :
    Option (List UInt8) :=
  if datagram.length ≤ bufferSize then some datagram else none

/-- From `ReceiveFrom` to the decoded batch; `none` where the loop
continues. -/
def receiveDatagram (host : ByteOrder) (datagram : List UInt8) :
    Option EntityStateBatchPayload :=
  match receiveFrom receiveBufferSize datagram with
  | none => none
  | some buffer =>
      if buffer.length = 0 then none
      else
        match tryDeserializeHeader ⟨buffer, 0⟩ with
        | none => none
        | some (type, reader) =>
            if type ≠ .entityState then none
            else (tryDeserializeEntityStateBatch host reader).map Prod.fst

/-- `isRunning` also says that the worker thread runs: `start` and `stop`
change both together. -/
structure UdpReceiver where
  metricsCollector : MetricsCollector := {}
  isRunning : Bool := false
  isActive : Bool := false
  socketOpen : Bool := false
  nextControlInputSequenceId : UInt32 := 0

namespace UdpReceiver

def stop (r : UdpReceiver) : UdpReceiver :=
  { r with isRunning := false, socketOpen := false }

/-- `socketReady`: the endpoint, `Create`, `Bind` and the timeout all
succeeded. -/
def start (r : UdpReceiver) (socketReady : Bool) : Bool × UdpReceiver :=
  let r := { r.stop with
    isActive := false
    metricsCollector := r.metricsCollector.reset }
  if !socketReady then (false, r)
  else (true, { r with isRunning := true, socketOpen := true })

def resetMetrics (r : UdpReceiver) : UdpReceiver :=
  { r with metricsCollector := r.metricsCollector.reset }

def getMetrics (r : UdpReceiver) (now : TimePoint) : MetricsSnapshot Nat ℚ :=
  r.metricsCollector.getSnapshot now

def setExpectedDataRate (r : UdpReceiver) (dataRate : DataRate) :
    UdpReceiver :=
  { r with
    metricsCollector := r.metricsCollector.setExpectedDataRate dataRate }

def onPlay (r : UdpReceiver) (now : TimePoint) : UdpReceiver :=
  { r with
    isActive := true
    metricsCollector := r.metricsCollector.onPlay now }

def onPause (r : UdpReceiver) (now : TimePoint) : UdpReceiver :=
  { r with
    isActive := false
    metricsCollector := r.metricsCollector.onPause now }

def onStop (r : UdpReceiver) : UdpReceiver :=
  { r with isActive := false }

/-- The clock readings `OnPacketReceived` takes. -/
structure Clock where
  receivedTime : TimePoint
  nowMicroseconds : UInt64
deriving DecidableEq

/-- The end of an iteration: the collector, and the entries `OnState` is
called with. -/
def record (r : UdpReceiver) (clock : Clock)
    (batch : EntityStateBatchPayload) : UdpReceiver × List EntityStateEntry :=
  ({ r with
      metricsCollector := r.metricsCollector.onPacketReceived
        clock.receivedTime clock.nowMicroseconds.toNat
        batch.sequenceId.toNat batch.timestamp.toNat },
    batch.entities)

/-- A whole iteration of `ReceiveWorker` on one datagram. -/
def receiveWorkerStep (host : ByteOrder) (clock : Clock) (r : UdpReceiver)
    (datagram : List UInt8) : UdpReceiver × List EntityStateEntry :=
  match receiveDatagram host datagram with
  | none => (r, [])
  | some batch => if !r.isActive then (r, []) else r.record clock batch

end UdpReceiver

/-! ## What the server sends -/

theorem entityStatePacket_length (batch : EntityStateBatchPayload) :
    (entityStatePacket batch).length = 19 + 24 * batch.entities.length := by
  rw [entityStatePacket, List.length_cons, entityStateBatchBytes_length,
    entityStateEntrySize]
  omega

/-- A batch that fits the buffer is decoded as it was. -/
theorem receiveDatagram_packet (host : ByteOrder)
    {batch : EntityStateBatchPayload} (h : batch.entities.length ≤ 84) :
    receiveDatagram host (entityStatePacket batch) = some batch := by
  have hlen := entityStatePacket_length batch
  obtain ⟨reader, hheader, hremaining⟩ :=
    tryDeserializeHeader_reads .entityState ⟨entityStatePacket batch, 0⟩
      (entityStateBatchBytes batch) rfl
  obtain ⟨reader', hbatch, -⟩ :=
    tryDeserializeEntityStateBatch_reads host batch (by omega) reader []
      (by rw [hremaining, List.append_nil])
  rw [receiveDatagram, receiveFrom,
    if_pos (by rw [hlen, receiveBufferSize]; omega)]
  dsimp only
  rw [if_neg (by omega), hheader]
  dsimp only
  rw [if_neg (by simp), hbatch]
  rfl

/-- A larger one never reaches the decoder. -/
theorem receiveDatagram_oversized (host : ByteOrder)
    {batch : EntityStateBatchPayload} (h : 85 ≤ batch.entities.length) :
    receiveDatagram host (entityStatePacket batch) = none := by
  rw [receiveDatagram, receiveFrom, if_neg (by
    rw [entityStatePacket_length, receiveBufferSize]; omega)]

section

variable {F : Type} [FloatArith F]

omit [FloatArith F] in
/-- Every packet of one broadcast holds the same entries and timestamp. -/
theorem sendToRecipients_packet (host : ByteOrder)
    (inetPton : String → Option UInt32) (tickCount : UInt64)
    (batch : EntityStateBatchPayload) :
    ∀ (sessions : List (ClientSession F)) (sequenceId : UInt64),
      ∀ sent ∈ (sendToRecipients host inetPton tickCount
          (entityStatePacket { batch with sequenceId }) sessions).2,
        ∃ sequenceId, sent.packet
          = entityStatePacket { batch with sequenceId }
  | [], _, _, h => by cases h
  | recipient :: recipients, sequenceId, sent, h => by
      rw [sendToRecipients] at h
      split at h
      · exact sendToRecipients_packet host inetPton tickCount batch recipients
          sequenceId sent h
      · rename_i destination hsome
        have hpatch : patchEntityStateSequenceId host
            (entityStatePacket { batch with sequenceId })
            recipient.getNextSequenceId.1
            = entityStatePacket { batch with
                sequenceId := recipient.getNextSequenceId.1 } :=
          patchEntityStateSequenceId_batch host _ _ _
        rcases List.mem_cons.mp h with rfl | h
        · exact ⟨_, hpatch⟩
        · rw [hpatch] at h
          exact sendToRecipients_packet host inetPton tickCount batch
            recipients _ sent h

theorem broadcast_packet {host : ByteOrder}
    {inetPton : String → Option UInt32} {tickCount timestamp : UInt64}
    {sessions : List (ClientSession F)} {sent : Sent}
    (h : sent ∈ (broadcast host inetPton tickCount timestamp sessions).2) :
    ∃ sequenceId, sent.packet = entityStatePacket
      { sequenceId, timestamp, entities := collectEntries sessions } := by
  rw [broadcast] at h
  dsimp only at h
  split at h
  · cases h
  · rw [serializePacket_eq] at h
    exact sendToRecipients_packet host inetPton tickCount
      { sequenceId := 0, timestamp, entities := collectEntries sessions }
      sessions 0 sent h

/-- How many sessions are playing. -/
def playingCount (sessions : List (ClientSession F)) : Nat :=
  sessions.countP fun session => session.state = .playing

theorem collectEntries_length (sessions : List (ClientSession F)) :
    (collectEntries sessions).length = playingCount sessions := by
  rw [collectEntries, List.length_map, playingCount,
    List.countP_eq_length_filter]

end

/-- Up to 84 playing sessions fit the client's buffer: an active client
passes exactly their entries to `OnState`, in order. From 85 on the
packet is dropped and nothing changes. -/
theorem broadcast_delivered {F : Type} [FloatArith F]
    {serverHost clientHost : ByteOrder} {inetPton : String → Option UInt32}
    {tickCount timestamp : UInt64} {sessions : List (ClientSession F)}
    {sent : Sent} {r : UdpReceiver} (clock : UdpReceiver.Clock)
    (hsent : sent
      ∈ (broadcast serverHost inetPton tickCount timestamp sessions).2)
    (hactive : r.isActive = true) :
    (playingCount sessions ≤ 84 →
      (r.receiveWorkerStep clientHost clock sent.packet).2
        = collectEntries sessions)
    ∧ (85 ≤ playingCount sessions →
      r.receiveWorkerStep clientHost clock sent.packet = (r, [])) := by
  obtain ⟨sequenceId, hpacket⟩ := broadcast_packet hsent
  rw [← collectEntries_length, hpacket]
  constructor
  · intro hfits
    rw [UdpReceiver.receiveWorkerStep, receiveDatagram_packet clientHost hfits]
    simp [hactive, UdpReceiver.record]
  · intro hlarge
    rw [UdpReceiver.receiveWorkerStep,
      receiveDatagram_oversized clientHost hlarge]

/-! The boundary, with everybody at the origin. -/

/-- `n` sessions playing at 60 Hz behind one loopback address. -/
def crowd (n : Nat) : List (ClientSession Float32) :=
  (List.range n).map fun i =>
    { loneSession with
      sessionId := UInt64.ofNat (i + 1)
      dataRate := .hz60 }

theorem playingCount_crowd (n : Nat) : playingCount (crowd n) = n := by
  have hall : playingCount (crowd n) = (crowd n).length := by
    rw [playingCount, List.countP_eq_length]
    intro session h
    obtain ⟨i, -, rfl⟩ := List.mem_map.mp h
    rfl
  rw [hall, crowd, List.length_map, List.length_range]

theorem crowd_broadcast (n : Nat) :
    ∃ sent, sent ∈ (broadcast .little loopback 1 0 (crowd (n + 1))).2 := by
  have hentries : (collectEntries (crowd (n + 1))).isEmpty = false := by
    rw [List.isEmpty_eq_false_iff, ← List.length_pos_iff,
      collectEntries_length, playingCount_crowd]
    exact Nat.succ_pos n
  simp only [broadcast, hentries, if_false, Bool.false_eq_true]
  rw [crowd, List.range_succ_eq_map, List.map_cons, sendToRecipients]
  exact ⟨_, List.mem_cons_self⟩

/-- Eighty-four entries still get through. -/
theorem broadcast_delivered_84 :
    ∃ sent ∈ (broadcast .little loopback 1 0 (crowd 84)).2,
      (({ isActive := true } : UdpReceiver).receiveWorkerStep .little ⟨0, 0⟩
        sent.packet).2 = collectEntries (crowd 84) := by
  obtain ⟨sent, hsent⟩ := crowd_broadcast 83
  exact ⟨sent, hsent, (broadcast_delivered ⟨0, 0⟩ hsent rfl).1
    (playingCount_crowd 84).le⟩

/-- With one more nobody is told anything. -/
theorem crowd_of_85_dropped :
    ∃ sent ∈ (broadcast .little loopback 1 0 (crowd 85)).2,
      (({ isActive := true } : UdpReceiver).receiveWorkerStep .little ⟨0, 0⟩
        sent.packet).2 = []
      ∧ collectEntries (crowd 85) ≠ [] := by
  obtain ⟨sent, hsent⟩ := crowd_broadcast 84
  obtain ⟨sequenceId, hpacket⟩ := broadcast_packet hsent
  have hcount : (collectEntries (crowd 85)).length = 85 := by
    rw [collectEntries_length, playingCount_crowd]
  refine ⟨sent, hsent, ?_, ?_⟩
  · rw [hpacket, UdpReceiver.receiveWorkerStep,
      receiveDatagram_oversized .little hcount.ge]
  · intro hnil
    rw [hnil] at hcount
    cases hcount

end NetworkControl
