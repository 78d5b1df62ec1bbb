import NetworkControl.ControlChannel
import NetworkControl.EntityWorld

/-!
# The control channel, server to client

`SendEntitySpawn` and `SendEntityDespawn` of
`Server/TcpControlServer.cpp` and `TcpMessageReceiver::ReceiveWorker`,
down to the bytes. `ReceiveWorker` never returns to anyone, so its loop
is an iteration `receiveOne` on the receiver's state, which also says
whether the thread has left the loop.

`receiveOne_consumes` is the counterpart of `ControlLoop.next_consumes`:
while the messages on the stream are whole, each iteration applies one of
them to the world.
-/

namespace NetworkControl

open Endian Framing BinaryReader

/-! ## TcpControlServer's sends -/

def sendEntitySpawn (host : ByteOrder) (socket : TcpSocket)
    (payload : EntitySpawnPayload) : Bool × TcpSocket :=
  let writer := serializeHeader {} .entitySpawn
  socket.sendAll (serializeEntitySpawn host writer payload).data

def sendEntityDespawn (host : ByteOrder) (socket : TcpSocket)
    (payload : EntityDespawnPayload) : Bool × TcpSocket :=
  let writer := serializeHeader {} .entityDespawn
  socket.sendAll (serializeEntityDespawn host writer payload).data

namespace ServerMessage

/-- The function that writes each. -/
def send (host : ByteOrder) (socket : TcpSocket) :
    ServerMessage → Bool × TcpSocket
  | entitySpawn payload => sendEntitySpawn host socket payload
  | entityDespawn payload => sendEntityDespawn host socket payload

def bytes : ServerMessage → List UInt8
  | entitySpawn payload =>
      MessageType.entitySpawn.toUInt8 :: entitySpawnBytes payload
  | entityDespawn payload =>
      MessageType.entityDespawn.toUInt8 :: entityDespawnBytes payload

theorem send_eq_sendAll (host : ByteOrder) (socket : TcpSocket)
    (m : ServerMessage) : m.send host socket = socket.sendAll m.bytes := by
  cases m with
  | entitySpawn payload =>
      simp [send, bytes, sendEntitySpawn, serializeEntitySpawn_data]
  | entityDespawn payload =>
      simp [send, bytes, sendEntityDespawn, serializeEntityDespawn_data]

theorem bytes_length_pos (m : ServerMessage) : 0 < m.bytes.length := by
  cases m <;> simp [bytes]

theorem bytes_length_le (m : ServerMessage) :
    m.bytes.length ≤ TcpSocket.intMax := by
  cases m <;> simp [bytes, TcpSocket.intMax, entitySpawnPayloadSize,
    entityDespawnPayloadSize]

/-- Write a sequence of messages, one call each. -/
def sendEach (host : ByteOrder) (socket : TcpSocket)
    (ms : List ServerMessage) : TcpSocket :=
  ms.foldl (fun socket m => (m.send host socket).2) socket

theorem sendEach_written (host : ByteOrder) (ms : List ServerMessage)
    {socket : TcpSocket} (hvalid : socket.isValid = true)
    (halive : socket.outgoing.Alive) :
    (sendEach host socket ms).outgoing.written
      = socket.outgoing.written ++ ms.flatMap bytes := by
  simp only [sendEach, send_eq_sendAll]
  exact TcpSocket.foldl_sendAll_written bytes_length_pos bytes_length_le ms
    socket hvalid halive

end ServerMessage

/-! ## TcpMessageReceiver -/

/-- The receiver's flags; `inLoop` says that the worker thread is still
inside its loop. -/
structure ReceiverThread where
  isRunning : Bool := true
  hasFailedUnexpectedly : Bool := false
  inLoop : Bool := true
deriving DecidableEq, Repr

/-- Leave the loop, failed unless `Stop` was called. -/
def ReceiverThread.fail (t : ReceiverThread) : ReceiverThread :=
  { t with
    hasFailedUnexpectedly := t.hasFailedUnexpectedly || t.isRunning
    inLoop := false }

structure TcpMessageReceiver extends ReceiverThread where
  entityWorld : EntityWorld
  controlSocket : TcpSocket

namespace TcpMessageReceiver

def fail (r : TcpMessageReceiver) : TcpMessageReceiver :=
  { r with toReceiverThread := r.toReceiverThread.fail }

/-- One iteration of `ReceiveWorker`, none once it has left the loop. -/
def receiveOne (host : ByteOrder) (r : TcpMessageReceiver) :
    TcpMessageReceiver :=
  if !r.inLoop then r
  else if !r.isRunning then { r with inLoop := false }
  else
    match r.controlSocket.receiveAll 1 with
    | (none, controlSocket) => { r with controlSocket }.fail
    | (some headerByte, controlSocket) =>
        let type := headerType headerByte
        if type = .entitySpawn then
          match controlSocket.receiveAll entitySpawnPayloadSize with
          | (none, controlSocket) => { r with controlSocket }.fail
          | (some payloadBytes, controlSocket) =>
              match parse (tryDeserializeEntitySpawn host) payloadBytes with
              | some payload =>
                  { r with
                    controlSocket
                    entityWorld := r.entityWorld.onSpawn payload }
              | none => { r with controlSocket }
        else if type = .entityDespawn then
          match controlSocket.receiveAll entityDespawnPayloadSize with
          | (none, controlSocket) => { r with controlSocket }.fail
          | (some payloadBytes, controlSocket) =>
              match parse (tryDeserializeEntityDespawn host) payloadBytes with
              | some payload =>
                  { r with
                    controlSocket
                    entityWorld := r.entityWorld.onDespawn payload }
              | none => { r with controlSocket }
        else { r with controlSocket }.fail

/-- In its loop, with nobody having stopped it. -/
structure Ready (r : TcpMessageReceiver) : Prop where
  isRunning : r.isRunning = true
  inLoop : r.inLoop = true
  notFailed : r.hasFailedUnexpectedly = false
  isValid : r.controlSocket.isValid = true

theorem receiveOne_consumes (host : ByteOrder) :
    Consumes Ready (·.controlSocket.incoming.pending) (·.entityWorld)
      (receiveOne host) ServerMessage.bytes EntityWorld.applyMessage := by
  rintro r m rest ⟨hrunning, hloop, hfailed, hvalid⟩ hpend
  cases m with
  | entitySpawn payload =>
      obtain ⟨tail, htail, hheader⟩ := receiveAll_header hvalid hpend
      obtain ⟨incoming, hrest, hbody⟩ := receiveAll_payload
        { r.controlSocket with incoming := tail } hvalid
        (entitySpawnBytes_length _) (by decide) (by decide) htail
      have hnext : r.receiveOne host = { r with
          controlSocket := { r.controlSocket with incoming }
          entityWorld := r.entityWorld.onSpawn payload } := by
        rw [receiveOne, hloop, hrunning, hheader]
        dsimp only
        rw [headerType_toUInt8, if_pos rfl, hbody]
        dsimp only
        rw [(tryDeserializeEntitySpawn_reads host _).parse]
        rfl
      rw [hnext]
      exact ⟨⟨hrunning, hloop, hfailed, hvalid⟩, rfl, hrest⟩
  | entityDespawn payload =>
      obtain ⟨tail, htail, hheader⟩ := receiveAll_header hvalid hpend
      obtain ⟨incoming, hrest, hbody⟩ := receiveAll_payload
        { r.controlSocket with incoming := tail } hvalid
        (entityDespawnBytes_length _) (by decide) (by decide) htail
      have hnext : r.receiveOne host = { r with
          controlSocket := { r.controlSocket with incoming }
          entityWorld := r.entityWorld.onDespawn payload } := by
        rw [receiveOne, hloop, hrunning, hheader]
        dsimp only
        rw [headerType_toUInt8, if_neg (by decide), if_pos rfl, hbody]
        dsimp only
        rw [(tryDeserializeEntityDespawn_reads host _).parse]
        rfl
      rw [hnext]
      exact ⟨⟨hrunning, hloop, hfailed, hvalid⟩, rfl, hrest⟩

/-- Once the stream has ended, the next iteration leaves the loop with
the failure flag up and the world as it is. -/
theorem receiveOne_ended (host : ByteOrder) {r : TcpMessageReceiver}
    (h : Ready r) (hpend : r.controlSocket.incoming.pending = []) :
    ∃ incoming, r.receiveOne host = { r with
        controlSocket := { r.controlSocket with incoming }
        hasFailedUnexpectedly := true
        inLoop := false } := by
  obtain ⟨hrunning, hloop, -, hvalid⟩ := h
  obtain ⟨incoming, -, hnone⟩ := TcpSocket.receiveAll_short 1
    hvalid (by decide) (by rw [hpend]; exact Nat.one_pos)
  refine ⟨incoming, ?_⟩
  rw [receiveOne, hloop, hrunning, hnone]
  simp [fail, ReceiverThread.fail, hrunning]

end TcpMessageReceiver

/-! ## Both directions -/

/-- Every field of the snapshot stands in the payload's field of that
name. -/
structure SameFields (metrics : WireSnapshot) (payload : StopPayload) :
    Prop where
  elapsedSeconds : payload.elapsedSeconds = metrics.elapsedSeconds
  totalReceivedCount : payload.totalReceivedCount = metrics.totalReceivedCount
  lossCount : payload.lossCount = metrics.lossCount
  outOfOrderCount : payload.outOfOrderCount = metrics.outOfOrderCount
  lossRate : payload.lossRate = metrics.lossRate
  intervalSampleCount :
    payload.intervalSampleCount = metrics.intervalSampleCount
  averageReceiveIntervalMilliseconds :
    payload.averageReceiveIntervalMilliseconds
      = metrics.averageReceiveIntervalMilliseconds
  maxReceiveIntervalMilliseconds : payload.maxReceiveIntervalMilliseconds
    = metrics.maxReceiveIntervalMilliseconds
  averageIntervalDeviationMilliseconds :
    payload.averageIntervalDeviationMilliseconds
      = metrics.averageIntervalDeviationMilliseconds
  delayedPacketCount : payload.delayedPacketCount = metrics.delayedPacketCount
  delayedPacketRate : payload.delayedPacketRate = metrics.delayedPacketRate
  latencySampleCount : payload.latencySampleCount = metrics.latencySampleCount
  averageLatencyMilliseconds :
    payload.averageLatencyMilliseconds = metrics.averageLatencyMilliseconds
  minLatencyMilliseconds :
    payload.minLatencyMilliseconds = metrics.minLatencyMilliseconds
  maxLatencyMilliseconds :
    payload.maxLatencyMilliseconds = metrics.maxLatencyMilliseconds

theorem stopPayload_sameFields (metrics : WireSnapshot) :
    SameFields metrics (stopPayload metrics) := by
  constructor <;> rfl

/-- Both directions of the control connection keep their framing: after
as many calls as messages were `done`, exactly these have been handled,
with their values, and the stream stands at the first message `todo`. -/
theorem control_framing_round_trip {F : Type} [FloatArith F]
    (clientHost serverHost : ByteOrder) (sendCut recvCut : Nat → Nat) :
    (∀ (clientIp : String) (c : Control F) (done todo : List ClientMessage),
      let stream := (ClientMessage.sendEach clientHost (.sending sendCut)
        (done ++ todo)).outgoing.written
      let after := (ControlLoop.next clientIp serverHost)^[done.length]
        { control := c, socket := .receiving stream recvCut }
      after.keep = true
        ∧ after.control = done.foldl (handleMessage clientIp) c
        ∧ after.socket.incoming.pending = todo.flatMap ClientMessage.bytes)
    ∧ (∀ metrics : WireSnapshot, SameFields metrics (stopPayload metrics))
    ∧ ∀ (world : EntityWorld) (done todo : List ServerMessage),
      let stream := (ServerMessage.sendEach serverHost (.sending sendCut)
        (done ++ todo)).outgoing.written
      let after := (TcpMessageReceiver.receiveOne clientHost)^[done.length]
        { entityWorld := world, controlSocket := .receiving stream recvCut }
      after.inLoop = true
        ∧ after.hasFailedUnexpectedly = false
        ∧ after.entityWorld = done.foldl EntityWorld.applyMessage world
        ∧ after.controlSocket.incoming.pending
            = todo.flatMap ServerMessage.bytes := by
  refine ⟨?_, stopPayload_sameFields, ?_⟩
  · intro clientIp c done todo stream after
    have hstream : stream = done.flatMap ClientMessage.bytes
        ++ todo.flatMap ClientMessage.bytes := by
      rw [← List.flatMap_append]
      exact ClientMessage.sendEach_written clientHost (done ++ todo) rfl
        (TcpSocket.sending_alive sendCut)
    obtain ⟨hready, hcontrol, hpend⟩ :=
      (ControlLoop.next_consumes clientIp serverHost).iterate done
        { control := c, socket := .receiving stream recvCut } _
        ⟨rfl, rfl⟩ hstream
    exact ⟨hready.1, hcontrol, hpend⟩
  · intro world done todo stream after
    have hstream : stream = done.flatMap ServerMessage.bytes
        ++ todo.flatMap ServerMessage.bytes := by
      rw [← List.flatMap_append]
      exact ServerMessage.sendEach_written serverHost (done ++ todo) rfl
        (TcpSocket.sending_alive sendCut)
    obtain ⟨hready, hworld, hpend⟩ :=
      (TcpMessageReceiver.receiveOne_consumes clientHost).iterate done
        { entityWorld := world, controlSocket := .receiving stream recvCut }
        _ ⟨rfl, rfl, rfl, rfl⟩ hstream
    exact ⟨hready.inLoop, hready.notFailed, hworld, hpend⟩

end NetworkControl
