import NetworkControl.ClientSession
import NetworkControl.MetricsCollector
import NetworkControl.TcpSocket

/-!
# The control channel, client to server

The five message-sending functions of `ClientCore/GameClient.cpp` and
`TcpControlServer::ProcessOneMessage`. Both are translated down to the
bytes: `processOneMessage` calls `ReceiveAll` and `TryDeserialize*` where
the source does, and a branch that ignores a command still receives its
payload first.

`handleMessage` is the abstract server: what one decoded message does,
bytes forgotten. `processOneMessage_consumes` says the faithful function
refines it, one message at a time; every later model of the server goes
through `handleMessage`.
-/

namespace NetworkControl

open Endian Framing BinaryReader

/-- Run a `TryDeserialize*` on a received buffer. -/
def parse {α : Type} (p : Read α) (bytes : List UInt8) : Option α :=
  (p ⟨bytes, 0⟩).map Prod.fst

theorem Reads.parse {α : Type} {p : Read α} {bytes : List UInt8} {v : α}
    (h : Reads p bytes v) : parse p bytes = some v := by
  obtain ⟨r, hr, -⟩ := h ⟨bytes, 0⟩ [] (List.append_nil _).symm
  rw [NetworkControl.parse, hr]
  rfl

/-! ## GameClient's sends -/

section

variable (host : ByteOrder)

def sendMessage (socket : TcpSocket) (writer : BinaryWriter) :
    Bool × TcpSocket :=
  socket.sendAll writer.data

def sendHeaderOnly (socket : TcpSocket) (type : MessageType) :
    Bool × TcpSocket :=
  sendMessage socket (serializeHeader {} type)

def sendRegisterUdpPort (socket : TcpSocket) (port : UInt16) :
    Bool × TcpSocket :=
  let writer := serializeHeader {} .registerUdpPort
  let payload : RegisterUdpPortPayload := { port }
  sendMessage socket (serializeRegisterUdpPort host writer payload)

def sendSetRate (socket : TcpSocket) (dataRateHz : UInt32) :
    Bool × TcpSocket :=
  let writer := serializeHeader {} .setRate
  let payload : SetRatePayload := { dataRateHz }
  sendMessage socket (serializeSetRate host writer payload)

/-- A snapshot as `SendStop` takes it, in the machine's own types. -/
abbrev WireSnapshot := MetricsSnapshot UInt64 DoubleBits

/-- The assignments of `SendStop`. -/
def stopPayload (metrics : WireSnapshot) : StopPayload where
  elapsedSeconds := metrics.elapsedSeconds
  totalReceivedCount := metrics.totalReceivedCount
  lossCount := metrics.lossCount
  outOfOrderCount := metrics.outOfOrderCount
  lossRate := metrics.lossRate
  intervalSampleCount := metrics.intervalSampleCount
  averageReceiveIntervalMilliseconds :=
    metrics.averageReceiveIntervalMilliseconds
  maxReceiveIntervalMilliseconds := metrics.maxReceiveIntervalMilliseconds
  averageIntervalDeviationMilliseconds :=
    metrics.averageIntervalDeviationMilliseconds
  delayedPacketCount := metrics.delayedPacketCount
  delayedPacketRate := metrics.delayedPacketRate
  latencySampleCount := metrics.latencySampleCount
  averageLatencyMilliseconds := metrics.averageLatencyMilliseconds
  minLatencyMilliseconds := metrics.minLatencyMilliseconds
  maxLatencyMilliseconds := metrics.maxLatencyMilliseconds

def sendStop (socket : TcpSocket) (metrics : WireSnapshot) :
    Bool × TcpSocket :=
  let writer := serializeHeader {} .stop
  sendMessage socket (serializeStop host writer (stopPayload metrics))

end

/-- The messages a client sends. -/
inductive ClientMessage where
  | registerUdpPort (port : UInt16)
  | play
  | pause
  | reset
  | setRate (dataRateHz : UInt32)
  | stop (metrics : WireSnapshot)
deriving DecidableEq, Repr

namespace ClientMessage

def isStop : ClientMessage → Bool
  | stop _ => true
  | _ => false

/-- The function that writes each. -/
def send (host : ByteOrder) (socket : TcpSocket) :
    ClientMessage → Bool × TcpSocket
  | registerUdpPort port => sendRegisterUdpPort host socket port
  | play => sendHeaderOnly socket .play
  | pause => sendHeaderOnly socket .pause
  | reset => sendHeaderOnly socket .reset
  | setRate dataRateHz => sendSetRate host socket dataRateHz
  | stop metrics => sendStop host socket metrics

def bytes : ClientMessage → List UInt8
  | registerUdpPort port =>
      MessageType.registerUdpPort.toUInt8 :: registerUdpPortBytes { port }
  | play => [MessageType.play.toUInt8]
  | pause => [MessageType.pause.toUInt8]
  | reset => [MessageType.reset.toUInt8]
  | setRate dataRateHz =>
      MessageType.setRate.toUInt8 :: setRateBytes { dataRateHz }
  | stop metrics => MessageType.stop.toUInt8 :: stopBytes (stopPayload metrics)

theorem send_eq_sendAll (host : ByteOrder) (socket : TcpSocket)
    (m : ClientMessage) : m.send host socket = socket.sendAll m.bytes := by
  cases m with
  | registerUdpPort port =>
      simp [send, bytes, sendRegisterUdpPort, sendMessage,
        serializeRegisterUdpPort_data]
  | setRate dataRateHz =>
      simp [send, bytes, sendSetRate, sendMessage, serializeSetRate_data]
  | stop metrics =>
      simp [send, bytes, sendStop, sendMessage, serializeStop_data]
  | _ => rfl

theorem bytes_length_pos (m : ClientMessage) : 0 < m.bytes.length := by
  cases m <;> simp [bytes]

theorem bytes_length_le (m : ClientMessage) :
    m.bytes.length ≤ TcpSocket.intMax := by
  cases m <;> simp [bytes, TcpSocket.intMax, registerUdpPortPayloadSize,
    setRatePayloadSize, stopPayloadSize]

/-- Write a sequence of messages, one call each. -/
def sendEach (host : ByteOrder) (socket : TcpSocket)
    (ms : List ClientMessage) : TcpSocket :=
  ms.foldl (fun socket m => (m.send host socket).2) socket

/-- Whatever the splits, the messages follow each other on the stream. -/
theorem sendEach_written (host : ByteOrder) (ms : List ClientMessage)
    {socket : TcpSocket} (hvalid : socket.isValid = true)
    (halive : socket.outgoing.Alive) :
    (sendEach host socket ms).outgoing.written
      = socket.outgoing.written ++ ms.flatMap bytes := by
  simp only [sendEach, send_eq_sendAll]
  exact TcpSocket.foldl_sendAll_written bytes_length_pos bytes_length_le ms
    socket hvalid halive

end ClientMessage

/-! ## ProcessOneMessage -/

/-- What `ProcessOneMessage` calls besides the socket. -/
inductive ServerCall where
  | registerUdpEndpoint (ip : String) (port : UInt16)
  | invalidUdpPort
  | broadcastSpawnsForNewSession
  | setRate (dataRateHz : UInt32)
  | printClientMetricsSnapshot (sentPacketCount : UInt64)
      (metrics : StopPayload)
  | stop
  | play
  | pause
  | reset
  | commandIgnored
  | unexpectedMessageType (type : MessageType)
deriving DecidableEq, Repr

/-- What a `ControlWorker` keeps between messages: its session, its flag,
and the calls made so far. -/
structure Control (F : Type) where
  session : ClientSession F
  isUdpEndpointRegistered : Bool := false
  calls : List ServerCall := []

section

variable {F : Type} [FloatArith F] (clientIp : String)

def Control.call (c : Control F) (call : ServerCall)
    (session : ClientSession F) : Control F :=
  { c with session, calls := c.calls ++ [call] }

omit [FloatArith F] in
@[simp] theorem Control.call_session (c : Control F) (call : ServerCall)
    (session : ClientSession F) :
    (c.call call session).session = session := rfl

omit [FloatArith F] in
@[simp] theorem Control.call_isUdpEndpointRegistered (c : Control F)
    (call : ServerCall) (session : ClientSession F) :
    (c.call call session).isUdpEndpointRegistered
      = c.isUdpEndpointRegistered := rfl

/-- `RegisterUdpEndpoint`, with its result stored in the flag. -/
def registerUdpEndpoint (c : Control F) (udpPort : UInt16) : Control F :=
  if udpPort = 0 then
    { c.call .invalidUdpPort c.session with isUdpEndpointRegistered := false }
  else
    { c.call (.registerUdpEndpoint clientIp udpPort)
        (c.session.registerUdpEndpoint clientIp udpPort) with
      isUdpEndpointRegistered := true }

/-- The header byte's type; an unread `type` is value-initialised. -/
def headerType (headerByte : List UInt8) : MessageType :=
  (parse tryDeserializeHeader headerByte).getD .registerUdpPort

/-- The first component is the result: whether to keep the connection. -/
def processOneMessage (host : ByteOrder) (c : Control F)
    (socket : TcpSocket) : Bool × Control F × TcpSocket :=
  match socket.receiveAll 1 with
  | (none, socket) => (false, c, socket)
  | (some headerByte, socket) =>
      let type := headerType headerByte
      if type = .registerUdpPort then
        match socket.receiveAll registerUdpPortPayloadSize with
        | (none, socket) => (false, c, socket)
        | (some payloadBytes, socket) =>
            match parse (tryDeserializeRegisterUdpPort host) payloadBytes with
            | none => (false, c, socket)
            | some payload =>
                let c := registerUdpEndpoint clientIp c payload.port
                if c.isUdpEndpointRegistered then
                  (true, c.call .broadcastSpawnsForNewSession c.session,
                    socket)
                else (true, c, socket)
      else if type = .setRate then
        match socket.receiveAll setRatePayloadSize with
        | (none, socket) => (false, c, socket)
        | (some payloadBytes, socket) =>
            if !c.isUdpEndpointRegistered then
              (true, c.call .commandIgnored c.session, socket)
            else
              match parse (tryDeserializeSetRate host) payloadBytes with
              | none => (false, c, socket)
              | some payload =>
                  (true, c.call (.setRate payload.dataRateHz)
                    (c.session.setRate payload.dataRateHz), socket)
      else if type = .stop then
        match socket.receiveAll stopPayloadSize with
        | (none, socket) => (false, c, socket)
        | (some payloadBytes, socket) =>
            if !c.isUdpEndpointRegistered then
              (true, c.call .commandIgnored c.session, socket)
            else
              match parse (tryDeserializeStop host) payloadBytes with
              | none => (false, c, socket)
              | some payload =>
                  let c := c.call (.printClientMetricsSnapshot
                    c.session.getSentPacketCount payload) c.session
                  (true, c.call .stop c.session.stop, socket)
      else if !c.isUdpEndpointRegistered then
        (true, c.call .commandIgnored c.session, socket)
      else
        match type with
        | .play => (true, c.call .play c.session.play, socket)
        | .pause => (true, c.call .pause c.session.pause, socket)
        | .reset => (true, c.call .reset c.session.reset, socket)
        | type => (false, c.call (.unexpectedMessageType type) c.session,
            socket)

/-! ## The abstract server -/

/-- A command of a session that is not registered is ignored. -/
def Control.command (c : Control F) (run : Control F → Control F) :
    Control F :=
  if c.isUdpEndpointRegistered then run c
  else c.call .commandIgnored c.session

/-- What one message does to the server's side of the connection. -/
def handleMessage (c : Control F) : ClientMessage → Control F
  | .registerUdpPort port =>
      let c := registerUdpEndpoint clientIp c port
      if c.isUdpEndpointRegistered then
        c.call .broadcastSpawnsForNewSession c.session
      else c
  | .play => c.command fun c => c.call .play c.session.play
  | .pause => c.command fun c => c.call .pause c.session.pause
  | .reset => c.command fun c => c.call .reset c.session.reset
  | .setRate dataRateHz => c.command fun c =>
      c.call (.setRate dataRateHz) (c.session.setRate dataRateHz)
  | .stop metrics => c.command fun c =>
      (c.call (.printClientMetricsSnapshot c.session.getSentPacketCount
        (stopPayload metrics)) c.session).call .stop c.session.stop

/-- What a message does to a registered session. -/
def ClientMessage.runOn (session : ClientSession F) :
    ClientMessage → ClientSession F
  | .registerUdpPort port => session.registerUdpEndpoint clientIp port
  | .play => session.play
  | .pause => session.pause
  | .reset => session.reset
  | .setRate dataRateHz => session.setRate dataRateHz
  | .stop _ => session.stop

omit [FloatArith F] in
theorem Control.command_session (c : Control F)
    (run : Control F → Control F) :
    (c.command run).session = c.session
      ∨ (c.command run).session = (run c).session := by
  rw [Control.command]
  split
  · exact Or.inr rfl
  · exact Or.inl rfl

/-- A message is ignored, or does to the session what it says. -/
theorem handleMessage_session (c : Control F) (m : ClientMessage) :
    (handleMessage clientIp c m).session = c.session
      ∨ (handleMessage clientIp c m).session = m.runOn clientIp c.session := by
  cases m with
  | registerUdpPort port =>
      by_cases hport : port = 0
      · refine Or.inl ?_
        simp [handleMessage, registerUdpEndpoint, hport]
      · refine Or.inr ?_
        simp [handleMessage, registerUdpEndpoint, hport,
          ClientMessage.runOn]
  | _ => exact Control.command_session c _

/-- No message changes whose session it is. -/
theorem handleMessage_sessionId (c : Control F) (m : ClientMessage) :
    (handleMessage clientIp c m).session.sessionId = c.session.sessionId := by
  rcases handleMessage_session clientIp c m with hsame | hrun
  · rw [hsame]
  · rw [hrun]
    cases m with
    | play =>
        rw [ClientMessage.runOn, ClientSession.play]
        split <;> rfl
    | pause =>
        rw [ClientMessage.runOn, ClientSession.pause]
        split <;> rfl
    | setRate dataRateHz =>
        rw [ClientMessage.runOn, ClientSession.setRate]
        split
        · rfl
        · split <;> rfl
    | _ => rfl

/-! ## The faithful server refines it -/

@[simp] theorem headerType_toUInt8 (type : MessageType) :
    headerType [type.toUInt8] = type := by
  rw [headerType, (tryDeserializeHeader_reads type).parse]
  rfl

/-- A received buffer of `size` bytes, wherever these are next. -/
theorem receiveAll_payload (socket : TcpSocket) {bytes rest : List UInt8}
    {size : Nat} (hvalid : socket.isValid = true) (hlen : bytes.length = size)
    (hpos : 0 < size) (hmax : size ≤ TcpSocket.intMax)
    (hpend : socket.incoming.pending = bytes ++ rest) :
    ∃ incoming, incoming.pending = rest
      ∧ socket.receiveAll size = (some bytes, { socket with incoming }) := by
  subst hlen
  exact TcpSocket.receiveAll_eq hvalid hpos hmax hpend

theorem receiveAll_header {socket : TcpSocket} {byte : UInt8}
    {rest : List UInt8} (hvalid : socket.isValid = true)
    (hpend : socket.incoming.pending = byte :: rest) :
    ∃ incoming, incoming.pending = rest
      ∧ socket.receiveAll 1 = (some [byte], { socket with incoming }) :=
  receiveAll_payload socket hvalid rfl Nat.one_pos (by decide)
    (show socket.incoming.pending = [byte] ++ rest from hpend)

/-- One message off the stream, as the abstract server handles it. -/
theorem processOneMessage_eq (clientIp : String) (host : ByteOrder)
    (c : Control F) {socket : TcpSocket} (m : ClientMessage) {rest : List UInt8}
    (hvalid : socket.isValid = true)
    (hpend : socket.incoming.pending = m.bytes ++ rest) :
    ∃ incoming, incoming.pending = rest
      ∧ processOneMessage clientIp host c socket
          = (true, handleMessage clientIp c m, { socket with incoming }) := by
  cases m with
  | registerUdpPort port =>
      obtain ⟨payload, hpayload, hheader⟩ := receiveAll_header hvalid hpend
      obtain ⟨incoming, hrest, hbody⟩ := receiveAll_payload
        { socket with incoming := payload } hvalid
        (registerUdpPortBytes_length _) (by decide) (by decide) hpayload
      refine ⟨incoming, hrest, ?_⟩
      rw [processOneMessage, hheader]
      dsimp only
      rw [headerType_toUInt8, if_pos rfl, hbody]
      dsimp only
      rw [(tryDeserializeRegisterUdpPort_reads host _).parse]
      dsimp only [handleMessage]
      split <;> rfl
  | setRate dataRateHz =>
      obtain ⟨payload, hpayload, hheader⟩ := receiveAll_header hvalid hpend
      obtain ⟨incoming, hrest, hbody⟩ := receiveAll_payload
        { socket with incoming := payload } hvalid
        (setRateBytes_length _) (by decide) (by decide) hpayload
      refine ⟨incoming, hrest, ?_⟩
      rw [processOneMessage, hheader]
      dsimp only
      rw [headerType_toUInt8, if_neg (by decide), if_pos rfl, hbody]
      dsimp only
      rw [(tryDeserializeSetRate_reads host _).parse]
      cases hflag : c.isUdpEndpointRegistered <;>
        simp [handleMessage, Control.command, hflag]
  | stop metrics =>
      obtain ⟨payload, hpayload, hheader⟩ := receiveAll_header hvalid hpend
      obtain ⟨incoming, hrest, hbody⟩ := receiveAll_payload
        { socket with incoming := payload } hvalid
        (stopBytes_length _) (by decide) (by decide) hpayload
      refine ⟨incoming, hrest, ?_⟩
      rw [processOneMessage, hheader]
      dsimp only
      rw [headerType_toUInt8, if_neg (by decide), if_neg (by decide),
        if_pos rfl, hbody]
      dsimp only
      rw [(tryDeserializeStop_reads host _).parse]
      cases hflag : c.isUdpEndpointRegistered <;>
        simp [handleMessage, Control.command, hflag]
  | play | pause | reset =>
      -- no payload
      obtain ⟨incoming, hrest, hheader⟩ := receiveAll_header hvalid hpend
      refine ⟨incoming, hrest, ?_⟩
      rw [processOneMessage, hheader]
      cases hflag : c.isUdpEndpointRegistered <;>
        simp [handleMessage, Control.command, hflag]

end

/-! ## ControlWorker's message loop -/

/-- `keep` is the loop condition after the iterations so far. -/
structure ControlLoop (F : Type) where
  keep : Bool := true
  control : Control F
  socket : TcpSocket

namespace ControlLoop

variable {F : Type} [FloatArith F] (clientIp : String) (host : ByteOrder)

/-- One iteration, or none once the condition failed. -/
def next (w : ControlLoop F) : ControlLoop F :=
  if w.keep then
    let (keep, control, socket) :=
      processOneMessage clientIp host w.control w.socket
    { keep, control, socket }
  else w

def Ready (w : ControlLoop F) : Prop :=
  w.keep = true ∧ w.socket.isValid = true

theorem next_consumes :
    Consumes (Ready (F := F)) (·.socket.incoming.pending) (·.control)
      (next clientIp host) ClientMessage.bytes (handleMessage clientIp) := by
  rintro ⟨keep, control, socket⟩ m rest ⟨rfl, hvalid⟩ hpend
  obtain ⟨incoming, hrest, hprocess⟩ :=
    processOneMessage_eq clientIp host control m hvalid hpend
  have hnext : next clientIp host ⟨true, control, socket⟩
      = ⟨true, handleMessage clientIp control m,
          { socket with incoming }⟩ := by
    simp only [next, if_true, hprocess]
  rw [hnext]
  exact ⟨⟨rfl, hvalid⟩, rfl, hrest⟩

end ControlLoop

end NetworkControl
