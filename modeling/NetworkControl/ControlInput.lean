import NetworkControl.GameClient
import NetworkControl.TcpControlServer

/-!
# Control inputs

One control input on its way from `GameClient::SendControlInput` to
`ClientSession::ApplyControlInput`: `ClientCore/GameClient.cpp`,
`ClientCore/UdpReceiver.cpp` and `Server/UdpControlInputReceiver.cpp`,
down to the bytes of the datagram.

Later models of the steering work with `ControlInput` and `applyInput`;
`receiveControlInput_cases` says that the receiver does nothing else to
the server, and `receiveControlInput_packet` that a client's own datagram
gets there.
-/

namespace NetworkControl

open Endian FloatArith

section

variable {F : Type} [FloatArith F]

/-! ## The client -/

def clampToUnitRange (value : F) : F :=
  if lt value (ofRat (-1)) then ofRat (-1)
  else if lt (ofRat 1) value then ofRat 1
  else value

/-- The client clamps as the server does. -/
theorem clampToUnitRange_eq (value : F) :
    clampToUnitRange value
      = ClientSession.clamp value (ofRat (-1)) (ofRat 1) := rfl

/-- A control input before its floats are written as bits. -/
structure ControlInput (F : Type) where
  entityId : UInt32
  sequenceId : UInt32
  throttle : F
  yaw : F
deriving DecidableEq

def ControlInput.payload (input : ControlInput F) :
    EntityControlInputPayload where
  entityId := input.entityId
  sequenceId := input.sequenceId
  throttle := toBits input.throttle
  yaw := toBits input.yaw

/-- The datagram of a payload. -/
def controlInputPacket (host : ByteOrder)
    (payload : EntityControlInputPayload) : List UInt8 :=
  (serializeEntityControlInput host (serializeHeader {} .entityControlInput)
    payload).data

/-- What goes out, if `SendTo` sends it. `fetch_add(1) + 1` is the id. -/
def UdpReceiver.sendControlInput (r : UdpReceiver) (entityId : UInt32)
    (throttle yaw : F) : ControlInput F × UdpReceiver :=
  let sequenceId := r.nextControlInputSequenceId + 1
  ({ entityId, sequenceId, throttle, yaw },
    { r with nextControlInputSequenceId := sequenceId })

/-- `none` where it returns false without sending. -/
def GameClient.sendControlInput (c : GameClient) (throttle yaw : F) :
    Option (ControlInput F) × GameClient :=
  if !c.isConnected then (none, c)
  else
    match c.entityWorld.tryGetMyEntityId with
    | none => (none, c)
    | some myEntityId =>
        let (input, udpReceiver) := c.udpReceiver.sendControlInput myEntityId
          (clampToUnitRange throttle) (clampToUnitRange yaw)
        (some input, { c with udpReceiver })

/-! ## The server -/

/-- `uint8_t buffer[64]`. -/
def controlInputBufferSize : Nat := 64

/-- From `ReceiveFrom` to the payload; `none` where the loop continues. -/
def decodeControlInput (host : ByteOrder) (datagram : List UInt8) :
    Option EntityControlInputPayload :=
  match receiveFrom controlInputBufferSize datagram with
  | none => none
  | some buffer =>
      if buffer.length = 0 then none
      else
        match tryDeserializeHeader ⟨buffer, 0⟩ with
        | none => none
        | some (type, reader) =>
            if type ≠ .entityControlInput then none
            else
              (tryDeserializeEntityControlInput host reader).map Prod.fst

namespace TcpControlServer

omit [FloatArith F] in
/-- `SessionManager::GetSession`. -/
def getSession (s : TcpControlServer F) (sessionId : UInt64) : Option Nat :=
  s.sessions.find? fun n => s.sessionId n = sessionId

/-- `ApplyControlInput` on the session of `n`. -/
def applyInput (s : TcpControlServer F) (n : Nat)
    (payload : EntityControlInputPayload) : TcpControlServer F :=
  { s with
    control := Function.update s.control n
      { s.control n with
        session := (s.control n).session.applyControlInput payload.sequenceId
          (ofBits payload.throttle) (ofBits payload.yaw) } }

/-- One iteration of `ReceiveWorker`, on a datagram from `sender`. -/
def receiveControlInput (host : ByteOrder) (s : TcpControlServer F)
    (sender : String × UInt16) (datagram : List UInt8) :
    TcpControlServer F :=
  match decodeControlInput host datagram with
  | none => s
  | some payload =>
      match s.getSession payload.entityId.toUInt64 with
      | none => s
      | some n =>
          match (s.control n).session.tryGetUdpEndpoint with
          | none => s
          | some (registeredIp, registeredPort) =>
              if registeredIp ≠ sender.1 ∨ registeredPort ≠ sender.2 then s
              else s.applyInput n payload

theorem applyInput_step (clientIp : Nat → String) (s : TcpControlServer F)
    (n : Nat) (payload : EntityControlInputPayload) :
    s.step clientIp (.udpThread n (.applyControlInput payload.sequenceId
      (ofBits payload.throttle) (ofBits payload.yaw)))
      = some (s.applyInput n payload) := rfl

/-- A datagram is dropped, or an input of the session it names. -/
theorem receiveControlInput_cases (host : ByteOrder)
    (s : TcpControlServer F) (sender : String × UInt16)
    (datagram : List UInt8) :
    s.receiveControlInput host sender datagram = s
      ∨ ∃ payload n, decodeControlInput host datagram = some payload
        ∧ s.getSession payload.entityId.toUInt64 = some n
        ∧ (s.control n).session.tryGetUdpEndpoint = some sender
        ∧ s.receiveControlInput host sender datagram
          = s.applyInput n payload := by
  unfold receiveControlInput
  split
  · exact Or.inl rfl
  · rename_i payload hpayload
    split
    · exact Or.inl rfl
    · rename_i n hfound
      split
      · exact Or.inl rfl
      · rename_i registeredIp registeredPort hendpoint
        split
        · exact Or.inl rfl
        · rename_i hsender
          obtain ⟨hip, hport⟩ := not_or.mp hsender
          refine Or.inr ⟨payload, n, hpayload, hfound, ?_, rfl⟩
          rw [hendpoint, not_ne_iff.mp hip, not_ne_iff.mp hport]

end TcpControlServer

/-! ## On the wire -/

omit [FloatArith F] in
theorem controlInputPacket_eq (host : ByteOrder)
    (payload : EntityControlInputPayload) :
    controlInputPacket host payload
      = MessageType.entityControlInput.toUInt8
        :: entityControlInputBytes payload := by
  rw [controlInputPacket, serializeEntityControlInput_data]
  rfl

omit [FloatArith F] in
theorem decodeControlInput_packet (host clientHost : ByteOrder)
    (payload : EntityControlInputPayload) :
    decodeControlInput host (controlInputPacket clientHost payload)
      = some payload := by
  have hlen : (controlInputPacket clientHost payload).length = 17 := by
    rw [controlInputPacket_eq]
    simp [entityControlInputBytes]
  obtain ⟨reader, hheader, hremaining⟩ :=
    tryDeserializeHeader_reads .entityControlInput
      ⟨controlInputPacket clientHost payload, 0⟩
      (entityControlInputBytes payload)
      (controlInputPacket_eq clientHost payload)
  obtain ⟨reader', hpayload, -⟩ :=
    tryDeserializeEntityControlInput_reads host payload reader []
      (by rw [hremaining, List.append_nil])
  rw [decodeControlInput, receiveFrom,
    if_pos (by rw [hlen, controlInputBufferSize]; omega)]
  dsimp only
  rw [if_neg (by omega), hheader]
  dsimp only
  rw [if_neg (by simp), hpayload]
  rfl

/-- From its registered endpoint, a client's datagram reaches the session
it names. -/
theorem TcpControlServer.receiveControlInput_packet
    (host clientHost : ByteOrder) {s : TcpControlServer F} {n : Nat}
    {sender : String × UInt16} (input : ControlInput F)
    (hfound : s.getSession input.entityId.toUInt64 = some n)
    (hendpoint : (s.control n).session.tryGetUdpEndpoint = some sender) :
    s.receiveControlInput host sender
        (controlInputPacket clientHost input.payload)
      = s.applyInput n input.payload := by
  rw [receiveControlInput, decodeControlInput_packet]
  have hname : input.payload.entityId = input.entityId := rfl
  dsimp only
  rw [hname, hfound]
  dsimp only
  rw [hendpoint]
  simp

end

end NetworkControl
