import Mathlib.Logic.Function.Basic
import NetworkControl.ControlChannel
import NetworkControl.Lts

/-!
# The threads of TcpControlServer

`Server/TcpControlServer.cpp` as its threads interleave: the caller of
`Stop`, `AcceptWorker`, and a `ControlWorker` for every accepted session,
each at its own place in its own function. A step is one access to
something shared: `isRunning_`, the session map, the worker count, a
socket, or a session's `isControlConnectionClosed_`.

A thread that does not move may be blocked. What a blocked `accept` or
`recv` returns with is up to the action, but once the socket is closed
only a failure is left. A session goes by the number of its `accept`,
which is its key in the map. Both these numbers and the worker count are
unbounded here, where the source has `uint64_t` and `int`: runs of 2^64
connections, or of 2^31 workers at a time, are left out. What the
broadcasts send is in `TcpControlServer`.
-/

namespace NetworkControl

open Endian

/-! ## ProcessOneMessage, cut at ReceiveAll -/

/-- Zero for a message of one byte. -/
def payloadSize : MessageType → Nat
  | .registerUdpPort => registerUdpPortPayloadSize
  | .setRate => setRatePayloadSize
  | .stop => stopPayloadSize
  | _ => 0

section

variable {F : Type} [FloatArith F]

/-- `ProcessOneMessage` behind its last `ReceiveAll`. -/
def handleReceived (clientIp : String) (host : ByteOrder) (c : Control F)
    (type : MessageType) (payloadBytes : List UInt8) : Bool × Control F :=
  if type = .registerUdpPort then
    match parse (tryDeserializeRegisterUdpPort host) payloadBytes with
    | none => (false, c)
    | some payload =>
        let c := registerUdpEndpoint clientIp c payload.port
        if c.isUdpEndpointRegistered then
          (true, c.call .broadcastSpawnsForNewSession c.session)
        else (true, c)
  else if !c.isUdpEndpointRegistered then
    (true, c.call .commandIgnored c.session)
  else
    match type with
    | .setRate =>
        match parse (tryDeserializeSetRate host) payloadBytes with
        | none => (false, c)
        | some payload =>
            (true, c.call (.setRate payload.dataRateHz)
              (c.session.setRate payload.dataRateHz))
    | .stop =>
        match parse (tryDeserializeStop host) payloadBytes with
        | none => (false, c)
        | some payload =>
            let c := c.call (.printClientMetricsSnapshot
              c.session.getSentPacketCount payload) c.session
            (true, c.call .stop c.session.stop)
    | .play => (true, c.call .play c.session.play)
    | .pause => (true, c.call .pause c.session.pause)
    | .reset => (true, c.call .reset c.session.reset)
    | type => (false, c.call (.unexpectedMessageType type) c.session)

/-- The two halves make up `ProcessOneMessage`. -/
theorem processOneMessage_cut (clientIp : String) (host : ByteOrder)
    (c : Control F) (socket : TcpSocket) :
    processOneMessage clientIp host c socket
      = match socket.receiveAll 1 with
        | (none, socket) => (false, c, socket)
        | (some headerByte, socket) =>
            let type := headerType headerByte
            if payloadSize type = 0 then
              let (keep, c) := handleReceived clientIp host c type []
              (keep, c, socket)
            else
              match socket.receiveAll (payloadSize type) with
              | (none, socket) => (false, c, socket)
              | (some payloadBytes, socket) =>
                  let (keep, c) :=
                    handleReceived clientIp host c type payloadBytes
                  (keep, c, socket) := by
  unfold processOneMessage
  rcases socket.receiveAll 1 with ⟨_ | headerByte, socket⟩
  · rfl
  · dsimp only
    generalize headerType headerByte = type
    cases type with
    | registerUdpPort =>
        have hpayload : payloadSize .registerUdpPort ≠ 0 := by decide
        rw [if_pos rfl, if_neg hpayload, payloadSize]
        rcases socket.receiveAll registerUdpPortPayloadSize with
          ⟨_ | payloadBytes, socket⟩
        · rfl
        · simp only [handleReceived, if_true]
          cases parse (tryDeserializeRegisterUdpPort host) payloadBytes with
          | none => rfl
          | some payload =>
              dsimp only
              cases (registerUdpEndpoint clientIp c
                payload.port).isUdpEndpointRegistered <;> rfl
    | setRate =>
        have hpayload : payloadSize .setRate ≠ 0 := by decide
        rw [if_neg (by decide), if_pos rfl, if_neg hpayload, payloadSize]
        rcases socket.receiveAll setRatePayloadSize with
          ⟨_ | payloadBytes, socket⟩
        · rfl
        · simp only [handleReceived]
          cases parse (tryDeserializeSetRate host) payloadBytes with
          | none => cases c.isUdpEndpointRegistered <;> rfl
          | some payload => cases c.isUdpEndpointRegistered <;> rfl
    | stop =>
        have hpayload : payloadSize .stop ≠ 0 := by decide
        rw [if_neg (by decide), if_neg (by decide), if_pos rfl,
          if_neg hpayload, payloadSize]
        rcases socket.receiveAll stopPayloadSize with
          ⟨_ | payloadBytes, socket⟩
        · rfl
        · simp only [handleReceived]
          cases parse (tryDeserializeStop host) payloadBytes with
          | none => cases c.isUdpEndpointRegistered <;> rfl
          | some payload => cases c.isUdpEndpointRegistered <;> rfl
    | _ =>
        simp only [payloadSize, handleReceived]
        cases c.isUdpEndpointRegistered <;> rfl

theorem handleReceived_isControlConnectionClosed (clientIp : String)
    (host : ByteOrder) (c : Control F) (type : MessageType)
    (payloadBytes : List UInt8) :
    (handleReceived clientIp host c type
        payloadBytes).2.session.isControlConnectionClosed
      = c.session.isControlConnectionClosed := by
  unfold handleReceived
  split
  · split
    · rfl
    · unfold registerUdpEndpoint
      split <;> rfl
  · split
    · rfl
    · cases type with
      | setRate =>
          dsimp only
          split
          · rfl
          · rw [Control.call_session, ClientSession.setRate]
            split
            · rfl
            · split <;> rfl
      | stop =>
          dsimp only
          split <;> rfl
      | play =>
          dsimp only
          rw [Control.call_session, ClientSession.play]
          split <;> rfl
      | pause =>
          dsimp only
          rw [Control.call_session, ClientSession.pause]
          split <;> rfl
      | _ => rfl

end

/-! ## The threads -/

/-- Where `Stop` is; `stopping` has the sessions of the snapshot still to
stop, and `closingSocket` is inside `StopSession`. -/
inductive StopPc where
  | idle
  | closing
  | snapshotting
  | stopping (sessions : List Nat)
  | closingSocket (n : Nat) (sessions : List Nat)
  | joining
  | waiting
  | returned
deriving DecidableEq, Repr

/-- Where `AcceptWorker` is, with the session it just made. -/
inductive AcceptPc where
  | testing
  | accepting
  | accepted
  | adding (n : Nat)
  | counting (n : Nat)
  | starting (n : Nat)
  | ended
deriving DecidableEq, Repr

/-- Where a `ControlWorker` is. `testing` is the loop condition's first
half; from `left` on the loop is behind. -/
inductive ControlWorkerPc where
  | absent
  | testing
  | receivingHeader
  | receivingPayload (type : MessageType)
  | registered
  | spawning (sends : List (Nat × Nat))
  | left
  | leaving
  | despawning (recipients : List Nat)
  | removing
  | stopping
  | closing
  | counting
  | done
deriving DecidableEq, Repr

/-- Behind `ReceiveAll`; a registration is broadcast before it returns. -/
def ControlWorkerPc.afterMessage (keep : Bool) (type : MessageType)
    (isUdpEndpointRegistered : Bool) : ControlWorkerPc :=
  if !keep then left
  else if type = .registerUdpPort ∧ isUdpEndpointRegistered then registered
  else testing

/-- `control n` is session `n` and its worker's flag; `socketOpen n` says
that its control socket is open. -/
structure ControlThreads (F : Type) where
  isRunning : Bool
  listenerOpen : Bool
  nextSessionId : Nat
  sessions : List Nat
  activeControlWorkerCount : Int
  control : Nat → Control F
  socketOpen : Nat → Bool
  stop : StopPc
  accept : AcceptPc
  worker : Nat → ControlWorkerPc

/-- `received` is what `ReceiveAll` yields, `order` a snapshot's. -/
inductive ThreadAction where
  | stop
  | stopSnapshot (order : List Nat)
  | accept (connection : Bool)
  | worker (n : Nat)
  | receive (n : Nat) (received : Option (List UInt8))
  | snapshot (n : Nat) (order : List Nat)
deriving DecidableEq, Repr

namespace ControlThreads

section

variable {F : Type}

def setWorker (s : ControlThreads F) (n : Nat) (pc : ControlWorkerPc) :
    ControlThreads F :=
  { s with worker := Function.update s.worker n pc }

def setSession (s : ControlThreads F) (n : Nat) (session : ClientSession F) :
    ControlThreads F :=
  { s with
    control := Function.update s.control n { s.control n with session } }

def closeSocket (s : ControlThreads F) (n : Nat) : ControlThreads F :=
  { s with socketOpen := Function.update s.socketOpen n false }

def controlClosed (s : ControlThreads F) (n : Nat) : Bool :=
  (s.control n).session.isControlConnectionClosed

/-- `Stop`. Only the call that clears the flag gets past its first line. -/
def stopStep (s : ControlThreads F) : Option (ControlThreads F) :=
  match s.stop with
  | .idle => some { s with isRunning := false, stop := .closing }
  | .closing => some { s with listenerOpen := false, stop := .snapshotting }
  | .stopping (n :: rest) =>
      let stopped := (s.control n).session.stopSession
      some { s.setSession n stopped.1 with
        stop := if stopped.2 then .closingSocket n rest else .stopping rest }
  | .stopping [] => some { s with stop := .joining }
  | .closingSocket n rest =>
      some { s.closeSocket n with stop := .stopping rest }
  | .joining =>
      if s.accept = .ended then some { s with stop := .waiting } else none
  | .waiting =>
      if s.activeControlWorkerCount > 0 then some s
      else some { s with stop := .returned }
  | _ => none

/-- `AcceptWorker`; `Accept` yields a socket only while the listener is
open. -/
def acceptStep (s : ControlThreads F) (connection : Bool) :
    Option (ControlThreads F) :=
  match s.accept with
  | .testing =>
      some { s with accept := if s.isRunning then .accepting else .ended }
  | .accepting =>
      if !connection then some { s with accept := .testing }
      else if s.listenerOpen then some { s with accept := .accepted }
      else none
  | .accepted =>
      if !s.isRunning then some { s with accept := .ended }
      else
        let n := s.nextSessionId
        some { s with
          nextSessionId := n + 1
          socketOpen := Function.update s.socketOpen n true
          accept := .adding n }
  | .adding n =>
      some { s with sessions := s.sessions ++ [n], accept := .counting n }
  | .counting n =>
      some { s with
        activeControlWorkerCount := s.activeControlWorkerCount + 1
        accept := .starting n }
  | .starting n => some { s.setWorker n .testing with accept := .testing }
  | .ended => none

/-- `ControlWorker`, but for its `ReceiveAll` calls and its snapshots. -/
def workerStep (s : ControlThreads F) (n : Nat) : Option (ControlThreads F) :=
  match s.worker n with
  | .testing =>
      some (s.setWorker n (if s.isRunning then .receivingHeader else .left))
  | .spawning (_ :: sends) => some (s.setWorker n (.spawning sends))
  | .spawning [] => some (s.setWorker n .testing)
  | .left =>
      some (s.setWorker n
        (if (s.control n).isUdpEndpointRegistered then .leaving
        else .removing))
  | .despawning (_ :: recipients) =>
      some (s.setWorker n (.despawning recipients))
  | .despawning [] => some (s.setWorker n .removing)
  | .removing =>
      if n ∈ s.sessions then
        some { s.setWorker n .stopping with
          sessions := s.sessions.filter (· ≠ n) }
      else some (s.setWorker n .counting)
  | .stopping =>
      let stopped := (s.control n).session.stopSession
      some ((s.setSession n stopped.1).setWorker n
        (if stopped.2 then .closing else .counting))
  | .closing => some ((s.closeSocket n).setWorker n .counting)
  | .counting =>
      some { s.setWorker n .done with
        activeControlWorkerCount := s.activeControlWorkerCount - 1 }
  | _ => none

/-- The worker's two snapshots: what its broadcast will send. -/
def workerSnapshot (s : ControlThreads F) (n : Nat) (order : List Nat) :
    Option (ControlThreads F) :=
  let others := order.filter (· ≠ n)
  match s.worker n with
  | .registered =>
      some (s.setWorker n (.spawning ((n, n)
        :: (others.map (fun other => (n, other))
          ++ others.map fun other => (other, n)))))
  | .leaving => some (s.setWorker n (.despawning others))
  | _ => none

variable [FloatArith F] (clientIp : Nat → String) (host : ByteOrder)

def handle (s : ControlThreads F) (n : Nat) (type : MessageType)
    (payloadBytes : List UInt8) : ControlThreads F :=
  let (keep, control) :=
    handleReceived (clientIp n) host (s.control n) type payloadBytes
  { s with
    control := Function.update s.control n control
    worker := Function.update s.worker n
      (.afterMessage keep type control.isUdpEndpointRegistered) }

/-- What `ReceiveAll` returns: data only from an open socket. -/
def receive (s : ControlThreads F) (n : Nat) (received : Option (List UInt8)) :
    Option (ControlThreads F) :=
  match s.worker n, received with
  | .receivingHeader, none => some (s.setWorker n .left)
  | .receivingPayload _, none => some (s.setWorker n .left)
  | .receivingHeader, some headerByte =>
      if s.socketOpen n ∧ headerByte.length = 1 then
        let type := headerType headerByte
        if payloadSize type = 0 then some (s.handle clientIp host n type [])
        else some (s.setWorker n (.receivingPayload type))
      else none
  | .receivingPayload type, some payloadBytes =>
      if s.socketOpen n ∧ payloadBytes.length = payloadSize type then
        some (s.handle clientIp host n type payloadBytes)
      else none
  | _, _ => none

def step (s : ControlThreads F) :
    ThreadAction → Option (ControlThreads F)
  | .stop => s.stopStep
  | .stopSnapshot order =>
      if s.stop = .snapshotting ∧ order.Perm s.sessions then
        some { s with stop := .stopping order }
      else none
  | .accept connection => s.acceptStep connection
  | .worker n => s.workerStep n
  | .receive n received => s.receive clientIp host n received
  | .snapshot n order =>
      if order.Perm s.sessions then s.workerSnapshot n order else none

/-- Right after `Start`. -/
def started : ControlThreads F where
  isRunning := true
  listenerOpen := true
  nextSessionId := 1
  sessions := []
  activeControlWorkerCount := 0
  control n := { session := .new (UInt64.ofNat n) }
  socketOpen _ := false
  stop := .idle
  accept := .testing
  worker _ := .absent

def system : Lts (ControlThreads F) ThreadAction where
  init s := s = started
  step := step clientIp host

end

end ControlThreads

end NetworkControl
