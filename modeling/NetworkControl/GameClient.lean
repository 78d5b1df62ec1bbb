import NetworkControl.EntityChannel
import NetworkControl.UdpReceiver

/-!
# GameClient

`ClientCore/GameClient.cpp`: connecting, tearing down, the watchdog, and
the five commands. What the operating system answers is an argument: the
step of `ConnectLocked` that fails, whether `SendAll` succeeds, whether
the retry time has come.

A command is split as its source is, into the part before the send and
the part after it (`Command`), since other threads run in between; a
whole successful command is `Command.run`.
-/

namespace NetworkControl

inductive ConnectionState where
  | disconnected
  | connected
  | reconnecting
deriving DecidableEq, Repr

structure ClientConfig where
  host : String := "127.0.0.1"
  tcpPort : UInt16 := 5000
  udpPort : UInt16 := 6000
  serverUdpPort : UInt16 := 6500
deriving DecidableEq, Repr

structure GameClient where
  entityWorld : EntityWorld := {}
  udpReceiver : UdpReceiver := {}
  tcpSocketOpen : Bool := false
  tcpMessageReceiver : Option ReceiverThread := none
  connectionState : ConnectionState := .disconnected
  lastConfig : ClientConfig := {}
  isWatchdogRunning : Bool := false

/-! ## Connecting -/

/-- The places where `ConnectLocked` can fail. -/
inductive ConnectStep where
  | udpStart
  | tcpEndpoint
  | udpEndpoint
  | tcpCreate
  | tcpConnect
  | registerSend
deriving DecidableEq, Repr

namespace GameClient

def isConnected (c : GameClient) : Bool := c.connectionState = .connected

/-- Stopping the receiver also closes the socket it reads. -/
def teardownConnectionLocked (c : GameClient) : GameClient :=
  { c with
    tcpMessageReceiver := none
    udpReceiver := c.udpReceiver.stop
    tcpSocketOpen := false }

/-- `fails` is the step that fails. Replacing an old receiver would run
its destructor, which closes the socket. -/
def connectLocked (c : GameClient) (fails : Option ConnectStep) :
    Bool × GameClient :=
  let (started, udpReceiver) := c.udpReceiver.start (fails ≠ some .udpStart)
  let c := { c with udpReceiver }
  if !started then (false, c)
  else if fails = some .tcpEndpoint ∨ fails = some .udpEndpoint then (false, c)
  else if fails = some .tcpCreate then (false, { c with tcpSocketOpen := false })
  else if fails = some .tcpConnect ∨ fails = some .registerSend then
    (false, { c with tcpSocketOpen := true })
  else
    (true, { c with
      entityWorld := c.entityWorld.clear
      tcpSocketOpen := c.tcpMessageReceiver.isNone
      tcpMessageReceiver := some {}
      connectionState := .connected })

def connect (c : GameClient) (config : ClientConfig)
    (fails : Option ConnectStep) : Bool × GameClient :=
  let c :=
    if c.connectionState ≠ .disconnected then c.teardownConnectionLocked
    else c
  let (connected, c) := c.connectLocked fails
  if connected then
    (true, { c with lastConfig := config, isWatchdogRunning := true })
  else (false, c)

def disconnect (c : GameClient) : GameClient :=
  let c := { c with isWatchdogRunning := false }
  { c.teardownConnectionLocked with connectionState := .disconnected }

/-- One iteration of `WatchdogWorker`, after its sleep. -/
def watchdogIteration (c : GameClient) (retryTimeReached : Bool)
    (fails : Option ConnectStep) : GameClient :=
  if !c.isWatchdogRunning then c
  else
    match c.connectionState with
    | .connected =>
        match c.tcpMessageReceiver with
        | some receiver =>
            if receiver.hasFailedUnexpectedly then
              { c.teardownConnectionLocked with
                connectionState := .reconnecting }
            else c
        | none => c
    | .reconnecting =>
        if retryTimeReached then (c.connectLocked fails).2 else c
    | .disconnected => c

end GameClient

namespace GameClient

/-! What connecting does to the parts the rest looks at. -/

section

variable (c : GameClient) (retryTimeReached : Bool)

/-- The client's side of the rate. -/
def expectedDataRate : DataRate :=
  c.udpReceiver.metricsCollector.expectedDataRate

theorem isConnected_iff {c : GameClient} :
    c.isConnected = true ↔ c.connectionState = .connected :=
  decide_eq_true_iff

theorem connectLocked_connectionState (fails : Option ConnectStep) :
    (c.connectLocked fails).2.connectionState
      = if fails = none then .connected else c.connectionState := by
  cases fails with
  | none => rfl
  | some step => cases step <;> rfl

@[simp] theorem connectLocked_expectedDataRate (fails : Option ConnectStep) :
    (c.connectLocked fails).2.expectedDataRate = c.expectedDataRate := by
  cases fails with
  | none => rfl
  | some step => cases step <;> rfl

@[simp] theorem connectLocked_lastConfig (fails : Option ConnectStep) :
    (c.connectLocked fails).2.lastConfig = c.lastConfig := by
  cases fails with
  | none => rfl
  | some step => cases step <;> rfl

/-- What an iteration of the watchdog can do. -/
theorem watchdogIteration_cases (fails : Option ConnectStep) :
    c.watchdogIteration retryTimeReached fails = c
      ∨ (c.connectionState = .connected
        ∧ c.watchdogIteration retryTimeReached fails
          = { c.teardownConnectionLocked with
              connectionState := .reconnecting })
      ∨ (c.connectionState = .reconnecting ∧ retryTimeReached = true
        ∧ c.watchdogIteration retryTimeReached fails
          = (c.connectLocked fails).2) := by
  rw [watchdogIteration]
  split
  · exact Or.inl rfl
  · split
    · rename_i hstate
      split
      · split
        · exact Or.inr (Or.inl ⟨hstate, rfl⟩)
        · exact Or.inl rfl
      · exact Or.inl rfl
    · rename_i hstate
      split
      · rename_i hretry
        exact Or.inr (Or.inr ⟨hstate, hretry, rfl⟩)
      · exact Or.inl rfl
    · exact Or.inl rfl

end

end GameClient

/-! ## Commands -/

inductive Command where
  | play
  | pause
  | stop
  | reset
  | setRate (dataRate : DataRate)
deriving DecidableEq, Repr

namespace Command

/-- What a command does locally before it sends: only `Stop` does. -/
def prepare (r : UdpReceiver) : Command → UdpReceiver
  | .stop => r.onStop
  | _ => r

/-- What it sends; `encodeDouble` is the bit pattern of a `double`. -/
def message (encodeDouble : ℚ → DoubleBits) (r : UdpReceiver)
    (now : TimePoint) : Command → ClientMessage
  | .play => .play
  | .pause => .pause
  | .stop => .stop ((r.getMetrics now).map UInt64.ofNat encodeDouble)
  | .reset => .reset
  | .setRate dataRate => .setRate dataRate.toUInt32

/-- What it does locally after the send succeeded. -/
def finish (r : UdpReceiver) (now : TimePoint) : Command → UdpReceiver
  | .play => r.onPlay now
  | .pause => r.onPause now
  | .stop => r.resetMetrics
  | .reset => r.resetMetrics
  | .setRate dataRate => r.setExpectedDataRate dataRate

/-- `GameClient::Play` and so on, with the answer of `SendAll`. -/
def run (c : GameClient) (command : Command) (sendOk : Bool)
    (now : TimePoint) : Bool × GameClient :=
  if !c.isConnected then (false, c)
  else
    let prepared := command.prepare c.udpReceiver
    if !sendOk then (false, { c with udpReceiver := prepared })
    else (true, { c with udpReceiver := command.finish prepared now })

/-- The rate a command sets. -/
def rate : Command → Option DataRate
  | .setRate dataRate => some dataRate
  | _ => none

theorem run_expectedDataRate (c : GameClient) (command : Command)
    (now : TimePoint) (h : c.isConnected = true) :
    (command.run c true now).2.expectedDataRate
      = command.rate.getD c.expectedDataRate := by
  cases command <;>
    simp [run, h, finish, prepare, rate, GameClient.expectedDataRate,
      UdpReceiver.onPlay, UdpReceiver.onPause, UdpReceiver.onStop,
      UdpReceiver.resetMetrics, UdpReceiver.setExpectedDataRate]

/-- A command whose message is sent. -/
theorem run_sent {c : GameClient} (h : c.isConnected = true)
    (command : Command) (now : TimePoint) :
    command.run c true now
      = (true, { c with
          udpReceiver :=
            command.finish (command.prepare c.udpReceiver) now }) := by
  rw [run]
  simp [h]

/-- Commands number no control input. -/
theorem finish_prepare_nextControlInputSequenceId (command : Command)
    (r : UdpReceiver) (now : TimePoint) :
    (command.finish (command.prepare r) now).nextControlInputSequenceId
      = r.nextControlInputSequenceId := by
  cases command <;> rfl

/-- Nothing but the receiver changes. -/
theorem run_receiver (c : GameClient) (command : Command) (sendOk : Bool)
    (now : TimePoint) : ∃ udpReceiver,
    (command.run c sendOk now).2 = { c with udpReceiver } := by
  rw [run]
  split
  · exact ⟨c.udpReceiver, rfl⟩
  · dsimp only
    split
    · exact ⟨_, rfl⟩
    · exact ⟨_, rfl⟩

end Command

/-- What the server makes of a command: nothing before registration, and
its rate if it has one afterwards. -/
theorem handleMessage_command {F : Type} [FloatArith F] (clientIp : String)
    (encodeDouble : ℚ → DoubleBits) (r : UdpReceiver) (now : TimePoint)
    (c : Control F) (command : Command) :
    (handleMessage clientIp c
        (command.message encodeDouble r now)).isUdpEndpointRegistered
      = c.isUdpEndpointRegistered
    ∧ (handleMessage clientIp c
        (command.message encodeDouble r now)).session.dataRate
      = if c.isUdpEndpointRegistered then
          command.rate.getD c.session.dataRate
        else c.session.dataRate := by
  cases hflag : c.isUdpEndpointRegistered <;> cases command <;>
    simp [handleMessage, Control.command, Command.message, Command.rate, hflag]

namespace GameClient

def play (c : GameClient) (sendOk : Bool) (now : TimePoint) :
    Bool × GameClient :=
  Command.play.run c sendOk now

def pause (c : GameClient) (sendOk : Bool) (now : TimePoint) :
    Bool × GameClient :=
  Command.pause.run c sendOk now

def stop (c : GameClient) (sendOk : Bool) (now : TimePoint) :
    Bool × GameClient :=
  Command.stop.run c sendOk now

def reset (c : GameClient) (sendOk : Bool) (now : TimePoint) :
    Bool × GameClient :=
  Command.reset.run c sendOk now

def setRate (c : GameClient) (dataRate : DataRate) (sendOk : Bool)
    (now : TimePoint) : Bool × GameClient :=
  (Command.setRate dataRate).run c sendOk now

end GameClient

end NetworkControl
