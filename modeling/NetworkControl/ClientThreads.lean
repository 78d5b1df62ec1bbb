import NetworkControl.GameClient
import NetworkControl.Lts

/-!
# The threads of GameClient

`ClientCore/GameClient.cpp`, `TcpMessageReceiver.cpp` and
`UdpReceiver.cpp` as their threads interleave: the caller of `Connect` and
`Disconnect`, `WatchdogWorker`, and the two `ReceiveWorker`s. There is one
caller, which waits for each call to return. A step is one access to
something shared: a flag, a socket, a thread to join or to start,
`connectionMutex_`.

What runs under the mutex is a list of statements still to be done
(`LockedStatement`), since `ConnectLocked` and `TeardownConnectionLocked`
are entered from several places. A failing step of `ConnectLocked` skips
the rest of the list, which is a return through all of them.

A `std::thread` that is assigned to or destroyed while it is joinable
calls `std::terminate`; `terminated` says that this has happened. A
blocking call on the network returns with what the action says, except
that a `recv` on a closed socket can only fail. What the workers do with
messages is in `EntityChannel` and `UdpReceiver`.
-/

namespace NetworkControl

/-! ## Places -/

/-- `TcpMessageReceiver::ReceiveWorker`. `failing` is behind a failed
`ReceiveAll` or an unexpected type, before the test of `isRunning_`. -/
inductive TcpWorkerPc where
  | absent
  | testing
  | receiving
  | failing
  | ended
deriving DecidableEq, Repr

def TcpWorkerPc.isAlive : TcpWorkerPc → Bool
  | testing => true
  | receiving => true
  | failing => true
  | _ => false

/-- `UdpReceiver::ReceiveWorker`. -/
inductive UdpWorkerPc where
  | absent
  | testing
  | receiving
  | ended
deriving DecidableEq, Repr

def UdpWorkerPc.isAlive : UdpWorkerPc → Bool
  | testing => true
  | receiving => true
  | _ => false

/-- The statements under `connectionMutex_`. -/
inductive LockedStatement where
  | stopReceiver
  | closeTcpSocket
  | joinReceiver
  | destroyReceiver
  | stopUdp
  | joinUdp
  | closeUdpSocket
  | attempt (step : ConnectStep)
  | startUdp
  | makeReceiver
  | startReceiver
  | setState (state : ConnectionState)
  | saveConfig (config : ClientConfig)
  | startWatchdog
deriving DecidableEq, Repr

/-- `WatchdogWorker`: the loop condition, the sleep and the test behind
it, the mutex, what it reads first under it, and what it does then. -/
inductive WatchdogPc where
  | absent
  | testing
  | sleeping
  | locking
  | inspecting
  | holding (work : List LockedStatement)
  | ended
deriving DecidableEq, Repr

def WatchdogPc.isAlive : WatchdogPc → Bool
  | absent => false
  | ended => false
  | _ => true

/-- The caller; `joining` is behind the clearing of `isWatchdogRunning_`
in `Disconnect`. -/
inductive CallerPc where
  | idle
  | connectLocking (config : ClientConfig)
  | connecting (work : List LockedStatement)
  | joining
  | disconnectLocking
  | disconnecting (work : List LockedStatement)
deriving DecidableEq, Repr

inductive MutexHolder where
  | caller
  | watchdog
deriving DecidableEq, Repr

/-! ## The members -/

/-- `*tcpMessageReceiver_`, with its thread. -/
structure ReceiverMember where
  isRunning : Bool := false
  hasFailedUnexpectedly : Bool := false
  worker : TcpWorkerPc := .absent
deriving DecidableEq, Repr

namespace ReceiverMember

/-- Where `ReceiveWorker` goes by itself. A `recv` that nobody answers
returns only if the socket is closed. -/
def next (r : ReceiverMember) (tcpSocketOpen : Bool) :
    Option ReceiverMember :=
  match r.worker with
  | .testing =>
      some { r with worker := if r.isRunning then .receiving else .ended }
  | .receiving =>
      if tcpSocketOpen then none else some { r with worker := .failing }
  | .failing =>
      some { r with
        hasFailedUnexpectedly := r.hasFailedUnexpectedly || r.isRunning
        worker := .ended }
  | .absent => none
  | .ended => none

/-- The server's part: a message, or the end of the connection. -/
def receive (handled : Bool) (r : ReceiverMember) (tcpSocketOpen : Bool) :
    Option ReceiverMember :=
  if r.worker = .receiving ∧ tcpSocketOpen = true then
    some { r with worker := if handled then .testing else .failing }
  else none

end ReceiverMember

structure ClientThreads where
  connectionState : ConnectionState := .disconnected
  lastConfig : ClientConfig := {}
  isWatchdogRunning : Bool := false
  tcpSocketOpen : Bool := false
  tcpMessageReceiver : Option ReceiverMember := none
  udpSocketOpen : Bool := false
  udpIsRunning : Bool := false
  udpWorker : UdpWorkerPc := .absent
  watchdog : WatchdogPc := .absent
  caller : CallerPc := .idle
  connectionMutex : Option MutexHolder := none
  terminated : Bool := false
deriving DecidableEq, Repr

namespace ClientThreads

open LockedStatement

/-! ## The functions called under the mutex -/

/-- `TcpMessageReceiver::Stop`, also its destructor. -/
def receiverStop : List LockedStatement :=
  [stopReceiver, closeTcpSocket, joinReceiver]

/-- `tcpMessageReceiver_.reset()`. -/
def receiverReset : List LockedStatement :=
  receiverStop ++ [destroyReceiver]

/-- `UdpReceiver::Stop`. -/
def udpStop : List LockedStatement := [stopUdp, joinUdp, closeUdpSocket]

/-- `UdpReceiver::Start`. -/
def udpStart : List LockedStatement :=
  udpStop ++ [attempt .udpStart, startUdp]

def teardownConnectionLocked (s : ClientThreads) : List LockedStatement :=
  (if s.tcpMessageReceiver.isSome then receiverStop ++ receiverReset else [])
    ++ udpStop ++ [closeTcpSocket]

def connectLocked : List LockedStatement :=
  udpStart
    ++ [attempt .tcpEndpoint, attempt .udpEndpoint, attempt .tcpCreate,
      attempt .tcpConnect, attempt .registerSend, makeReceiver,
      startReceiver, setState .connected]

def connect (s : ClientThreads) (config : ClientConfig) :
    List LockedStatement :=
  (if s.connectionState ≠ .disconnected then s.teardownConnectionLocked
    else [])
    ++ connectLocked ++ [saveConfig config, startWatchdog]

def disconnect (s : ClientThreads) : List LockedStatement :=
  s.teardownConnectionLocked ++ [setState .disconnected]

/-- What the watchdog decides to do. -/
def watchdogIteration (s : ClientThreads) (retryTimeReached : Bool) :
    List LockedStatement :=
  match s.connectionState with
  | .connected =>
      match s.tcpMessageReceiver with
      | some receiver =>
          if receiver.hasFailedUnexpectedly then
            s.teardownConnectionLocked ++ [setState .reconnecting]
          else []
      | none => []
  | .reconnecting => if retryTimeReached then connectLocked else []
  | .disconnected => []

/-! ## Steps -/

def modifyReceiver (s : ClientThreads)
    (f : ReceiverMember → ReceiverMember) : ClientThreads :=
  { s with tcpMessageReceiver := s.tcpMessageReceiver.map f }

/-- A step of `ConnectLocked` that can fail. `Create` closes the socket
before it opens another, and a failing `Start` closes its own. -/
def attempted (s : ClientThreads) (fails : Bool) : ConnectStep → ClientThreads
  | .udpStart => { s with udpSocketOpen := !fails }
  | .tcpCreate => { s with tcpSocketOpen := !fails }
  | _ => s

/-- One statement and what is to be done behind it. -/
def perform (s : ClientThreads) (fails : Bool) (rest : List LockedStatement) :
    LockedStatement → Option (ClientThreads × List LockedStatement)
  | stopReceiver =>
      some (s.modifyReceiver fun r => { r with isRunning := false }, rest)
  | closeTcpSocket => some ({ s with tcpSocketOpen := false }, rest)
  | joinReceiver =>
      if s.tcpMessageReceiver.any (·.worker.isAlive) then none
      else some (s.modifyReceiver fun r => { r with worker := .absent }, rest)
  | destroyReceiver =>
      some ({ s with
        tcpMessageReceiver := none
        terminated := s.terminated
          || s.tcpMessageReceiver.any (·.worker ≠ .absent) }, rest)
  | stopUdp => some ({ s with udpIsRunning := false }, rest)
  | joinUdp =>
      if s.udpWorker.isAlive then none
      else some ({ s with udpWorker := .absent }, rest)
  | closeUdpSocket => some ({ s with udpSocketOpen := false }, rest)
  | attempt step =>
      some (s.attempted fails step, if fails then [] else rest)
  | startUdp =>
      some ({ s with
        udpIsRunning := true
        udpWorker := .testing
        terminated := s.terminated || s.udpWorker ≠ .absent }, rest)
  | makeReceiver =>
      if s.tcpMessageReceiver.isSome then
        some (s, receiverReset ++ makeReceiver :: rest)
      else some ({ s with tcpMessageReceiver := some {} }, rest)
  | startReceiver =>
      some ({ s.modifyReceiver (fun r =>
          { r with isRunning := true, worker := .testing }) with
        terminated := s.terminated
          || s.tcpMessageReceiver.any (·.worker ≠ .absent) }, rest)
  | setState state => some ({ s with connectionState := state }, rest)
  | saveConfig config => some ({ s with lastConfig := config }, rest)
  | startWatchdog =>
      if s.isWatchdogRunning then some (s, rest)
      else
        some ({ s with
          isWatchdogRunning := true
          watchdog := .testing
          terminated := s.terminated || s.watchdog ≠ .absent }, rest)

/-- `received` is a message handled, or the end of the connection; a
worker's other steps need nobody else. -/
inductive Action where
  | connect (config : ClientConfig)
  | disconnect
  | caller (fails : Bool)
  | watchdog (retryTimeReached fails : Bool)
  | tcpWorker
  | received (handled : Bool)
  | udpWorker
deriving DecidableEq, Repr

def callerStep (s : ClientThreads) (fails : Bool) : Option ClientThreads :=
  match s.caller with
  | .idle => none
  | .connectLocking config =>
      if s.connectionMutex = none then
        some { s with
          connectionMutex := some .caller
          caller := .connecting (s.connect config) }
      else none
  | .connecting (statement :: rest) =>
      (s.perform fails rest statement).map fun (t, work) =>
        { t with caller := .connecting work }
  | .connecting [] =>
      some { s with connectionMutex := none, caller := .idle }
  | .joining =>
      if s.watchdog.isAlive then none
      else some { s with watchdog := .absent, caller := .disconnectLocking }
  | .disconnectLocking =>
      if s.connectionMutex = none then
        some { s with
          connectionMutex := some .caller
          caller := .disconnecting s.disconnect }
      else none
  | .disconnecting (statement :: rest) =>
      (s.perform fails rest statement).map fun (t, work) =>
        { t with caller := .disconnecting work }
  | .disconnecting [] =>
      some { s with connectionMutex := none, caller := .idle }

def watchdogStep (s : ClientThreads) (retryTimeReached fails : Bool) :
    Option ClientThreads :=
  match s.watchdog with
  | .testing =>
      some { s with
        watchdog := if s.isWatchdogRunning then .sleeping else .ended }
  | .sleeping =>
      some { s with
        watchdog := if s.isWatchdogRunning then .locking else .ended }
  | .locking =>
      if s.connectionMutex = none then
        some { s with
          connectionMutex := some .watchdog
          watchdog := .inspecting }
      else none
  | .inspecting =>
      some { s with
        watchdog := .holding (s.watchdogIteration retryTimeReached) }
  | .holding (statement :: rest) =>
      (s.perform fails rest statement).map fun (t, work) =>
        { t with watchdog := .holding work }
  | .holding [] =>
      some { s with connectionMutex := none, watchdog := .testing }
  | .absent => none
  | .ended => none

/-- `ReceiveFrom` returns after 100 ms at the latest. -/
def udpWorkerStep (s : ClientThreads) : Option ClientThreads :=
  match s.udpWorker with
  | .testing =>
      some { s with
        udpWorker := if s.udpIsRunning then .receiving else .ended }
  | .receiving => some { s with udpWorker := .testing }
  | .absent => none
  | .ended => none

def receiverStep (s : ClientThreads)
    (next : ReceiverMember → Bool → Option ReceiverMember) :
    Option ClientThreads :=
  match s.tcpMessageReceiver with
  | none => none
  | some receiver =>
      (next receiver s.tcpSocketOpen).map fun receiver =>
        { s with tcpMessageReceiver := some receiver }

/-- Nothing moves after `std::terminate`. -/
def step (s : ClientThreads) (a : Action) : Option ClientThreads :=
  if s.terminated then none
  else
    match a with
    | .connect config =>
        if s.caller = .idle then
          some { s with caller := .connectLocking config }
        else none
    | .disconnect =>
        if s.caller = .idle then
          some { s with isWatchdogRunning := false, caller := .joining }
        else none
    | .caller fails => s.callerStep fails
    | .watchdog retryTimeReached fails =>
        s.watchdogStep retryTimeReached fails
    | .tcpWorker => s.receiverStep ReceiverMember.next
    | .received handled => s.receiverStep (ReceiverMember.receive handled)
    | .udpWorker => s.udpWorkerStep

def system : Lts ClientThreads Action where
  init s := s = {}
  step := step

end ClientThreads

end NetworkControl
