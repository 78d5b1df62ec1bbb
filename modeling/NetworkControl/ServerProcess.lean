import NetworkControl.ShutdownProgress
import NetworkControl.SocketOwnership

/-!
# The server process

`Server/Main.cpp` with the three services it owns: `UdpStreamingService`
and `UdpControlInputReceiver`, each with one thread, and
`TcpControlServer`, whose threads are those of `ControlThreads`. `main`
starts the services one after another, returns early when one does not
start, and otherwise stops them when the console is done; the destructors
stop them again.

A `Start` is one step: until it starts the thread nobody else has the
service's members. Sessions are held by `shared_ptr`, so their sockets
stay where they are until the last holder is gone. A `Close` is one step
too, and so are the calls of a `ReceiveAll` or a `SendAll`; `ServerRaces`
takes apart what others can see of it. A `ControlWorker` ends here when it
has lowered the count; behind that it only releases its `shared_ptr`.
-/

namespace NetworkControl

/-! ## Places -/

/-- Where the server has its socket objects: the three services' members,
`AcceptWorker`'s `acceptedSocket`, and `controlSocket_` of a session. -/
inductive SocketOwner where
  | streaming
  | controlInput
  | listener
  | accepted
  | session (n : Nat)
deriving DecidableEq, Repr

/-- Where `main` is. Behind `return` the destructors run; what is both
called by `main` and by a destructor has `leaving` to tell them apart. -/
inductive MainPc where
  | startingUp
  | constructing
  | startingStreaming
  | startingControlInput
  | startingControl
  | reading
  | stoppingControl (leaving : Bool)
  | destroyingControl
  | clearingControlInput (leaving : Bool)
  | joiningControlInput (leaving : Bool)
  | closingControlInput (leaving : Bool)
  | destroyingControlInput
  | exchangingStreaming (leaving : Bool)
  | joiningStreaming (leaving : Bool)
  | closingStreaming (leaving : Bool)
  | destroyingStreaming
  | closingAll
  | cleaningUp
  | returned
deriving DecidableEq, Repr

/-- Behind `UdpStreamingService::Stop`. -/
def MainPc.afterStreaming (leaving : Bool) : MainPc :=
  if leaving then destroyingStreaming else stoppingControl true

/-- Where a service's thread is; `absent` is a `std::thread` that cannot be
joined. -/
inductive ServiceWorkerPc where
  | absent
  | testing
  | working
  | ended
deriving DecidableEq, Repr

structure Service where
  isRunning : Bool
  worker : ServiceWorkerPc
deriving DecidableEq, Repr

namespace Service

def idle : Service where
  isRunning := false
  worker := .absent

def started : Service where
  isRunning := true
  worker := .testing

/-- `if (workerThread_.joinable()) workerThread_.join();` -/
def join (s : Service) : Option Service :=
  match s.worker with
  | .absent => some s
  | .ended => some { s with worker := .absent }
  | _ => none

end Service

namespace ControlThreads

variable {F : Type} [FloatArith F]

/-- Before `Start`. -/
def constructed : ControlThreads F :=
  { started with isRunning := false, listenerOpen := false, accept := .ended }

/-- `CloseAll` stops the sessions of the map, which it empties. -/
def stopOne (s : ControlThreads F × SocketHeap SocketOwner) (n : Nat) :
    ControlThreads F × SocketHeap SocketOwner :=
  let stopped := (s.1.control n).session.stopSession
  if stopped.2 then
    ((s.1.setSession n stopped.1).closeSocket n, s.2.close (.session n))
  else (s.1.setSession n stopped.1, s.2)

def closeAll (s : ControlThreads F) (sockets : SocketHeap SocketOwner) :
    ControlThreads F × SocketHeap SocketOwner :=
  s.sessions.foldl stopOne ({ s with sessions := [] }, sockets)

/-- What a step of these threads does with the sockets; `result` is what
`accept` returns, and a transfer takes so many `pieces`. -/
def socketsAfter (s : ControlThreads F) (sockets : SocketHeap SocketOwner)
    (result : Socket) (pieces : Nat) : ThreadAction → SocketHeap SocketOwner
  | .stop =>
      match s.stop with
      | .closing => sockets.close .listener
      | .closingSocket n _ => sockets.close (.session n)
      | _ => sockets
  | .accept _ =>
      match s.accept with
      | .accepting =>
          let sockets := sockets.accept .listener .accepted result
          if sockets.isValid .accepted then sockets
          else sockets.destroy .accepted
      | .accepted =>
          if s.isRunning then
            sockets.moveConstruct (.session s.nextSessionId) .accepted
          else (sockets.close .accepted).destroy .accepted
      | .starting _ => sockets.destroy .accepted
      | _ => sockets
  | .worker n =>
      match s.worker n with
      | .closing => sockets.close (.session n)
      | .spawning ((recipient, _) :: _) =>
          sockets.sendAll (.session recipient) pieces
      | .despawning (recipient :: _) =>
          sockets.sendAll (.session recipient) pieces
      | _ => sockets
  | .receive n _ => sockets.receiveAll (.session n) pieces
  | .stopSnapshot _ => sockets
  | .snapshot _ _ => sockets

/-- What `accept` may return. -/
def Accepts (s : ControlThreads F) (sockets : SocketHeap SocketOwner)
    (result : Socket) : ThreadAction → Prop
  | .accept connection =>
      s.accept = .accepting → sockets.Returns result
        ∧ (sockets.isValid .listener = false → result = invalidSocket)
        ∧ (connection = true ↔ result ≠ invalidSocket)
  | _ => True

instance (s : ControlThreads F) (sockets : SocketHeap SocketOwner)
    (result : Socket) (a : ThreadAction) :
    Decidable (s.Accepts sockets result a) :=
  match a with
  | .accept _ => inferInstanceAs (Decidable (_ → _))
  | .stop => inferInstanceAs (Decidable True)
  | .stopSnapshot _ => inferInstanceAs (Decidable True)
  | .worker _ => inferInstanceAs (Decidable True)
  | .receive _ _ => inferInstanceAs (Decidable True)
  | .snapshot _ _ => inferInstanceAs (Decidable True)

end ControlThreads

/-! ## The process -/

structure ServerProcess (F : Type) where
  main : MainPc
  sockets : SocketHeap SocketOwner
  streaming : Service
  controlInput : Service
  control : ControlThreads F

/-- What the calls of one step of `main` return: the handle of `socket`,
and whether the calls behind it succeed. -/
structure CallResults where
  handle : Socket
  first : Bool
  second : Bool
deriving DecidableEq, Repr

inductive ProcessAction where
  | main (results : CallResults)
  | control (a : ThreadAction) (result : Socket) (pieces : Nat)
  | streaming (datagrams : Nat)
  | controlInput
deriving DecidableEq, Repr

/-- `UdpControlInputReceiver::Start`, up to the thread. -/
def UdpControlInputReceiver.start (s : SocketHeap SocketOwner)
    (r : CallResults) : Bool × SocketHeap SocketOwner :=
  let s := s.create .controlInput r.handle
  if !s.isValid .controlInput then (false, s.close .controlInput)
  else
    let s := s.bind .controlInput
    if !r.first then (false, s.close .controlInput)
    else
      let s := s.setReceiveTimeout .controlInput
      if !r.second then (false, s.close .controlInput) else (true, s)

/-- `TcpControlServer::Start`, up to the thread; a failure leaves the
socket open. -/
def TcpControlServer.startListener (s : SocketHeap SocketOwner)
    (r : CallResults) : Bool × SocketHeap SocketOwner :=
  let s := s.create .listener r.handle
  if !s.isValid .listener then (false, s)
  else
    let s := s.bind .listener
    if !r.first then (false, s) else (r.second, s.listen .listener)

namespace ServerProcess

variable {F : Type} [FloatArith F]

/-- A step of `main` or of a destructor; inside `TcpControlServer::Stop` the
steps are those of `control`. -/
def mainStep (s : ServerProcess F) (r : CallResults) :
    Option (ServerProcess F) :=
  match s.main with
  | .startingUp =>
      if r.first then
        some { s with
          sockets := s.sockets.made [.wsaStartup]
          main := .constructing }
      else some { s with main := .returned }
  | .constructing =>
      some { s with
        sockets := ((s.sockets.construct .streaming .datagram).construct
          .controlInput .datagram).construct .listener .stream
        main := .startingStreaming }
  | .startingStreaming =>
      if (s.sockets.close .streaming).Returns r.handle then
        let sockets := s.sockets.create .streaming r.handle
        if sockets.isValid .streaming then
          some { s with
            sockets
            streaming := .started
            main := .startingControlInput }
        else some { s with sockets, main := .stoppingControl true }
      else none
  | .startingControlInput =>
      if (s.sockets.close .controlInput).Returns r.handle then
        let (ok, sockets) := UdpControlInputReceiver.start s.sockets r
        if ok then
          some { s with
            sockets
            controlInput := .started
            main := .startingControl }
        else some { s with sockets, main := .stoppingControl true }
      else none
  | .startingControl =>
      if (s.sockets.close .listener).Returns r.handle then
        let (ok, sockets) := TcpControlServer.startListener s.sockets r
        if ok then
          some { s with sockets, control := .started, main := .reading }
        else some { s with sockets, main := .stoppingControl true }
      else none
  | .reading => some { s with main := .stoppingControl false }
  | .stoppingControl leaving =>
      if s.control.isRunning = false
          ∧ (s.control.stop = .idle ∨ s.control.stop = .returned) then
        some { s with
          main := if leaving then .destroyingControl
            else .clearingControlInput false }
      else none
  | .destroyingControl =>
      some { s with
        sockets := s.sockets.destroy .listener
        main := .clearingControlInput true }
  | .clearingControlInput leaving =>
      some { s with
        controlInput := { s.controlInput with isRunning := false }
        main := .joiningControlInput leaving }
  | .joiningControlInput leaving =>
      s.controlInput.join.map fun controlInput =>
        { s with controlInput, main := .closingControlInput leaving }
  | .closingControlInput leaving =>
      some { s with
        sockets := s.sockets.close .controlInput
        main := if leaving then .destroyingControlInput
          else .exchangingStreaming false }
  | .destroyingControlInput =>
      some { s with
        sockets := s.sockets.destroy .controlInput
        main := .exchangingStreaming true }
  | .exchangingStreaming leaving =>
      if s.streaming.isRunning then
        some { s with
          streaming := { s.streaming with isRunning := false }
          main := .joiningStreaming leaving }
      else some { s with main := .afterStreaming leaving }
  | .joiningStreaming leaving =>
      s.streaming.join.map fun streaming =>
        { s with streaming, main := .closingStreaming leaving }
  | .closingStreaming leaving =>
      some { s with
        sockets := s.sockets.close .streaming
        main := .afterStreaming leaving }
  | .destroyingStreaming =>
      some { s with
        sockets := s.sockets.destroy .streaming
        main := .closingAll }
  | .closingAll =>
      let (control, sockets) := s.control.closeAll s.sockets
      some { s with control, sockets, main := .cleaningUp }
  | .cleaningUp =>
      some { s with
        sockets := s.sockets.made [.wsaCleanup]
        main := .returned }
  | .returned => none

/-- `Stop` is run by `main`, and only the call that clears the flag runs
it. -/
def MayTake (s : ServerProcess F) (a : ThreadAction) : Prop :=
  a.thread = .stop →
    (s.main = .stoppingControl false ∨ s.main = .stoppingControl true)
      ∧ (s.control.stop = .idle → s.control.isRunning = true)

instance (s : ServerProcess F) (a : ThreadAction) : Decidable (s.MayTake a) :=
  inferInstanceAs (Decidable (_ → _))

variable (clientIp : Nat → String) (host : Endian.ByteOrder)

def controlStep (s : ServerProcess F) (a : ThreadAction) (result : Socket)
    (pieces : Nat) : Option (ServerProcess F) :=
  if s.MayTake a ∧ s.control.Accepts s.sockets result a then
    (s.control.step clientIp host a).map fun control =>
      { s with
        control
        sockets := s.control.socketsAfter s.sockets result pieces a }
  else none

/-- `UdpStreamingService::Worker`; a round sends `datagrams`. -/
def streamingStep (s : ServerProcess F) (datagrams : Nat) :
    Option (ServerProcess F) :=
  match s.streaming.worker with
  | .testing =>
      some { s with
        streaming := { s.streaming with
          worker := if s.streaming.isRunning then .working else .ended } }
  | .working =>
      some { s with
        sockets := s.sockets.callOn .streaming .sendto datagrams
        streaming := { s.streaming with worker := .testing } }
  | _ => none

/-- `UdpControlInputReceiver::ReceiveWorker`. -/
def controlInputStep (s : ServerProcess F) : Option (ServerProcess F) :=
  match s.controlInput.worker with
  | .testing =>
      some { s with
        controlInput := { s.controlInput with
          worker := if s.controlInput.isRunning then .working else .ended } }
  | .working =>
      some { s with
        sockets := s.sockets.receiveFrom .controlInput true
        controlInput := { s.controlInput with worker := .testing } }
  | _ => none

def step (s : ServerProcess F) : ProcessAction → Option (ServerProcess F)
  | .main r => s.mainStep r
  | .control a result pieces => s.controlStep clientIp host a result pieces
  | .streaming datagrams => s.streamingStep datagrams
  | .controlInput => s.controlInputStep

def begun : ServerProcess F where
  main := .startingUp
  sockets := .empty
  streaming := .idle
  controlInput := .idle
  control := .constructed

def system : Lts (ServerProcess F) ProcessAction where
  init s := s = begun
  step := step clientIp host

end ServerProcess

end NetworkControl
