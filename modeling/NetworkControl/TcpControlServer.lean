import Mathlib.Logic.Function.Basic
import NetworkControl.ControlChannel
import NetworkControl.EntityWorld
import NetworkControl.Lts

/-!
# TcpControlServer and its sessions

`Server/TcpControlServer.cpp` and `Server/SessionManager.cpp` as they run:
`AcceptWorker`, one `ControlWorker` thread for each accepted session, and
the map they share. A session's handle is the number of its `accept`;
`sessions_` is keyed by the `uint64_t` session id, so every comparison
goes through `sessionId`.

What other threads can run between is a step of its own: `AddSession`, one
processed message, taking a snapshot (in whatever order the unordered map
yields), each single send of a broadcast, `RemoveSession`. A `SendAll` to
a connected client is delivered whole and in order; `log` is what the
client's stream carried, each message with the session it is about. The
server keeps running throughout.

`RemoveSession` releases the map's lock before it calls `StopSession`
(`removeSession_eq`). As one step it leaves out the runs in which another
thread takes a snapshot without the session while it is still playing and
its socket open; `StateOrigin` has them.
-/

namespace NetworkControl

/-! ## The state -/

/-- Where a session's `ControlWorker` is. The broadcasts carry the sends
still to come: recipient and subject, or the recipients. -/
inductive ControlPc where
  | absent
  | serving
  | registered
  | spawning (sends : List (Nat × Nat))
  | leaving
  | despawning (recipients : List Nat)
  | removing
  | done
deriving DecidableEq, Repr

/-- A message written to a control socket, and whose entity it is about. -/
structure Written where
  subject : Nat
  message : ServerMessage
deriving DecidableEq, Repr

/-- `control n` is, before the `n`-th `accept`, the session it will make. -/
structure TcpControlServer (F : Type) where
  nextSessionId : Nat
  sessions : List Nat
  control : Nat → Control F
  pc : Nat → ControlPc
  connected : Nat → Bool
  log : Nat → List Written

/-- What the UDP threads do to a session. -/
inductive UdpThreadCall (F : Type) where
  | stepPhysics (dt : F)
  | getNextSequenceId
  | applyControlInput (sequenceId : UInt32) (throttle yaw : F)

/-- `n` is the session whose worker moves. -/
inductive ServerAction (F : Type) where
  | accept
  | disconnect (n : Nat)
  | process (n : Nat) (message : ClientMessage)
  | leave (n : Nat)
  | snapshot (n : Nat) (order : List Nat)
  | next (n : Nat)
  | udpThread (n : Nat) (call : UdpThreadCall F)

namespace TcpControlServer

section

variable {F : Type}

def sessionId (s : TcpControlServer F) (n : Nat) : UInt64 :=
  (s.control n).session.sessionId

def entityId (s : TcpControlServer F) (n : Nat) : UInt32 :=
  (s.control n).session.getEntityId

/-- What the client of `n` was sent. -/
def messages (s : TcpControlServer F) (n : Nat) : List ServerMessage :=
  (s.log n).map (·.message)

def setPc (s : TcpControlServer F) (n : Nat) (pc : ControlPc) :
    TcpControlServer F :=
  { s with pc := Function.update s.pc n pc }

/-- `SendAll` on the recipient's control socket. -/
def send (s : TcpControlServer F) (recipient : Nat) (written : Written) :
    TcpControlServer F :=
  if s.connected recipient then
    { s with
      log := Function.update s.log recipient (s.log recipient ++ [written]) }
  else s

/-! ## SessionManager -/

def addSession (s : TcpControlServer F) (n : Nat) : TcpControlServer F :=
  { s with
    sessions := s.sessions.filter (fun m => s.sessionId m ≠ s.sessionId n)
      ++ [n] }

/-- `RemoveSession` stops the session it finds, which closes its socket. -/
def removeSession (s : TcpControlServer F) (id : UInt64) :
    TcpControlServer F :=
  match s.sessions.find? (fun m => s.sessionId m = id) with
  | none => s
  | some m =>
      { s with
        sessions := s.sessions.filter fun k => s.sessionId k ≠ id
        control := Function.update s.control m
          { s.control m with session := (s.control m).session.stopSession.1 }
        connected := Function.update s.connected m false }

/-- What `RemoveSession` does under the map's lock. -/
def eraseSession (s : TcpControlServer F) (id : UInt64) :
    TcpControlServer F :=
  { s with sessions := s.sessions.filter fun k => s.sessionId k ≠ id }

/-- And to the session it found, once the lock is released. -/
def stopSession (s : TcpControlServer F) (m : Nat) : TcpControlServer F :=
  { s with
    control := Function.update s.control m
      { s.control m with session := (s.control m).session.stopSession.1 }
    connected := Function.update s.connected m false }

theorem removeSession_eq (s : TcpControlServer F) (id : UInt64) :
    s.removeSession id
      = match s.sessions.find? (fun m => s.sessionId m = id) with
        | none => s
        | some m => (s.eraseSession id).stopSession m := by
  unfold removeSession
  cases s.sessions.find? fun m => s.sessionId m = id <;> rfl

/-! ## The broadcasts -/

/-- A snapshot's sessions but the worker's own. -/
def others (s : TcpControlServer F) (n : Nat) (snapshot : List Nat) :
    List Nat :=
  snapshot.filter fun m => s.sessionId m ≠ s.sessionId n

/-- The sends of `BroadcastSpawnsForNewSession`, in order. -/
def spawnSends (s : TcpControlServer F) (n : Nat) (snapshot : List Nat) :
    List (Nat × Nat) :=
  (n, n) :: ((s.others n snapshot).map (fun other => (n, other))
    ++ (s.others n snapshot).map fun other => (other, n))

def sendEntityDespawn (s : TcpControlServer F) (recipient subject : Nat) :
    TcpControlServer F :=
  s.send recipient
    ⟨subject, .entityDespawn { entityId := s.entityId subject }⟩

/-- The Spawn the worker of `n` sends next: recipient and subject. -/
def nextSpawn (s : TcpControlServer F) (n : Nat) : Option (Nat × Nat) :=
  match s.pc n with
  | .spawning sends => sends.head?
  | _ => none

variable [FloatArith F]

def sendEntitySpawn (s : TcpControlServer F) (recipient subject : Nat) :
    TcpControlServer F :=
  s.send recipient ⟨subject,
    .entitySpawn (s.control subject).session.buildEntitySpawnPayload⟩

def runUdpThreadCall (session : ClientSession F) :
    UdpThreadCall F → ClientSession F
  | .stepPhysics dt => session.stepPhysics dt
  | .getNextSequenceId => session.getNextSequenceId.2
  | .applyControlInput sequenceId throttle yaw =>
      session.applyControlInput sequenceId throttle yaw

/-! ## The threads -/

variable (clientIp : Nat → String)

/-- The body of `AcceptWorker`'s loop, its `ControlWorker` started. -/
def accept (s : TcpControlServer F) : TcpControlServer F :=
  let n := s.nextSessionId
  { (s.addSession n).setPc n .serving with
    nextSessionId := n + 1
    connected := Function.update s.connected n true }

/-- `ProcessOneMessage` up to the broadcast it may call. -/
def process (s : TcpControlServer F) (n : Nat) (message : ClientMessage) :
    TcpControlServer F :=
  let control := handleMessage (clientIp n) (s.control n) message
  let s := { s with control := Function.update s.control n control }
  match message with
  | .registerUdpPort _ =>
      if control.isUdpEndpointRegistered then s.setPc n .registered else s
  | _ => s

/-- Behind the loop of `ControlWorker`. -/
def leave (s : TcpControlServer F) (n : Nat) : TcpControlServer F :=
  if (s.control n).isUdpEndpointRegistered then s.setPc n .leaving
  else s.setPc n .removing

/-- A worker under way takes its next step; a broadcast with nothing left
to send returns. -/
def next (s : TcpControlServer F) (n : Nat) : Option (TcpControlServer F) :=
  match s.pc n with
  | .spawning ((recipient, subject) :: sends) =>
      some ((s.sendEntitySpawn recipient subject).setPc n (.spawning sends))
  | .spawning [] => some (s.setPc n .serving)
  | .despawning (recipient :: recipients) =>
      some ((s.sendEntityDespawn recipient n).setPc n
        (.despawning recipients))
  | .despawning [] => some (s.setPc n .removing)
  | .removing => some ((s.removeSession (s.sessionId n)).setPc n .done)
  | _ => none

/-- `ProcessOneMessage` fails once the client is gone, and on a message of
an unexpected type from a registered one. -/
def step (s : TcpControlServer F) :
    ServerAction F → Option (TcpControlServer F)
  | .accept => some s.accept
  | .disconnect n =>
      some { s with connected := Function.update s.connected n false }
  | .process n message =>
      if s.pc n = .serving then some (s.process clientIp n message) else none
  | .leave n =>
      if s.pc n = .serving ∧ (s.connected n = false
          ∨ (s.control n).isUdpEndpointRegistered = true) then
        some (s.leave n)
      else none
  | .snapshot n order =>
      if order.Perm s.sessions then
        match s.pc n with
        | .registered => some (s.setPc n (.spawning (s.spawnSends n order)))
        | .leaving => some (s.setPc n (.despawning (s.others n order)))
        | _ => none
      else none
  | .next n => s.next n
  | .udpThread n call =>
      some { s with
        control := Function.update s.control n
          { s.control n with
            session := runUdpThreadCall (s.control n).session call } }

/-- Right after `Start`. -/
def started : TcpControlServer F where
  nextSessionId := 1
  sessions := []
  control n := { session := .new (UInt64.ofNat n) }
  pc _ := .absent
  connected _ := false
  log _ := []

def system : Lts (TcpControlServer F) (ServerAction F) where
  init s := s = started
  step := step clientIp

/-- What a step can do, one constructor for each case of `step`. -/
inductive Moves (s : TcpControlServer F) :
    ServerAction F → TcpControlServer F → Prop where
  | accept : Moves s .accept s.accept
  | disconnect {n : Nat} : Moves s (.disconnect n)
      { s with connected := Function.update s.connected n false }
  | process {n : Nat} {message : ClientMessage} : s.pc n = .serving →
      Moves s (.process n message) (s.process clientIp n message)
  | leave {n : Nat} : s.pc n = .serving → Moves s (.leave n) (s.leave n)
  | spawnSnapshot {n : Nat} {order : List Nat} : order.Perm s.sessions →
      s.pc n = .registered →
      Moves s (.snapshot n order)
        (s.setPc n (.spawning (s.spawnSends n order)))
  | despawnSnapshot {n : Nat} {order : List Nat} : order.Perm s.sessions →
      s.pc n = .leaving →
      Moves s (.snapshot n order) (s.setPc n (.despawning (s.others n order)))
  | spawn {n recipient subject : Nat} {sends : List (Nat × Nat)} :
      s.pc n = .spawning ((recipient, subject) :: sends) →
      Moves s (.next n)
        ((s.sendEntitySpawn recipient subject).setPc n (.spawning sends))
  | spawned {n : Nat} : s.pc n = .spawning [] →
      Moves s (.next n) (s.setPc n .serving)
  | despawn {n recipient : Nat} {recipients : List Nat} :
      s.pc n = .despawning (recipient :: recipients) →
      Moves s (.next n)
        ((s.sendEntityDespawn recipient n).setPc n (.despawning recipients))
  | despawned {n : Nat} : s.pc n = .despawning [] →
      Moves s (.next n) (s.setPc n .removing)
  | remove {n : Nat} : s.pc n = .removing →
      Moves s (.next n) ((s.removeSession (s.sessionId n)).setPc n .done)
  | udpThread {n : Nat} {call : UdpThreadCall F} :
      Moves s (.udpThread n call) { s with
        control := Function.update s.control n
          { s.control n with
            session := runUdpThreadCall (s.control n).session call } }

theorem moves_of_step {s t : TcpControlServer F} {a : ServerAction F}
    (h : s.step clientIp a = some t) : Moves clientIp s a t := by
  cases a with
  | accept =>
      obtain rfl := Option.some.inj h
      exact .accept
  | disconnect n =>
      obtain rfl := Option.some.inj h
      exact .disconnect
  | process n message =>
      simp only [step] at h
      split at h
      · rename_i hserving
        obtain rfl := Option.some.inj h
        exact .process hserving
      · cases h
  | leave n =>
      simp only [step] at h
      split at h
      · rename_i hleave
        obtain rfl := Option.some.inj h
        exact .leave hleave.1
      · cases h
  | snapshot n order =>
      simp only [step] at h
      split at h
      · rename_i horder
        split at h
        · rename_i hpc
          obtain rfl := Option.some.inj h
          exact .spawnSnapshot horder hpc
        · rename_i hpc
          obtain rfl := Option.some.inj h
          exact .despawnSnapshot horder hpc
        · cases h
      · cases h
  | next n =>
      simp only [step, next] at h
      split at h
      · rename_i hpc
        obtain rfl := Option.some.inj h
        exact .spawn hpc
      · rename_i hpc
        obtain rfl := Option.some.inj h
        exact .spawned hpc
      · rename_i hpc
        obtain rfl := Option.some.inj h
        exact .despawn hpc
      · rename_i hpc
        obtain rfl := Option.some.inj h
        exact .despawned hpc
      · rename_i hpc
        obtain rfl := Option.some.inj h
        exact .remove hpc
      · cases h
  | udpThread n call =>
      obtain rfl := Option.some.inj h
      exact .udpThread

end

/-! ## What the steps leave alone -/

section

variable {F : Type} (s : TcpControlServer F) (n m : Nat) (pc : ControlPc)
  (written : Written)

@[simp] theorem setPc_sessions : (s.setPc n pc).sessions = s.sessions := rfl

@[simp] theorem setPc_nextSessionId :
    (s.setPc n pc).nextSessionId = s.nextSessionId := rfl

@[simp] theorem setPc_connected : (s.setPc n pc).connected = s.connected := rfl

@[simp] theorem setPc_log : (s.setPc n pc).log = s.log := rfl

@[simp] theorem setPc_sessionId :
    (s.setPc n pc).sessionId m = s.sessionId m := rfl

@[simp] theorem setPc_self : (s.setPc n pc).pc n = pc :=
  Function.update_self ..

@[simp] theorem setPc_of_ne (h : m ≠ n) : (s.setPc n pc).pc m = s.pc m :=
  Function.update_of_ne h ..

@[simp] theorem send_sessions :
    (s.send m written).sessions = s.sessions := by
  rw [send]
  split <;> rfl

@[simp] theorem send_nextSessionId :
    (s.send m written).nextSessionId = s.nextSessionId := by
  rw [send]
  split <;> rfl

@[simp] theorem send_connected :
    (s.send m written).connected = s.connected := by
  rw [send]
  split <;> rfl

@[simp] theorem send_pc : (s.send m written).pc = s.pc := by
  rw [send]
  split <;> rfl

@[simp] theorem send_sessionId :
    (s.send m written).sessionId n = s.sessionId n := by
  rw [send]
  split <;> rfl

/-- A socket that is closed takes nothing. -/
theorem send_log : (s.send m written).log n
    = s.log n ++ if n = m ∧ s.connected m = true then [written] else [] := by
  rw [send]
  cases hopen : s.connected m with
  | false => simp
  | true =>
      by_cases hn : n = m
      · subst hn
        simp
      · simp [hn]

theorem accept_self : s.accept.pc s.nextSessionId = .serving :=
  Function.update_self ..

theorem accept_of_ne (h : n ≠ s.nextSessionId) :
    s.accept.pc n = s.pc n ∧ s.accept.connected n = s.connected n :=
  ⟨Function.update_of_ne h .., Function.update_of_ne h ..⟩

end

section

variable {F : Type} [FloatArith F] {clientIp : Nat → String}
  {s t : TcpControlServer F} {a : ServerAction F}

theorem process_pc (clientIp : Nat → String) (n m : Nat) (message : ClientMessage)
    (h : s.pc n = .serving) :
    (s.process clientIp n message).pc m = s.pc m
      ∨ (m = n ∧ (s.process clientIp n message).pc m = .registered) := by
  cases message with
  | registerUdpPort port =>
      simp only [process]
      split
      · by_cases hm : m = n
        · subst hm
          exact Or.inr ⟨rfl, setPc_self ..⟩
        · exact Or.inl (setPc_of_ne _ _ _ _ hm)
      · exact Or.inl rfl
  | _ => exact Or.inl rfl

theorem process_frame (clientIp : Nat → String) (n : Nat) (message : ClientMessage) :
    (s.process clientIp n message).sessions = s.sessions
      ∧ (s.process clientIp n message).nextSessionId = s.nextSessionId
      ∧ (s.process clientIp n message).connected = s.connected
      ∧ (s.process clientIp n message).log = s.log := by
  cases message with
  | registerUdpPort port =>
      simp only [process]
      split <;> exact ⟨rfl, rfl, rfl, rfl⟩
  | _ => exact ⟨rfl, rfl, rfl, rfl⟩

omit [FloatArith F] in
theorem connected_of_closed {n m : Nat}
    (h : Function.update s.connected m false n = true) :
    n ≠ m ∧ s.connected n = true := by
  by_cases hn : n = m
  · subst hn
    rw [Function.update_self] at h
    cases h
  · rw [Function.update_of_ne hn] at h
    exact ⟨hn, h⟩

omit [FloatArith F] in
/-- `RemoveSession` only writes to the map, and to the session it closes. -/
theorem removeSession_frame (id : UInt64) :
    (s.removeSession id).nextSessionId = s.nextSessionId
      ∧ (s.removeSession id).pc = s.pc ∧ (s.removeSession id).log = s.log
      ∧ ∀ n, (s.removeSession id).connected n = true →
          s.connected n = true := by
  unfold removeSession
  split
  · exact ⟨rfl, rfl, rfl, fun _ h => h⟩
  · exact ⟨rfl, rfl, rfl, fun _ h => (connected_of_closed h).2⟩

omit [FloatArith F] in
/-- An update of one session that keeps its id keeps every id. -/
theorem update_sessionId {n : Nat} {control : Control F}
    (h : control.session.sessionId = s.sessionId n) (m : Nat) :
    (Function.update s.control n control m).session.sessionId
      = s.sessionId m := by
  by_cases hm : m = n
  · subst hm
    rw [Function.update_self]
    exact h
  · rw [Function.update_of_ne hm]
    rfl

omit [FloatArith F] in
theorem removeSession_sessionId (id : UInt64) (n : Nat) :
    (s.removeSession id).sessionId n = s.sessionId n := by
  unfold removeSession
  split
  · rfl
  · refine update_sessionId ?_ n
    rfl

theorem process_sessionId (n m : Nat) (message : ClientMessage) :
    (s.process clientIp n message).sessionId m = s.sessionId m := by
  have hid := handleMessage_sessionId (clientIp n) (s.control n) message
  have hkept := update_sessionId (s := s) hid m
  cases message with
  | registerUdpPort port =>
      simp only [process]
      split <;> exact hkept
  | _ => exact hkept

/-- Ids never change. -/
theorem Moves.sessionId (h : Moves clientIp s a t) (n : Nat) :
    t.sessionId n = s.sessionId n := by
  cases h with
  | process hserving => exact process_sessionId _ _ _
  | leave hserving =>
      rw [TcpControlServer.leave]
      split <;> rfl
  | spawn hpc => exact send_sessionId _ _ _ _
  | despawn hpc => exact send_sessionId _ _ _ _
  | remove hpc => exact removeSession_sessionId _ _
  | @udpThread m call =>
      refine update_sessionId ?_ n
      cases call with
      | applyControlInput sequenceId throttle yaw =>
          simp only [runUdpThreadCall, ClientSession.applyControlInput]
          split <;> rfl
      | _ => rfl
  | _ => rfl

theorem Moves.entityId (h : Moves clientIp s a t) (n : Nat) :
    t.entityId n = s.entityId n :=
  congrArg UInt64.toUInt32 (h.sessionId n)

/-- A step writes nothing to `n`, the Spawn a worker sends next, or the
Despawn of a worker under way to its end. -/
theorem Moves.log_cases (h : Moves clientIp s a t) (n : Nat) :
    t.log n = s.log n
      ∨ (∃ m subject, a = .next m ∧ (n, subject) ∈ s.nextSpawn m
        ∧ s.connected n = true
        ∧ t.log n = s.log n ++ [⟨subject, .entitySpawn
          (s.control subject).session.buildEntitySpawnPayload⟩])
      ∨ ∃ m recipients, s.pc m = .despawning recipients
        ∧ t.log n
          = s.log n ++ [⟨m, .entityDespawn { entityId := s.entityId m }⟩] := by
  cases h with
  | @process m message hserving =>
      exact Or.inl (congrFun (process_frame clientIp m message).2.2.2 n)
  | leave hserving =>
      rw [TcpControlServer.leave]
      split <;> exact Or.inl rfl
  | @spawn m recipient subject sends hpc =>
      rw [setPc_log, sendEntitySpawn, send_log]
      split
      · rename_i hsent
        refine Or.inr (Or.inl ⟨m, subject, rfl, ?_, ?_, rfl⟩)
        · rw [nextSpawn, hpc, hsent.1]
          rfl
        · rw [hsent.1]
          exact hsent.2
      · exact Or.inl (List.append_nil _)
  | @despawn m recipient recipients hpc =>
      rw [setPc_log, sendEntityDespawn, send_log]
      split
      · exact Or.inr (Or.inr ⟨m, _, hpc, rfl⟩)
      · exact Or.inl (List.append_nil _)
  | @remove m hpc =>
      rw [setPc_log, (removeSession_frame (s.sessionId m)).2.2.1]
      exact Or.inl rfl
  | _ => exact Or.inl rfl

end

/-! ## Concrete runs -/

def loopbackServer : Lts (TcpControlServer Float32) (ServerAction Float32) :=
  system fun _ => "127.0.0.1"

/-- `n` registers and its broadcast runs to the end; `order` is its
snapshot. -/
def registerRun (n : Nat) (order : List Nat) : List (ServerAction Float32) :=
  [.process n (.registerUdpPort 6000), .snapshot n order]
    ++ List.replicate (2 * order.length) (.next n)

end TcpControlServer

end NetworkControl
