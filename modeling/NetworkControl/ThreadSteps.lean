import NetworkControl.ThreadOrder

/-!
# The threads' steps, exactly

`Moves` keeps of a step what a clean shutdown rests on; whether the
shutdown comes to its end depends on every place a thread can go to next.
`Steps` has all of it, `Goes` for the steps in which a worker only changes
its place. `Winding` collects what else holds in every reachable state:
above all, that behind the loop over the snapshot a socket that is still
open belongs to a client too late to have been served, or to a worker
about to close it.
-/

namespace NetworkControl

/-- The caller of `Stop`, `AcceptWorker`, and the `ControlWorker`s. -/
inductive ServerThread where
  | stop
  | accept
  | worker (n : Nat)
deriving DecidableEq, Repr

/-- Whose step it is. -/
def ThreadAction.thread : ThreadAction → ServerThread
  | stop => .stop
  | stopSnapshot _ => .stop
  | accept _ => .accept
  | worker n => .worker n
  | receive n _ => .worker n
  | snapshot n _ => .worker n

/-- A connection that is numbered and not yet in the map. -/
def AcceptPc.unlisted : AcceptPc → Nat
  | adding _ => 1
  | _ => 0

theorem AcceptPc.unlisted_of_session {pc : AcceptPc}
    (h : pc.session = none) : pc.unlisted = 0 := by
  cases pc with
  | adding n => cases h
  | _ => rfl

def StopPc.hasClosedListener : StopPc → Bool
  | idle => false
  | closing => false
  | _ => true

/-- Before the first message, or behind the loop of a worker that never
registered its client. -/
def ControlWorkerPc.isLate : ControlWorkerPc → Bool
  | absent => true
  | testing => true
  | left => true
  | removing => true
  | _ => false

theorem ControlWorkerPc.isLate_of_isReceiving {pc : ControlWorkerPc}
    (h : pc.isReceiving = true) : pc.isLate = false := by
  cases pc <;> first | rfl | cases h

/-- Behind the `StopSession` that its own `RemoveSession` runs. -/
def ControlWorkerPc.hasStoppedSession : ControlWorkerPc → Bool
  | closing => true
  | counting => true
  | done => true
  | _ => false

namespace ControlThreads

section

variable {F : Type}

/-- The steps that change nothing but the place of worker `n`. -/
inductive Goes (s : ControlThreads F) (n : Nat) : ControlWorkerPc → Prop where
  | enter : s.worker n = .testing → s.isRunning = true →
      Goes s n .receivingHeader
  | quit : s.worker n = .testing → s.isRunning = false → Goes s n .left
  | fail : (s.worker n).isReceiving = true → Goes s n .left
  | header {type : MessageType} : s.worker n = .receivingHeader →
      Goes s n (.receivingPayload type)
  | spawnSnapshot {order : List Nat} : s.worker n = .registered →
      order.Perm s.sessions →
      Goes s n (.spawning ((n, n)
        :: ((order.filter (· ≠ n)).map (fun other => (n, other))
          ++ (order.filter (· ≠ n)).map fun other => (other, n))))
  | sendSpawn {send : Nat × Nat} {sends : List (Nat × Nat)} :
      s.worker n = .spawning (send :: sends) → Goes s n (.spawning sends)
  | spawned : s.worker n = .spawning [] → Goes s n .testing
  | leave : s.worker n = .left →
      (s.control n).isUdpEndpointRegistered = true → Goes s n .leaving
  | leaveUnregistered : s.worker n = .left →
      (s.control n).isUdpEndpointRegistered = false → Goes s n .removing
  | despawnSnapshot {order : List Nat} : s.worker n = .leaving →
      order.Perm s.sessions →
      Goes s n (.despawning (order.filter (· ≠ n)))
  | sendDespawn {recipient : Nat} {recipients : List Nat} :
      s.worker n = .despawning (recipient :: recipients) →
      Goes s n (.despawning recipients)
  | despawned : s.worker n = .despawning [] → Goes s n .removing
  | unmapped : s.worker n = .removing → n ∉ s.sessions → Goes s n .counting

variable [FloatArith F] (clientIp : Nat → String) (host : Endian.ByteOrder)

/-- What a thread's step does. -/
inductive Steps (s : ControlThreads F) :
    ServerThread → ControlThreads F → Prop where
  | clear : s.stop = .idle →
      Steps s .stop { s with isRunning := false, stop := .closing }
  | closeListener : s.stop = .closing →
      Steps s .stop { s with listenerOpen := false, stop := .snapshotting }
  | stopSnapshot {order : List Nat} : s.stop = .snapshotting →
      order.Perm s.sessions → Steps s .stop { s with stop := .stopping order }
  | stopSession {n : Nat} {rest : List Nat} :
      s.stop = .stopping (n :: rest) →
      Steps s .stop { s.setSession n (s.control n).session.stopSession.1 with
        stop := .closingSocket n rest }
  | skipSession {n : Nat} {rest : List Nat} :
      s.stop = .stopping (n :: rest) → s.controlClosed n = true →
      Steps s .stop { s.setSession n (s.control n).session.stopSession.1 with
        stop := .stopping rest }
  | stopped : s.stop = .stopping [] → Steps s .stop { s with stop := .joining }
  | stopSocket {n : Nat} {rest : List Nat} :
      s.stop = .closingSocket n rest →
      Steps s .stop { s.closeSocket n with stop := .stopping rest }
  | join : s.stop = .joining → s.accept = .ended →
      Steps s .stop { s with stop := .waiting }
  | sleep : s.stop = .waiting → 0 < s.activeControlWorkerCount →
      Steps s .stop s
  | pass : s.stop = .waiting → s.activeControlWorkerCount ≤ 0 →
      Steps s .stop { s with stop := .returned }
  | test : s.accept = .testing → Steps s .accept
      { s with accept := if s.isRunning then .accepting else .ended }
  | fail : s.accept = .accepting →
      Steps s .accept { s with accept := .testing }
  | connect : s.accept = .accepting → s.listenerOpen = true →
      Steps s .accept { s with accept := .accepted }
  | refuse : s.accept = .accepted → s.isRunning = false →
      Steps s .accept { s with accept := .ended }
  | number : s.accept = .accepted → s.isRunning = true →
      Steps s .accept { s with
        nextSessionId := s.nextSessionId + 1
        socketOpen := Function.update s.socketOpen s.nextSessionId true
        accept := .adding s.nextSessionId }
  | add {n : Nat} : s.accept = .adding n → Steps s .accept
      { s with sessions := s.sessions ++ [n], accept := .counting n }
  | count {n : Nat} : s.accept = .counting n → Steps s .accept { s with
        activeControlWorkerCount := s.activeControlWorkerCount + 1
        accept := .starting n }
  | start {n : Nat} : s.accept = .starting n →
      Steps s .accept { s.setWorker n .testing with accept := .testing }
  | go {n : Nat} {pc : ControlWorkerPc} : Goes s n pc →
      Steps s (.worker n) (s.setWorker n pc)
  | handle {n : Nat} (type : MessageType) (payloadBytes : List UInt8) :
      (s.worker n).isReceiving = true →
      Steps s (.worker n) (s.handle clientIp host n type payloadBytes)
  | erase {n : Nat} : s.worker n = .removing → n ∈ s.sessions →
      Steps s (.worker n) { s.setWorker n .stopping with
        sessions := s.sessions.filter (· ≠ n) }
  | exchange {n : Nat} : s.worker n = .stopping →
      Steps s (.worker n) ((s.setSession n
        (s.control n).session.stopSession.1).setWorker n .closing)
  | yield {n : Nat} : s.worker n = .stopping → s.controlClosed n = true →
      Steps s (.worker n) ((s.setSession n
        (s.control n).session.stopSession.1).setWorker n .counting)
  | close {n : Nat} : s.worker n = .closing →
      Steps s (.worker n) ((s.closeSocket n).setWorker n .counting)
  | finish {n : Nat} : s.worker n = .counting →
      Steps s (.worker n) { s.setWorker n .done with
        activeControlWorkerCount := s.activeControlWorkerCount - 1 }

variable {clientIp host} {s t : ControlThreads F} {thread : ServerThread}

theorem steps_of_stopStep (h : s.stopStep = some t) :
    Steps clientIp host s .stop t := by
  unfold stopStep at h
  split at h
  · rename_i hpc
    obtain rfl := Option.some.inj h
    exact .clear hpc
  · rename_i hpc
    obtain rfl := Option.some.inj h
    exact .closeListener hpc
  · rename_i n rest hpc
    obtain rfl := Option.some.inj h
    cases hclosed : s.controlClosed n with
    | false =>
        have hcloses : (s.control n).session.stopSession.2 = true :=
          congrArg (!·) hclosed
        rw [if_pos hcloses]
        exact .stopSession hpc
    | true =>
        have hcloses : (s.control n).session.stopSession.2 = false :=
          congrArg (!·) hclosed
        rw [if_neg (by simp [hcloses])]
        exact .skipSession hpc hclosed
  · rename_i hpc
    obtain rfl := Option.some.inj h
    exact .stopped hpc
  · rename_i hpc
    obtain rfl := Option.some.inj h
    exact .stopSocket hpc
  · rename_i hpc
    split at h
    · rename_i hended
      obtain rfl := Option.some.inj h
      exact .join hpc hended
    · cases h
  · rename_i hpc
    split at h
    · rename_i hcount
      obtain rfl := Option.some.inj h
      exact .sleep hpc hcount
    · rename_i hcount
      obtain rfl := Option.some.inj h
      exact .pass hpc (Int.not_lt.mp hcount)
  · cases h

theorem steps_of_acceptStep {connection : Bool}
    (h : s.acceptStep connection = some t) :
    Steps clientIp host s .accept t := by
  unfold acceptStep at h
  split at h
  · rename_i hpc
    obtain rfl := Option.some.inj h
    exact .test hpc
  · rename_i hpc
    split at h
    · obtain rfl := Option.some.inj h
      exact .fail hpc
    · split at h
      · rename_i hlistener
        obtain rfl := Option.some.inj h
        exact .connect hpc hlistener
      · cases h
  · rename_i hpc
    split at h
    · rename_i hcleared
      obtain rfl := Option.some.inj h
      exact .refuse hpc (by simpa using hcleared)
    · rename_i hrunning
      obtain rfl := Option.some.inj h
      exact .number hpc (by simpa using hrunning)
  · rename_i hpc
    obtain rfl := Option.some.inj h
    exact .add hpc
  · rename_i hpc
    obtain rfl := Option.some.inj h
    exact .count hpc
  · rename_i hpc
    obtain rfl := Option.some.inj h
    exact .start hpc
  · cases h

theorem steps_of_workerStep {n : Nat} (h : s.workerStep n = some t) :
    Steps clientIp host s (.worker n) t := by
  unfold workerStep at h
  split at h
  · rename_i hpc
    obtain rfl := Option.some.inj h
    split
    · rename_i hrunning
      exact .go (.enter hpc hrunning)
    · rename_i hcleared
      exact .go (.quit hpc (by simpa using hcleared))
  · rename_i hpc
    obtain rfl := Option.some.inj h
    exact .go (.sendSpawn hpc)
  · rename_i hpc
    obtain rfl := Option.some.inj h
    exact .go (.spawned hpc)
  · rename_i hpc
    obtain rfl := Option.some.inj h
    split
    · rename_i hregistered
      exact .go (.leave hpc hregistered)
    · rename_i hunregistered
      exact .go (.leaveUnregistered hpc (by simpa using hunregistered))
  · rename_i hpc
    obtain rfl := Option.some.inj h
    exact .go (.sendDespawn hpc)
  · rename_i hpc
    obtain rfl := Option.some.inj h
    exact .go (.despawned hpc)
  · rename_i hpc
    split at h
    · rename_i hmapped
      obtain rfl := Option.some.inj h
      exact .erase hpc hmapped
    · rename_i hunmapped
      obtain rfl := Option.some.inj h
      exact .go (.unmapped hpc hunmapped)
  · rename_i hpc
    obtain rfl := Option.some.inj h
    cases hclosed : s.controlClosed n with
    | false =>
        have hcloses : (s.control n).session.stopSession.2 = true :=
          congrArg (!·) hclosed
        rw [if_pos hcloses]
        exact .exchange hpc
    | true =>
        have hcloses : (s.control n).session.stopSession.2 = false :=
          congrArg (!·) hclosed
        rw [if_neg (by simp [hcloses])]
        exact .yield hpc hclosed
  · rename_i hpc
    obtain rfl := Option.some.inj h
    exact .close hpc
  · rename_i hpc
    obtain rfl := Option.some.inj h
    exact .finish hpc
  · cases h

theorem steps_of_receive {n : Nat} {received : Option (List UInt8)}
    (h : s.receive clientIp host n received = some t) :
    Steps clientIp host s (.worker n) t := by
  unfold receive at h
  split at h
  · rename_i hpc
    obtain rfl := Option.some.inj h
    exact .go (.fail (by rw [hpc]; rfl))
  · rename_i hpc
    obtain rfl := Option.some.inj h
    exact .go (.fail (by rw [hpc]; rfl))
  · rename_i headerByte hpc
    split at h
    · dsimp only at h
      split at h
      · obtain rfl := Option.some.inj h
        exact .handle _ _ (by rw [hpc]; rfl)
      · obtain rfl := Option.some.inj h
        exact .go (.header hpc)
    · cases h
  · rename_i type payloadBytes hpc
    split at h
    · obtain rfl := Option.some.inj h
      exact .handle _ _ (by rw [hpc]; rfl)
    · cases h
  · cases h

theorem steps_of_step {a : ThreadAction}
    (h : s.step clientIp host a = some t) :
    Steps clientIp host s a.thread t := by
  cases a with
  | stop => exact steps_of_stopStep h
  | stopSnapshot order =>
      rw [step] at h
      split at h
      · rename_i hsnapshot
        obtain rfl := Option.some.inj h
        exact .stopSnapshot hsnapshot.1 hsnapshot.2
      · cases h
  | accept connection => exact steps_of_acceptStep h
  | worker n => exact steps_of_workerStep h
  | receive n received => exact steps_of_receive h
  | snapshot n order =>
      rw [step] at h
      split at h
      · rename_i horder
        unfold workerSnapshot at h
        dsimp only at h
        split at h
        · rename_i hpc
          obtain rfl := Option.some.inj h
          exact .go (.spawnSnapshot hpc horder)
        · rename_i hpc
          obtain rfl := Option.some.inj h
          exact .go (.despawnSnapshot hpc horder)
        · cases h
      · cases h

end

/-! ## What else every step keeps -/

section

variable {F : Type}

/-- The socket of `n` is open and `Stop` will not come to it: a client too
late to be served, or the worker is about to close it. -/
def Late (s : ControlThreads F) (n : Nat) : Prop :=
  s.worker n = .stopping ∨ s.worker n = .closing
    ∨ (s.worker n).isLate = true
      ∧ (s.control n).isUdpEndpointRegistered = false

structure Winding (s : ControlThreads F) : Prop where
  room : s.sessions.length + s.accept.unlisted ≤ s.nextSessionId
  shut : s.stop.hasClosedListener = true → s.listenerOpen = false
  unregistered : ∀ n, s.worker n = .absent →
    (s.control n).isUdpEndpointRegistered = false
  stopped : ∀ n, (s.worker n).hasStoppedSession = true →
    s.controlClosed n = true
  started : ∀ n, s.socketOpen n = true → s.worker n = .absent →
    s.accept.session = some n
  late : ∀ n, s.socketOpen n = true → s.stop.Covers n ∨ s.Late n

variable {s t : ControlThreads F} {n : Nat} {pc : ControlWorkerPc}

/-! ### A worker goes on -/

theorem Goes.active (h : Goes s n pc) :
    (s.worker n).isActive = true ∧ pc.isActive = true := by
  cases h with
  | fail hreceiving =>
      cases hpc : s.worker n <;> rw [hpc] at hreceiving <;>
        first | exact ⟨rfl, rfl⟩ | cases hreceiving
  | _ => simp_all [ControlWorkerPc.isActive]

theorem Goes.ne_absent (h : Goes s n pc) :
    s.worker n ≠ .absent ∧ pc ≠ .absent := by
  obtain ⟨hold, hnew⟩ := h.active
  refine ⟨fun hpc => ?_, fun hpc => ?_⟩
  · rw [hpc] at hold
    cases hold
  · rw [hpc] at hnew
    cases hnew

/-- Outside of the reach of `Stop`, a late client goes on to its end. -/
theorem Goes.late (h : Goes s n pc) (hflag : s.Flagged) (hlisted : s.Listed)
    (hs : s.stop.Covers n ∨ s.Late n) :
    s.stop.Covers n ∨ (s.setWorker n pc).Late n := by
  rcases hs with hcovers | hlate
  · exact Or.inl hcovers
  · have hself : (s.setWorker n pc).worker n = pc := Function.update_self ..
    cases h with
    | enter hpc hrunning =>
        rw [hflag hrunning]
        exact Or.inl trivial
    | quit hpc hcleared =>
        have hunregistered : (s.control n).isUdpEndpointRegistered = false := by
          simpa [Late, hpc, ControlWorkerPc.isLate] using hlate
        exact Or.inr (Or.inr (Or.inr ⟨by rw [hself]; rfl, hunregistered⟩))
    | leaveUnregistered hpc hunregistered =>
        exact Or.inr (Or.inr (Or.inr ⟨by rw [hself]; rfl, hunregistered⟩))
    | leave hpc hregistered =>
        simp [Late, hpc, hregistered] at hlate
    | fail hreceiving =>
        rcases hlate with hpc | hpc | ⟨hpc, -⟩
        · rw [hpc] at hreceiving
          cases hreceiving
        · rw [hpc] at hreceiving
          cases hreceiving
        · rw [ControlWorkerPc.isLate_of_isReceiving hreceiving] at hpc
          cases hpc
    | unmapped hpc hunmapped =>
        exact absurd (hlisted.workers n (by rw [hpc]; rfl)) hunmapped
    | header hpc => simp [Late, hpc, ControlWorkerPc.isLate] at hlate
    | spawnSnapshot hpc => simp [Late, hpc, ControlWorkerPc.isLate] at hlate
    | sendSpawn hpc => simp [Late, hpc, ControlWorkerPc.isLate] at hlate
    | spawned hpc => simp [Late, hpc, ControlWorkerPc.isLate] at hlate
    | despawnSnapshot hpc => simp [Late, hpc, ControlWorkerPc.isLate] at hlate
    | sendDespawn hpc => simp [Late, hpc, ControlWorkerPc.isLate] at hlate
    | despawned hpc => simp [Late, hpc, ControlWorkerPc.isLate] at hlate

theorem Goes.stopped (h : Goes s n pc) (hlisted : s.Listed) :
    pc.hasStoppedSession = false := by
  cases h with
  | unmapped hpc hunmapped =>
      exact absurd (hlisted.workers n (by rw [hpc]; rfl)) hunmapped
  | _ => rfl

theorem worker_of_update {m : Nat} {pc' : ControlWorkerPc} (hpc : pc ≠ pc')
    (h : Function.update s.worker n pc m = pc') :
    m ≠ n ∧ s.worker m = pc' := by
  by_cases hmn : m = n
  · rw [hmn, Function.update_self] at h
    exact absurd h hpc
  · rw [Function.update_of_ne hmn] at h
    exact ⟨hmn, h⟩

theorem update_open {m : Nat}
    (h : Function.update s.socketOpen n false m = true) :
    m ≠ n ∧ s.socketOpen m = true := by
  by_cases hmn : m = n
  · rw [hmn, Function.update_self] at h
    cases h
  · rw [Function.update_of_ne hmn] at h
    exact ⟨hmn, h⟩

theorem setSession_registered (session : ClientSession F) (m : Nat) :
    ((s.setSession n session).control m).isUdpEndpointRegistered
      = (s.control m).isUdpEndpointRegistered := by
  by_cases hmn : m = n
  · subst hmn
    simp [setSession]
  · simp [setSession, hmn]

theorem stopSession_closed {m : Nat} (hclosed : s.controlClosed m = true) :
    (s.setSession n (s.control n).session.stopSession.1).controlClosed m
      = true := by
  rw [setSession_controlClosed]
  split
  · rfl
  · exact hclosed

end

section

variable {F : Type} [FloatArith F] {clientIp : Nat → String}
  {host : Endian.ByteOrder} {s t : ControlThreads F} {thread : ServerThread}

theorem afterMessage_place (keep : Bool) (type : MessageType)
    (isUdpEndpointRegistered : Bool) :
    (ControlWorkerPc.afterMessage keep type
        isUdpEndpointRegistered).hasStoppedSession = false
      ∧ ControlWorkerPc.afterMessage keep type isUdpEndpointRegistered
        ≠ .absent := by
  unfold ControlWorkerPc.afterMessage
  split
  · exact ⟨rfl, fun h => by cases h⟩
  · split <;> exact ⟨rfl, fun h => by cases h⟩

theorem handle_controlClosed (n : Nat) (type : MessageType)
    (payloadBytes : List UInt8) (m : Nat) :
    (s.handle clientIp host n type payloadBytes).controlClosed m
      = s.controlClosed m := by
  show (Function.update s.control n _ m).session.isControlConnectionClosed = _
  by_cases hmn : m = n
  · subst hmn
    rw [Function.update_self]
    exact handleReceived_isControlConnectionClosed _ _ _ _ _
  · rw [Function.update_of_ne hmn]
    rfl

/-! ### The map has room -/

theorem Steps.keeps_room (h : Steps clientIp host s thread t) (hs : s.Winding) :
    t.sessions.length + t.accept.unlisted ≤ t.nextSessionId := by
  have hroom := hs.room
  have hsessions := Nat.le_of_add_right_le hroom
  cases h with
  | test hpc =>
      rw [AcceptPc.unlisted_of_session]
      · exact hsessions
      · dsimp only
        split <;> rfl
  | fail hpc => exact hsessions
  | connect hpc hlistener => exact hsessions
  | refuse hpc hcleared => exact hsessions
  | number hpc hrunning => exact Nat.succ_le_succ hsessions
  | add hpc =>
      rw [hpc] at hroom
      show (s.sessions ++ [_]).length ≤ s.nextSessionId
      rw [List.length_append]
      exact hroom
  | count hpc => exact hsessions
  | start hpc => exact hsessions
  | erase hpc hmapped =>
      exact Nat.le_trans
        (Nat.add_le_add_right (List.length_filter_le _ _) _) hroom
  | _ => exact hroom

theorem Steps.keeps_shut (h : Steps clientIp host s thread t) (hs : s.Winding) :
    t.stop.hasClosedListener = true → t.listenerOpen = false := by
  cases h with
  | clear hpc => exact fun hclosed => by cases hclosed
  | closeListener hpc => exact fun _ => rfl
  | stopSnapshot hpc horder => exact fun _ => hs.shut (by rw [hpc]; rfl)
  | stopSession hpc => exact fun _ => hs.shut (by rw [hpc]; rfl)
  | skipSession hpc hclosed => exact fun _ => hs.shut (by rw [hpc]; rfl)
  | stopped hpc => exact fun _ => hs.shut (by rw [hpc]; rfl)
  | stopSocket hpc => exact fun _ => hs.shut (by rw [hpc]; rfl)
  | join hpc hended => exact fun _ => hs.shut (by rw [hpc]; rfl)
  | pass hpc hcount => exact fun _ => hs.shut (by rw [hpc]; rfl)
  | _ => exact hs.shut

/-! ### Sessions without a worker -/

theorem Steps.keeps_unregistered (h : Steps clientIp host s thread t)
    (hs : s.Winding) (m : Nat) (hm : t.worker m = .absent) :
    (t.control m).isUdpEndpointRegistered = false := by
  cases h with
  | stopSession hpc =>
      exact (setSession_registered ..).trans (hs.unregistered m hm)
  | skipSession hpc hclosed =>
      exact (setSession_registered ..).trans (hs.unregistered m hm)
  | start hpc =>
      exact hs.unregistered m (worker_of_update (fun h => by cases h) hm).2
  | go hgoes =>
      exact hs.unregistered m (worker_of_update hgoes.ne_absent.2 hm).2
  | handle type payloadBytes hreceiving =>
      obtain ⟨hmn, hm⟩ := worker_of_update (afterMessage_place _ _ _).2 hm
      have hkept := hs.unregistered m hm
      show (Function.update s.control _ _ m).isUdpEndpointRegistered = false
      rwa [Function.update_of_ne hmn]
  | erase hpc hmapped =>
      exact hs.unregistered m (worker_of_update (fun h => by cases h) hm).2
  | exchange hpc =>
      have hold := worker_of_update (s := s) (fun h => by cases h) hm
      exact (setSession_registered ..).trans (hs.unregistered m hold.2)
  | yield hpc hclosed =>
      have hold := worker_of_update (s := s) (fun h => by cases h) hm
      exact (setSession_registered ..).trans (hs.unregistered m hold.2)
  | close hpc =>
      have hold := worker_of_update (s := s) (fun h => by cases h) hm
      exact hs.unregistered m hold.2
  | finish hpc =>
      exact hs.unregistered m (worker_of_update (fun h => by cases h) hm).2
  | _ => exact hs.unregistered m hm

theorem Steps.keeps_started (h : Steps clientIp host s thread t)
    (hs : s.Winding) (m : Nat) (hopen : t.socketOpen m = true)
    (hm : t.worker m = .absent) : t.accept.session = some m := by
  -- the accept thread has no session where it takes the next connection
  have hnone : s.accept.session = none → s.socketOpen m = true →
      s.worker m = .absent → t.accept.session = some m := by
    intro hnone hopen hm
    rw [hs.started m hopen hm] at hnone
    cases hnone
  cases h with
  | test hpc => exact hnone (by rw [hpc]; rfl) hopen hm
  | fail hpc => exact hnone (by rw [hpc]; rfl) hopen hm
  | connect hpc hlistener => exact hnone (by rw [hpc]; rfl) hopen hm
  | refuse hpc hcleared => exact hnone (by rw [hpc]; rfl) hopen hm
  | number hpc hrunning =>
      have hopen : Function.update s.socketOpen s.nextSessionId true m
          = true := hopen
      by_cases hnew : m = s.nextSessionId
      · rw [hnew]
        rfl
      · rw [Function.update_of_ne hnew] at hopen
        exact hnone (by rw [hpc]; rfl) hopen hm
  | add hpc =>
      have hold := hs.started m hopen hm
      rw [hpc] at hold
      exact hold
  | count hpc =>
      have hold := hs.started m hopen hm
      rw [hpc] at hold
      exact hold
  | start hpc =>
      obtain ⟨hmn, hm⟩ := worker_of_update (fun h => by cases h) hm
      have hold := hs.started m hopen hm
      rw [hpc] at hold
      exact absurd (Option.some.inj hold).symm hmn
  | stopSocket hpc =>
      exact hs.started m (update_open hopen).2 hm
  | go hgoes =>
      exact hs.started m hopen (worker_of_update hgoes.ne_absent.2 hm).2
  | handle type payloadBytes hreceiving =>
      exact hs.started m hopen
        (worker_of_update (afterMessage_place _ _ _).2 hm).2
  | erase hpc hmapped =>
      exact hs.started m hopen (worker_of_update (fun h => by cases h) hm).2
  | exchange hpc =>
      have hold := worker_of_update (s := s) (fun h => by cases h) hm
      exact hs.started m hopen hold.2
  | yield hpc hclosed =>
      have hold := worker_of_update (s := s) (fun h => by cases h) hm
      exact hs.started m hopen hold.2
  | close hpc =>
      have hold := worker_of_update (s := s) (fun h => by cases h) hm
      exact hs.started m (update_open hopen).2 hold.2
  | finish hpc =>
      exact hs.started m hopen (worker_of_update (fun h => by cases h) hm).2
  | _ => exact hs.started m hopen hm

/-! ### The flag of the session -/

omit [FloatArith F] in
theorem hasStopped_of_update {n m : Nat} {pc : ControlWorkerPc}
    (hpc : pc.hasStoppedSession = false)
    (h : (Function.update s.worker n pc m).hasStoppedSession = true) :
    (s.worker m).hasStoppedSession = true := by
  by_cases hmn : m = n
  · rw [hmn, Function.update_self, hpc] at h
    cases h
  · rwa [Function.update_of_ne hmn] at h

theorem Steps.keeps_stopped (h : Steps clientIp host s thread t)
    (hlisted : s.Listed) (hs : s.Winding) (m : Nat)
    (hm : (t.worker m).hasStoppedSession = true) :
    t.controlClosed m = true := by
  have hupdate : ∀ {n : Nat} {pc : ControlWorkerPc},
      s.controlClosed n = true →
      (Function.update s.worker n pc m).hasStoppedSession = true →
      s.controlClosed m = true := by
    intro n pc hclosed hm
    by_cases hmn : m = n
    · rw [hmn]
      exact hclosed
    · rw [Function.update_of_ne hmn] at hm
      exact hs.stopped m hm
  cases h with
  | stopSession hpc => exact stopSession_closed (hs.stopped m hm)
  | skipSession hpc hclosed => exact stopSession_closed (hs.stopped m hm)
  | start hpc => exact hs.stopped m (hasStopped_of_update rfl hm)
  | go hgoes =>
      exact hs.stopped m (hasStopped_of_update (hgoes.stopped hlisted) hm)
  | handle type payloadBytes hreceiving =>
      rw [handle_controlClosed]
      exact hs.stopped m
        (hasStopped_of_update (afterMessage_place _ _ _).1 hm)
  | erase hpc hmapped => exact hs.stopped m (hasStopped_of_update rfl hm)
  | @exchange n hpc =>
      show (s.setSession n _).controlClosed m = true
      by_cases hmn : m = n
      · rw [setSession_controlClosed, if_pos hmn]
        rfl
      · have hm : (Function.update s.worker n .closing m).hasStoppedSession
            = true := hm
        rw [Function.update_of_ne hmn] at hm
        exact stopSession_closed (hs.stopped m hm)
  | yield hpc hclosed => exact stopSession_closed (hupdate hclosed hm)
  | close hpc => exact hupdate (hs.stopped _ (by rw [hpc]; rfl)) hm
  | finish hpc => exact hupdate (hs.stopped _ (by rw [hpc]; rfl)) hm
  | _ => exact hs.stopped m hm

/-! ### The sockets that stay open -/

omit [FloatArith F] in
theorem Late.frame {m : Nat} (hs : s.Late m)
    (hworker : t.worker m = s.worker m)
    (hflag : (t.control m).isUdpEndpointRegistered
      = (s.control m).isUdpEndpointRegistered) : t.Late m := by
  unfold Late
  rw [hworker, hflag]
  exact hs

omit [FloatArith F] in
/-- Whoever is out of the map when the snapshot is taken. -/
theorem Orderly.late_of_unmapped (hs : s.Orderly) (hw : s.Winding) {m : Nat}
    (hstop : ∀ rest, s.stop ≠ .closingSocket m rest)
    (hunmapped : m ∉ s.sessions) (hopen : s.socketOpen m = true) :
    s.Late m := by
  have hpast : (s.worker m).hasStoppedSession = true →
      s.worker m = .closing := by
    intro hpast
    rcases hs.closes m (hw.stopped m hpast) with hshut | ⟨rest, hrest⟩ | hpc
    · rw [hopen] at hshut
      cases hshut
    · exact absurd hrest (hstop rest)
    · exact hpc
  have hlisted : (s.worker m).isListed = false := by
    by_contra hlisted
    exact hunmapped (hs.listed.workers m (by simpa using hlisted))
  cases hpc : s.worker m with
  | absent =>
      exact Or.inr (Or.inr ⟨by rw [hpc]; rfl, hw.unregistered m hpc⟩)
  | stopping => exact Or.inl hpc
  | closing => exact Or.inr (Or.inl hpc)
  | counting => cases (hpast (by rw [hpc]; rfl)).symm.trans hpc
  | done => cases (hpast (by rw [hpc]; rfl)).symm.trans hpc
  | _ =>
      rw [hpc] at hlisted
      cases hlisted

omit [FloatArith F] in
theorem Late.not_receiving {m : Nat} (hs : s.Late m) :
    (s.worker m).isReceiving = false := by
  rcases hs with hpc | hpc | ⟨hlate, -⟩
  · rw [hpc]
    rfl
  · rw [hpc]
    rfl
  · cases hreceiving : (s.worker m).isReceiving with
    | false => rfl
    | true =>
        rw [ControlWorkerPc.isLate_of_isReceiving hreceiving] at hlate
        cases hlate

theorem Steps.keeps_late (h : Steps clientIp host s thread t)
    (horderly : s.Orderly) (hs : s.Winding) (m : Nat)
    (hopen : t.socketOpen m = true) : t.stop.Covers m ∨ t.Late m := by
  cases h with
  | clear hpc => exact Or.inl trivial
  | closeListener hpc => exact Or.inl trivial
  | stopSnapshot hpc horder =>
      by_cases hmapped : m ∈ s.sessions
      · exact Or.inl (horder.mem_iff.mpr hmapped)
      · exact Or.inr (horderly.late_of_unmapped hs (by simp [hpc]) hmapped
          hopen)
  | stopSession hpc =>
      have hlate := hs.late m hopen
      rw [hpc] at hlate
      rcases hlate with hcovers | hlate
      · exact Or.inl (List.mem_cons.mp hcovers)
      · exact Or.inr (hlate.frame rfl (setSession_registered ..))
  | @skipSession n rest hpc hclosed =>
      have hlate := hs.late m hopen
      rw [hpc] at hlate
      rcases hlate with hcovers | hlate
      · rcases List.mem_cons.mp hcovers with rfl | hrest
        · rcases horderly.closes m hclosed with hshut | ⟨_, hstop⟩ | hworker
          · exact absurd (hshut.symm.trans hopen) (by decide)
          · rw [hpc] at hstop
            cases hstop
          · exact Or.inr (Or.inr (Or.inl hworker))
        · exact Or.inl hrest
      · exact Or.inr (hlate.frame rfl (setSession_registered ..))
  | stopped hpc =>
      have hlate := hs.late m hopen
      rw [hpc] at hlate
      rcases hlate with hcovers | hlate
      · cases hcovers
      · exact Or.inr hlate
  | stopSocket hpc =>
      obtain ⟨hmn, hopen⟩ := update_open hopen
      have hlate := hs.late m hopen
      rw [hpc] at hlate
      rcases hlate with (rfl | hrest) | hlate
      · exact absurd rfl hmn
      · exact Or.inl hrest
      · exact Or.inr hlate
  | join hpc hended =>
      have hlate := hs.late m hopen
      rw [hpc] at hlate
      exact Or.inr (hlate.resolve_left id)
  | pass hpc hcount =>
      have hlate := hs.late m hopen
      rw [hpc] at hlate
      exact Or.inr (hlate.resolve_left id)
  | number hpc hrunning =>
      left
      show s.stop.Covers m
      rw [horderly.flagged hrunning]
      trivial
  | @start n hpc =>
      refine (hs.late m hopen).imp_right fun hlate => ?_
      have habsent := horderly.fresh.absent n (Or.inl (by rw [hpc]; rfl))
      by_cases hmn : m = n
      · subst hmn
        have htesting : Function.update s.worker m .testing m = .testing :=
          Function.update_self ..
        refine Or.inr (Or.inr ⟨?_, hs.unregistered m habsent⟩)
        show (Function.update s.worker m .testing m).isLate = true
        rw [htesting]
        rfl
      · exact hlate.frame (Function.update_of_ne hmn ..) rfl
  | @go n pc hgoes =>
      by_cases hmn : m = n
      · subst hmn
        exact hgoes.late horderly.flagged horderly.listed (hs.late m hopen)
      · exact (hs.late m hopen).imp_right fun hlate =>
          hlate.frame (Function.update_of_ne hmn ..) rfl
  | @handle n type payloadBytes hreceiving =>
      refine (hs.late m hopen).imp_right fun hlate => ?_
      have hmn : m ≠ n := by
        rintro rfl
        rw [hlate.not_receiving] at hreceiving
        cases hreceiving
      refine hlate.frame (Function.update_of_ne hmn ..) ?_
      show (Function.update s.control n _ m).isUdpEndpointRegistered = _
      rw [Function.update_of_ne hmn]
  | @erase n hpc hmapped =>
      by_cases hmn : m = n
      · subst hmn
        exact Or.inr (Or.inl (Function.update_self ..))
      · exact (hs.late m hopen).imp_right fun hlate =>
          hlate.frame (Function.update_of_ne hmn ..) rfl
  | @exchange n hpc =>
      by_cases hmn : m = n
      · subst hmn
        exact Or.inr (Or.inr (Or.inl (Function.update_self ..)))
      · exact (hs.late m hopen).imp_right fun hlate =>
          hlate.frame (Function.update_of_ne hmn ..)
            (setSession_registered ..)
  | @yield n hpc hclosed =>
      by_cases hmn : m = n
      · subst hmn
        rcases horderly.closes m hclosed with hshut | ⟨rest, hstop⟩ | hworker
        · exact absurd (hshut.symm.trans hopen) (by decide)
        · left
          show s.stop.Covers m
          rw [hstop]
          exact Or.inl rfl
        · cases hworker.symm.trans hpc
      · exact (hs.late m hopen).imp_right fun hlate =>
          hlate.frame (Function.update_of_ne hmn ..)
            (setSession_registered ..)
  | @close n hpc =>
      obtain ⟨hmn, hopen⟩ := update_open hopen
      exact (hs.late m hopen).imp_right fun hlate =>
        hlate.frame (Function.update_of_ne hmn ..) rfl
  | @finish n hpc =>
      refine (hs.late m hopen).imp_right fun hlate => ?_
      have hmn : m ≠ n := by
        rintro rfl
        simp [Late, hpc, ControlWorkerPc.isLate] at hlate
      exact hlate.frame (Function.update_of_ne hmn ..) rfl
  | _ => exact hs.late m hopen

theorem winding_step (h : Steps clientIp host s thread t)
    (horderly : s.Orderly) (hs : s.Winding) : t.Winding :=
  ⟨h.keeps_room hs, h.keeps_shut hs, h.keeps_unregistered hs,
    h.keeps_stopped horderly.listed hs, h.keeps_started hs,
    h.keeps_late horderly hs⟩

theorem winding_reachable (h : (system clientIp host).Reachable s) :
    s.Winding := by
  have hinv : s.Orderly ∧ s.Winding := by
    refine Lts.ReachableUnder.invariant
      (I := fun s : ControlThreads F => s.Orderly ∧ s.Winding) h ?_ ?_
    · rintro _ rfl
      refine ⟨orderly_started, Nat.zero_le _, fun h => (nomatch h),
        fun _ _ => rfl, fun _ h => (nomatch h), fun _ h => (nomatch h),
        fun _ h => (nomatch h)⟩
    · intro s a t hs _ hstep
      exact ⟨(moves_of_step hstep).orderly hs.1,
        winding_step (steps_of_step hstep) hs.1 hs.2⟩
  exact hinv.2

end

end ControlThreads

end NetworkControl
