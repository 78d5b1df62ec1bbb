import NetworkControl.ClientOrder
import NetworkControl.Fairness

/-!
# The client's threads do not wait for each other for ever

Along fair runs: whoever holds `connectionMutex_` lets go of it
(`mutex_released`), and every `Disconnect` returns (`disconnect_returns`).
Fair is that none of the four threads stays able to move for ever without
moving; nothing is asked of the server, nor of the order in which the
threads are let under the mutex.

The holder helps, or the worker it is joining. That worker has been told
to stop, on a closed socket, so it comes to its end by itself; `workers`
counts the steps it may still need, and the rank the statements as well.
-/

namespace NetworkControl

/-! ## The workers -/

/-- The steps a worker that is to stop may still take. -/
def TcpWorkerPc.rank : TcpWorkerPc → Nat
  | receiving => 3
  | failing => 2
  | testing => 1
  | _ => 0

theorem TcpWorkerPc.rank_le (pc : TcpWorkerPc) : pc.rank ≤ 3 := by
  cases pc <;> decide

def UdpWorkerPc.rank : UdpWorkerPc → Nat
  | receiving => 2
  | testing => 1
  | _ => 0

/-- More than the statements it may decide on. -/
def WatchdogPc.toInspect : WatchdogPc → Nat
  | inspecting => 400
  | _ => 0

theorem WatchdogPc.toInspect_of_ne {pc : WatchdogPc}
    (h : pc ≠ .inspecting) : pc.toInspect = 0 := by
  cases pc with
  | inspecting => exact absurd rfl h
  | _ => rfl

namespace ReceiverMember

variable {r r' : ReceiverMember} {tcpSocketOpen : Bool}

/-- One more than that as long as it is not to stop. -/
def load (r : ReceiverMember) : Nat :=
  if r.isRunning then 4 else r.worker.rank

theorem load_le (r : ReceiverMember) : r.load ≤ 4 := by
  have := r.worker.rank_le
  unfold load
  split <;> omega

/-- A step of the receiver is one nearer to its end, unless it is not to
stop. -/
def Nears (r r' : ReceiverMember) : Prop :=
  r'.load < r.load ∨ r.isRunning = true ∧ r'.load = r.load

theorem Moved.nears (h : r.Moved r')
    (hrank : r.isRunning = false → r'.worker.rank < r.worker.rank) :
    r.Nears r' := by
  unfold Nears load
  rw [h.isRunning]
  cases hrunning : r.isRunning with
  | false => exact Or.inl (hrank hrunning)
  | true => exact Or.inr ⟨rfl, rfl⟩

theorem next_nears (h : r.next tcpSocketOpen = some r') : r.Nears r' := by
  refine (next_moved h).nears fun hstopped => ?_
  unfold next at h
  split at h
  · rename_i hpc
    obtain rfl := Option.some.inj h
    simp [hpc, hstopped, TcpWorkerPc.rank]
  · rename_i hpc
    split at h
    · cases h
    · obtain rfl := Option.some.inj h
      simp [hpc, TcpWorkerPc.rank]
  · rename_i hpc
    obtain rfl := Option.some.inj h
    simp [hpc, TcpWorkerPc.rank]
  · cases h
  · cases h

theorem receive_nears {handled : Bool}
    (h : r.receive handled tcpSocketOpen = some r') : r.Nears r' := by
  refine (receive_moved h).nears fun _ => ?_
  rw [receive] at h
  split at h
  · rename_i hpc
    obtain rfl := Option.some.inj h
    cases handled <;> simp [hpc.1, TcpWorkerPc.rank]
  · cases h

end ReceiverMember

namespace ClientThreads

open LockedStatement

inductive ClientThread where
  | caller
  | watchdog
  | tcpWorker
  | udpWorker
deriving DecidableEq, Repr

/-- Whose move an action is: no thread's where somebody calls, or where
the server does something. -/
def Action.thread : Action → Option ClientThread
  | .caller _ => some .caller
  | .watchdog _ _ => some .watchdog
  | .tcpWorker => some .tcpWorker
  | .udpWorker => some .udpWorker
  | _ => none

def moves (thread : ClientThread) (a : Action) : Prop :=
  a.thread = some thread

/-! ## Waiting for a worker -/

/-- The worker a statement waits for. -/
def blocks (s : ClientThreads) : LockedStatement → Option ClientThread
  | joinReceiver =>
      if s.tcpMessageReceiver.any (·.worker.isAlive) then some .tcpWorker
      else none
  | joinUdp => if s.udpWorker.isAlive then some .udpWorker else none
  | _ => none

def blockedOn (s : ClientThreads) : Option ClientThread :=
  s.work.head?.bind s.blocks

def udpLoad (s : ClientThreads) : Nat :=
  if s.udpIsRunning then 3 else s.udpWorker.rank

def workers (s : ClientThreads) : Nat :=
  s.tcpMessageReceiver.elim 0 ReceiverMember.load + s.udpLoad

section

variable {s t : ClientThreads} {final : Phase → Bool} {fails : Bool}
  {statement : LockedStatement} {rest work : List LockedStatement}

theorem workers_le : s.workers ≤ 7 := by
  have htcp : s.tcpMessageReceiver.elim 0 ReceiverMember.load ≤ 4 := by
    cases s.tcpMessageReceiver with
    | none => exact Nat.zero_le 4
    | some r => exact r.load_le
  have hudp : s.udpLoad ≤ 3 := by
    unfold udpLoad
    split
    · exact Nat.le_refl 3
    · cases s.udpWorker <;> decide
  unfold workers
  omega

/-- A statement that waits for nobody is done. -/
theorem perform_isSome (hfree : s.blocks statement = none) (fails : Bool)
    (rest : List LockedStatement) :
    (s.perform fails rest statement).isSome = true := by
  cases statement with
  | joinReceiver =>
      rw [blocks] at hfree
      split at hfree
      · cases hfree
      · rename_i hended
        rw [perform, if_neg hended]
        rfl
  | joinUdp =>
      rw [blocks] at hfree
      split at hfree
      · cases hfree
      · rename_i hended
        rw [perform, if_neg hended]
        rfl
  | makeReceiver =>
      rw [perform]
      split <;> rfl
  | startWatchdog =>
      rw [perform]
      split <;> rfl
  | _ => rfl

/-- A worker that is waited for has been told to stop, and what it may
block on is closed. -/
theorem Safe.blocks (h : s.Safe final (statement :: rest)) :
    s.blocks statement = none
      ∨ (statement = joinReceiver ∧ s.blocks statement = some .tcpWorker
        ∧ ∃ r, s.tcpMessageReceiver = some r ∧ r.worker.isAlive = true
          ∧ r.isRunning = false ∧ s.tcpSocketOpen = false)
      ∨ (statement = joinUdp ∧ s.blocks statement = some .udpWorker
        ∧ s.udpWorker.isAlive = true ∧ s.udpIsRunning = false) := by
  cases statement with
  | joinReceiver =>
      cases halive : s.tcpMessageReceiver.any (·.worker.isAlive) with
      | false => exact Or.inl (by simp [ClientThreads.blocks, halive])
      | true =>
          refine Or.inr (Or.inl ⟨rfl, by simp [ClientThreads.blocks, halive],
            ?_⟩)
          obtain ⟨r, hr, hworker⟩ := (Option.any_eq_true _ _).mp halive
          obtain ⟨hclosed, r₀, hr₀, hstopped⟩ := h.before_joinReceiver
          obtain rfl := Option.some.inj (hr₀.symm.trans hr)
          exact ⟨r₀, hr, hworker, hstopped, hclosed⟩
  | joinUdp =>
      cases halive : s.udpWorker.isAlive with
      | false => exact Or.inl (by simp [ClientThreads.blocks, halive])
      | true =>
          exact Or.inr (Or.inr ⟨rfl, by simp [ClientThreads.blocks, halive],
            rfl, h.before_joinUdp⟩)
  | _ => exact Or.inl rfl

/-- A safe statement adds none. -/
theorem Safe.length_le (h : s.Safe final (statement :: rest))
    (hperform : s.perform fails rest statement = some (t, work)) :
    work.length ≤ rest.length := by
  obtain ⟨-, p, ⟨-, hreceiver, -, -⟩, hsafe⟩ := h
  cases statement with
  | joinReceiver =>
      rw [perform] at hperform
      split at hperform
      · cases hperform
      · obtain ⟨-, rfl⟩ := Prod.mk.inj (Option.some.inj hperform)
        exact Nat.le_refl _
  | joinUdp =>
      rw [perform] at hperform
      split at hperform
      · cases hperform
      · obtain ⟨-, rfl⟩ := Prod.mk.inj (Option.some.inj hperform)
        exact Nat.le_refl _
  | attempt step =>
      obtain ⟨-, rfl⟩ := Prod.mk.inj (Option.some.inj hperform)
      split
      · exact Nat.zero_le _
      · exact Nat.le_refl _
  | makeReceiver =>
      obtain ⟨q, hq, -⟩ := (Option.any_eq_true _ _).mp hsafe
      rw [Phase.after] at hq
      split at hq
      · rename_i hnone
        rw [hnone] at hreceiver
        rw [perform, show s.tcpMessageReceiver = none from hreceiver]
          at hperform
        obtain ⟨-, rfl⟩ := Prod.mk.inj (Option.some.inj hperform)
        exact Nat.le_refl _
      · cases hq
  | startWatchdog =>
      rw [perform] at hperform
      split at hperform
      · obtain ⟨-, rfl⟩ := Prod.mk.inj (Option.some.inj hperform)
        exact Nat.le_refl _
      · obtain ⟨-, rfl⟩ := Prod.mk.inj (Option.some.inj hperform)
        exact Nat.le_refl _
  | _ =>
      obtain ⟨-, rfl⟩ := Prod.mk.inj (Option.some.inj hperform)
      exact Nat.le_refl _

/-! ## A worker's step -/

/-- Nearer to the end of a worker that is to stop; otherwise nobody waits
for the one that moved. -/
structure WorkerMoves (s t : ClientThreads) (a : Action) : Prop where
  caller : t.caller = s.caller
  watchdog : t.watchdog = s.watchdog
  connectionMutex : t.connectionMutex = s.connectionMutex
  nearer : t.workers < s.workers
    ∨ t.workers = s.workers ∧ t.blockedOn = s.blockedOn
      ∧ ∀ thread, moves thread a → s.blockedOn ≠ some thread
        ∧ thread ≠ .caller ∧ thread ≠ .watchdog

theorem WorkerMoves.work_eq {a : Action} (h : WorkerMoves s t a) :
    t.work = s.work := by
  rw [ClientThreads.work, ClientThreads.work, h.caller, h.watchdog,
    h.connectionMutex]

theorem blocks_tcpWorker (h : s.blocks statement = some .tcpWorker) :
    statement = joinReceiver := by
  cases statement with
  | joinReceiver => rfl
  | joinUdp =>
      rw [blocks] at h
      split at h <;> cases h
  | _ => cases h

theorem blocks_udpWorker (h : s.blocks statement = some .udpWorker) :
    statement = joinUdp := by
  cases statement with
  | joinUdp => rfl
  | joinReceiver =>
      rw [blocks] at h
      split at h <;> cases h
  | _ => cases h

/-- A receiver that is not to stop is not about to be joined. -/
theorem Orderly.not_joinReceiver (hs : s.Orderly) {r : ReceiverMember}
    (hr : s.tcpMessageReceiver = some r) (hrunning : r.isRunning = true) :
    s.work.head? ≠ some joinReceiver := by
  intro hhead
  obtain ⟨rest, hwork⟩ := List.head?_eq_some_iff.mp hhead
  have hsafe := hs.safe
  rw [hwork] at hsafe
  obtain ⟨-, r₀, hr₀, hstopped⟩ := hsafe.before_joinReceiver
  obtain rfl := Option.some.inj (hr₀.symm.trans hr)
  rw [hrunning] at hstopped
  cases hstopped

theorem Orderly.not_joinUdp (hs : s.Orderly)
    (hrunning : s.udpIsRunning = true) : s.work.head? ≠ some joinUdp := by
  intro hhead
  obtain ⟨rest, hwork⟩ := List.head?_eq_some_iff.mp hhead
  have hsafe := hs.safe
  rw [hwork] at hsafe
  rw [hsafe.before_joinUdp] at hrunning
  cases hrunning

theorem receiverStep_workerMoves {a : Action}
    {next : ReceiverMember → Bool → Option ReceiverMember} (hs : s.Orderly)
    (hnears : ∀ r tcpSocketOpen r', next r tcpSocketOpen = some r' →
      r.Nears r')
    (hthread : ∀ thread, moves thread a → thread = .tcpWorker)
    (h : s.receiverStep next = some t) : WorkerMoves s t a := by
  obtain ⟨r, r', hr, hnext, rfl⟩ := receiverStep_cases h
  refine ⟨rfl, rfl, rfl, ?_⟩
  have hbefore : s.workers = r.load + s.udpLoad := by
    rw [workers, hr]
    rfl
  rcases hnears _ _ _ hnext with hless | ⟨hrunning, hsame⟩
  · refine Or.inl ?_
    rw [hbefore]
    exact Nat.add_lt_add_right hless _
  · have hnot := hs.not_joinReceiver hr hrunning
    refine Or.inr ⟨?_, ?_, fun thread hmoves => ?_⟩
    · rw [hbefore]
      exact congrArg (· + s.udpLoad) hsame
    · rw [blockedOn, blockedOn]
      show s.work.head?.bind _ = _
      cases hhead : s.work.head? with
      | none => rfl
      | some statement =>
          cases statement with
          | joinReceiver => exact absurd hhead hnot
          | _ => rfl
    · obtain rfl := hthread thread hmoves
      refine ⟨fun hblocked => ?_, by decide, by decide⟩
      obtain ⟨statement, hhead, hblocks⟩ := Option.bind_eq_some_iff.mp hblocked
      rw [blocks_tcpWorker hblocks] at hhead
      exact hnot hhead

theorem tcpWorker_workerMoves (hs : s.Orderly)
    (h : s.receiverStep ReceiverMember.next = some t) :
    WorkerMoves s t .tcpWorker := by
  have hthread : ∀ thread, moves thread .tcpWorker → thread = .tcpWorker :=
    fun _ hmoves => (Option.some.inj hmoves).symm
  exact receiverStep_workerMoves hs (fun _ _ _ => ReceiverMember.next_nears)
    hthread h

theorem received_workerMoves {handled : Bool} (hs : s.Orderly)
    (h : s.receiverStep (ReceiverMember.receive handled) = some t) :
    WorkerMoves s t (.received handled) :=
  receiverStep_workerMoves hs (fun _ _ _ => ReceiverMember.receive_nears)
    (fun _ hmoves => by cases hmoves) h

theorem udpWorkerStep_workerMoves (hs : s.Orderly)
    (h : s.udpWorkerStep = some t) : WorkerMoves s t .udpWorker := by
  have hnears : t.udpLoad < s.udpLoad
      ∨ s.udpIsRunning = true ∧ t.udpLoad = s.udpLoad := by
    unfold udpWorkerStep at h
    cases hrunning : s.udpIsRunning with
    | true =>
        obtain ⟨pc, rfl, -⟩ := udpWorkerStep_cases h
        exact Or.inr ⟨rfl, by simp [udpLoad, hrunning]⟩
    | false =>
        refine Or.inl ?_
        split at h
        · rename_i hpc
          obtain rfl := Option.some.inj h
          simp [udpLoad, hrunning, hpc, UdpWorkerPc.rank]
        · rename_i hpc
          obtain rfl := Option.some.inj h
          simp [udpLoad, hrunning, hpc, UdpWorkerPc.rank]
        · cases h
        · cases h
  obtain ⟨pc, rfl, -⟩ := udpWorkerStep_cases h
  refine ⟨rfl, rfl, rfl, ?_⟩
  rcases hnears with hless | ⟨hrunning, hsame⟩
  · exact Or.inl (Nat.add_lt_add_left hless _)
  · have hnot := hs.not_joinUdp hrunning
    refine Or.inr ⟨congrArg (_ + ·) hsame, ?_, fun thread hmoves => ?_⟩
    · rw [blockedOn, blockedOn]
      show s.work.head?.bind _ = _
      cases hhead : s.work.head? with
      | none => rfl
      | some statement =>
          cases statement with
          | joinUdp => exact absurd hhead hnot
          | _ => rfl
    · obtain rfl := Option.some.inj hmoves
      refine ⟨fun hblocked => ?_, by decide, by decide⟩
      obtain ⟨statement, hhead, hblocks⟩ := Option.bind_eq_some_iff.mp hblocked
      rw [blocks_udpWorker hblocks] at hhead
      exact hnot hhead

/-! ## The one that can move -/

/-- Who is under the mutex, if anybody is. -/
def holder (s : ClientThreads) : ClientThread :=
  match s.connectionMutex with
  | some .watchdog => .watchdog
  | _ => .caller

/-- The holder, or the worker it waits for. -/
def helper (s : ClientThreads) : ClientThread :=
  s.blockedOn.getD s.holder

theorem step_caller (hs : s.Orderly) (fails : Bool) :
    s.step (.caller fails) = s.callerStep fails := by
  simp [ClientThreads.step, hs.safe.1]

theorem step_watchdog (hs : s.Orderly) (retryTimeReached fails : Bool) :
    s.step (.watchdog retryTimeReached fails)
      = s.watchdogStep retryTimeReached fails := by
  simp [ClientThreads.step, hs.safe.1]

/-- The holder moves on unless it waits for a worker. -/
theorem Orderly.holder_enabled (hs : s.Orderly)
    (hheld : s.connectionMutex ≠ none)
    (hfree : ∀ statement rest, s.work = statement :: rest →
      s.blocks statement = none) :
    system.Enabled (moves s.holder) s := by
  cases hmutex : s.connectionMutex with
  | none => exact absurd hmutex hheld
  | some who =>
      cases who with
      | caller =>
          have hholds := hs.caller.mp hmutex
          refine ⟨.caller false, by simp [moves, Action.thread, holder, hmutex],
            ?_⟩
          show (s.step (.caller false)).isSome = true
          rw [step_caller hs, ClientThreads.callerStep]
          cases hpc : s.caller with
          | connecting work =>
              cases work with
              | nil => rfl
              | cons statement rest =>
                  have hone := hfree statement rest
                    (by simp [ClientThreads.work, hmutex, hpc, CallerPc.work])
                  simp [perform_isSome hone]
          | disconnecting work =>
              cases work with
              | nil => rfl
              | cons statement rest =>
                  have hone := hfree statement rest
                    (by simp [ClientThreads.work, hmutex, hpc, CallerPc.work])
                  simp [perform_isSome hone]
          | _ =>
              rw [hpc] at hholds
              cases hholds
      | watchdog =>
          have hholds := hs.watchdog.mp hmutex
          refine ⟨.watchdog false false,
            by simp [moves, Action.thread, holder, hmutex], ?_⟩
          show (s.step (.watchdog false false)).isSome = true
          rw [step_watchdog hs, ClientThreads.watchdogStep]
          cases hpc : s.watchdog with
          | inspecting => rfl
          | holding work =>
              cases work with
              | nil => rfl
              | cons statement rest =>
                  have hone := hfree statement rest
                    (by simp [ClientThreads.work, hmutex, hpc, WatchdogPc.work])
                  simp [perform_isSome hone]
          | _ =>
              rw [hpc] at hholds
              cases hholds

theorem Orderly.helper_enabled (hs : s.Orderly)
    (hheld : s.connectionMutex ≠ none) :
    system.Enabled (moves s.helper) s := by
  have hsafe := hs.safe
  cases hwork : s.work with
  | nil =>
      rw [helper, show s.blockedOn = none by rw [blockedOn, hwork]; rfl]
      refine hs.holder_enabled hheld fun statement rest hcons => ?_
      rw [hwork] at hcons
      cases hcons
  | cons statement rest =>
      rw [hwork] at hsafe
      have hblocked : s.blockedOn = s.blocks statement := by
        rw [blockedOn, hwork]
        rfl
      rcases hsafe.blocks with hfree | ⟨-, hblocks, r, hr, halive, -, hclosed⟩
        | ⟨-, hblocks, halive, -⟩
      · rw [helper, hblocked, hfree]
        refine hs.holder_enabled hheld fun statement' rest' hcons => ?_
        rw [hwork] at hcons
        obtain ⟨rfl, -⟩ := List.cons.inj hcons
        exact hfree
      · rw [helper, hblocked, hblocks]
        refine ⟨.tcpWorker, rfl, ?_⟩
        show (s.step .tcpWorker).isSome = true
        simp only [ClientThreads.step, hs.safe.1]
        cases hpc : r.worker with
        | absent =>
            rw [hpc] at halive
            cases halive
        | ended =>
            rw [hpc] at halive
            cases halive
        | _ =>
            simp [ClientThreads.receiverStep, hr, hclosed, ReceiverMember.next,
              hpc]
      · rw [helper, hblocked, hblocks]
        refine ⟨.udpWorker, rfl, ?_⟩
        show (s.step .udpWorker).isSome = true
        simp only [ClientThreads.step, hs.safe.1, udpWorkerStep]
        cases hpc : s.udpWorker with
        | absent =>
            rw [hpc] at halive
            cases halive
        | ended =>
            rw [hpc] at halive
            cases halive
        | _ => rfl

/-! ## Letting go of the mutex -/

theorem teardownConnectionLocked_length :
    s.teardownConnectionLocked.length ≤ 11 := by
  unfold teardownConnectionLocked
  split <;> decide

theorem watchdogIteration_length (retryTimeReached : Bool) :
    (s.watchdogIteration retryTimeReached).length ≤ 13 := by
  have hdown := teardownConnectionLocked_length (s := s)
  unfold watchdogIteration
  split
  · split
    · split
      · rw [List.length_append]
        exact Nat.add_le_add hdown (Nat.le_add_left 1 1)
      · exact Nat.zero_le _
    · exact Nat.zero_le _
  · split
    · exact Nat.le_refl _
    · exact Nat.zero_le _
  · exact Nat.zero_le _

/-- A statement weighs more than what it may set the workers to do. -/
def load (s : ClientThreads) : Nat :=
  16 * s.work.length + s.workers

theorem load_of_work {n : Nat} (h : s.work.length ≤ n) :
    s.load ≤ 16 * n + 7 := by
  have := workers_le (s := s)
  unfold load
  omega

theorem load_lt {statement : LockedStatement} {rest : List LockedStatement}
    (hs : s.work = statement :: rest) (ht : t.work.length ≤ rest.length) :
    t.load < s.load := by
  have hafter := load_of_work ht
  have hbefore : s.load = 16 * (rest.length + 1) + s.workers := by
    rw [load, hs]
    rfl
  omega

/-- With a watchdog that has still to look around. -/
def rank (s : ClientThreads) : Nat :=
  s.watchdog.toInspect + s.load

def Held (s : ClientThreads) : Prop := s.connectionMutex ≠ none

/-- What the rule asks of a step, while the mutex is held. -/
def HeldStep (s : ClientThreads) (a : Action) (t : ClientThreads) : Prop :=
  Lts.Behavior.Helps moves Held rank helper s a t

theorem rank_of_places (hwatchdog : t.watchdog = s.watchdog)
    (hload : t.load = s.load) : t.rank = s.rank := by
  rw [rank, rank, hwatchdog, hload]

theorem helper_of_places (hmutex : t.connectionMutex = s.connectionMutex)
    (hblocked : t.blockedOn = s.blockedOn) : t.helper = s.helper := by
  rw [helper, helper, holder, holder, hmutex, hblocked]

/-- The helper is a worker only where it is waited for. -/
theorem helper_cases : s.blockedOn = some s.helper ∨ s.helper = s.holder := by
  unfold helper
  cases s.blockedOn with
  | none => exact Or.inr rfl
  | some thread => exact Or.inl rfl

theorem holder_cases : s.holder = .caller ∨ s.holder = .watchdog := by
  unfold holder
  split
  · exact Or.inr rfl
  · exact Or.inl rfl

/-- A worker nobody waits for is not the one that helps. -/
theorem helper_ne {thread : ClientThread} (hnot : s.blockedOn ≠ some thread)
    (hcaller : thread ≠ .caller) (hwatchdog : thread ≠ .watchdog) :
    s.helper ≠ thread := by
  intro hhelper
  rcases helper_cases with hwaits | hholder
  · rw [hhelper] at hwaits
    exact hnot hwaits
  · rcases holder_cases with hwho | hwho
    · exact hcaller (hhelper.symm.trans (hholder.trans hwho))
    · exact hwatchdog (hhelper.symm.trans (hholder.trans hwho))

theorem WorkerMoves.heldStep {a : Action} (h : WorkerMoves s t a) :
    HeldStep s a t := by
  have hwork := h.work_eq
  rcases h.nearer with hless | ⟨hsame, hblocked, hmine⟩
  · refine Or.inr (Or.inl ?_)
    unfold rank load
    rw [h.watchdog, hwork]
    omega
  · refine Or.inr (Or.inr ⟨?_, helper_of_places h.connectionMutex hblocked,
      fun hmoves => ?_⟩)
    · exact rank_of_places h.watchdog (by rw [load, load, hwork, hsame])
    · obtain ⟨hnot, hcaller, hwatchdog⟩ := hmine _ hmoves
      exact helper_ne hnot hcaller hwatchdog rfl

/-- The holder does a statement. -/
theorem rank_perform {statement : LockedStatement}
    {rest work : List LockedStatement} (hs : s.Orderly)
    (hwork : s.work = statement :: rest)
    (h : s.perform fails rest statement = some (t, work))
    {u : ClientThreads} (hu : u.work = work)
    (hwatchdog : u.watchdog ≠ .inspecting) : u.rank < s.rank := by
  have hsafe := hs.safe
  rw [hwork] at hsafe
  have hless := load_lt (t := u) hwork (by
    rw [hu]
    exact hsafe.length_le h)
  rw [rank, rank, WatchdogPc.toInspect_of_ne hwatchdog]
  omega

theorem Orderly.callerStep_held (hs : s.Orderly) (hheld : s.Held)
    (h : s.callerStep fails = some t) : HeldStep s (.caller fails) t := by
  have hwatching := hs.watching
  have hperforms : ∀ {statement rest} {u : ClientThreads} {work}
      {pc : CallerPc}, s.caller.holds = true →
      s.caller.work = statement :: rest → pc.holds = true → pc.work = work →
      s.perform fails rest statement = some (u, work) →
      HeldStep s (.caller fails) { u with caller := pc } := by
    intro statement rest u work pc hholds hplace hpc hpcWork hperform
    have hmutex := hs.caller.mpr hholds
    obtain ⟨hkept, -, hwatch, -⟩ := perform_frame hperform
    refine Or.inr (Or.inl (rank_perform hs ?_ hperform ?_ ?_))
    · simp only [ClientThreads.work, hmutex, hplace]
    · have hstill : u.connectionMutex = some .caller := hkept.trans hmutex
      simp only [ClientThreads.work, hstill]
      exact hpcWork
    · show u.watchdog ≠ .inspecting
      rcases hwatch with ⟨hsame, -⟩ | ⟨-, -, htesting, -⟩
      · intro hinspecting
        rw [hsame] at hinspecting
        have := hs.watchdog.mpr (by rw [hinspecting]; rfl)
        rw [hmutex] at this
        cases this
      · rw [htesting]
        decide
  unfold ClientThreads.callerStep at h
  split at h
  · cases h
  · split at h
    · rename_i hfree
      exact absurd hfree hheld
    · cases h
  · rename_i statement rest hpc
    obtain ⟨⟨u, work⟩, hperform, rfl⟩ := Option.map_eq_some_iff.mp h
    exact hperforms (by rw [hpc]; rfl) (by rw [hpc]; rfl) rfl rfl hperform
  · obtain rfl := Option.some.inj h
    exact Or.inl fun hstill => hstill rfl
  · rename_i hpc
    split at h
    · cases h
    · rename_i hended
      exact absurd (hs.mutex_free (by rw [hpc]; rfl)
        (holds_of_not_isAlive hended)) hheld
  · split at h
    · rename_i hfree
      exact absurd hfree hheld
    · cases h
  · rename_i statement rest hpc
    obtain ⟨⟨u, work⟩, hperform, rfl⟩ := Option.map_eq_some_iff.mp h
    exact hperforms (by rw [hpc]; rfl) (by rw [hpc]; rfl) rfl rfl hperform
  · obtain rfl := Option.some.inj h
    exact Or.inl fun hstill => hstill rfl

theorem Orderly.watchdogStep_held {retryTimeReached : Bool}
    (hs : s.Orderly) (hheld : s.Held)
    (h : s.watchdogStep retryTimeReached fails = some t) :
    HeldStep s (.watchdog retryTimeReached fails) t := by
  -- outside the mutex it is the caller that holds it
  have hplace : ∀ pc : WatchdogPc, s.watchdog.holds = false →
      pc ≠ .inspecting →
      HeldStep s (.watchdog retryTimeReached fails)
        { s with watchdog := pc } := by
    intro pc hfree hpc
    have hmutex : s.connectionMutex = some .caller := by
      cases hmutex : s.connectionMutex with
      | none => exact absurd hmutex hheld
      | some who =>
          cases who with
          | caller => rfl
          | watchdog =>
              rw [hs.watchdog.mp hmutex] at hfree
              cases hfree
    have hwork : ClientThreads.work { s with watchdog := pc } = s.work := by
      simp only [ClientThreads.work, hmutex]
    refine Or.inr (Or.inr ⟨?_, ?_, fun hmoves => ?_⟩)
    · have hbefore : s.watchdog ≠ .inspecting := fun hinspecting => by
        rw [hinspecting] at hfree
        cases hfree
      have hload : load { s with watchdog := pc } = s.load := by
        rw [load, load, hwork]
        rfl
      rw [rank, rank, hload, WatchdogPc.toInspect_of_ne hpc,
        WatchdogPc.toInspect_of_ne hbefore]
    · refine helper_of_places rfl ?_
      rw [blockedOn, blockedOn, hwork]
      rfl
    · have hwho : s.helper = .watchdog :=
        (Option.some.inj hmoves).symm
      rcases helper_cases with hwaits | hholder
      · rw [hwho] at hwaits
        obtain ⟨statement, -, hblocks⟩ := Option.bind_eq_some_iff.mp hwaits
        unfold blocks at hblocks
        split at hblocks
        · split at hblocks <;> cases hblocks
        · split at hblocks <;> cases hblocks
        · cases hblocks
      · rw [hwho, holder, hmutex] at hholder
        cases hholder
  unfold ClientThreads.watchdogStep at h
  split at h
  · rename_i hpc
    obtain rfl := Option.some.inj h
    refine hplace _ (by rw [hpc]; rfl) ?_
    split <;> decide
  · rename_i hpc
    obtain rfl := Option.some.inj h
    refine hplace _ (by rw [hpc]; rfl) ?_
    split <;> decide
  · split at h
    · rename_i hfree
      exact absurd hfree hheld
    · cases h
  · rename_i hpc
    obtain rfl := Option.some.inj h
    have hmutex := hs.watchdog.mpr (by rw [hpc]; rfl)
    refine Or.inr (Or.inl ?_)
    have hafter : load { s with
          watchdog := .holding (s.watchdogIteration retryTimeReached) }
        ≤ 16 * 13 + 7 := by
      refine load_of_work ?_
      simp only [ClientThreads.work, hmutex]
      exact watchdogIteration_length retryTimeReached
    rw [rank, rank, hpc]
    simp only [WatchdogPc.toInspect]
    omega
  · rename_i statement rest hpc
    obtain ⟨⟨u, work⟩, hperform, rfl⟩ := Option.map_eq_some_iff.mp h
    have hmutex := hs.watchdog.mpr (by rw [hpc]; rfl)
    have hstill : u.connectionMutex = some .watchdog :=
      (perform_frame hperform).1.trans hmutex
    refine Or.inr (Or.inl (rank_perform hs ?_ hperform ?_ ?_))
    · simp only [ClientThreads.work, hmutex, hpc, WatchdogPc.work]
    · simp only [ClientThreads.work, hstill, WatchdogPc.work]
    · exact fun hinspecting => by cases hinspecting
  · obtain rfl := Option.some.inj h
    exact Or.inl fun hstill => hstill rfl
  · cases h
  · cases h

theorem Orderly.step_held {a : Action} (hs : s.Orderly) (hheld : s.Held)
    (h : s.step a = some t) : HeldStep s a t := by
  have hcalls : ∀ (isWatchdogRunning : Bool) (pc : CallerPc),
      s.caller = .idle → a.thread = none →
      HeldStep s a { s with isWatchdogRunning, caller := pc } := by
    intro isWatchdogRunning pc hidle hnobody
    have hmutex : s.connectionMutex = some .watchdog := by
      cases hmutex : s.connectionMutex with
      | none => exact absurd hmutex hheld
      | some who =>
          cases who with
          | watchdog => rfl
          | caller =>
              have hholds := hs.caller.mp hmutex
              rw [hidle] at hholds
              cases hholds
    have hwork : ClientThreads.work
        { s with isWatchdogRunning, caller := pc } = s.work := by
      simp only [ClientThreads.work, hmutex]
    refine Or.inr (Or.inr ⟨rank_of_places rfl ?_, helper_of_places rfl ?_,
      fun hmoves => ?_⟩)
    · rw [load, load, hwork]
      rfl
    · rw [blockedOn, blockedOn, hwork]
      rfl
    · rw [moves, hnobody] at hmoves
      cases hmoves
  unfold ClientThreads.step at h
  split at h
  · cases h
  · cases a with
    | connect config =>
        simp only at h
        split at h
        · rename_i hidle
          obtain rfl := Option.some.inj h
          exact hcalls _ _ hidle rfl
        · cases h
    | disconnect =>
        simp only at h
        split at h
        · rename_i hidle
          obtain rfl := Option.some.inj h
          exact hcalls _ _ hidle rfl
        · cases h
    | caller fails => exact hs.callerStep_held hheld h
    | watchdog retryTimeReached fails => exact hs.watchdogStep_held hheld h
    | tcpWorker => exact (tcpWorker_workerMoves hs h).heldStep
    | received handled => exact (received_workerMoves hs h).heldStep
    | udpWorker => exact (udpWorkerStep_workerMoves hs h).heldStep

/-- Along every fair run, whoever holds `connectionMutex_` lets go of
it. -/
theorem mutex_released {r : system.Behavior}
    (hfair : ∀ thread, r.Fair (moves thread)) (i : Nat) :
    ∃ j, i ≤ j ∧ (r.state j).connectionMutex = none := by
  obtain ⟨j, hj, hfree⟩ := Lts.Behavior.responds (p := Held) hfair
    (fun s hreach hheld => (orderly_of_reachable hreach).helper_enabled hheld)
    (fun s a t hreach hheld hstep =>
      (orderly_of_reachable hreach).step_held hheld hstep) i
  exact ⟨j, hj, by simpa [Held] using hfree⟩

end

end ClientThreads

/-! ## Returning from Disconnect -/

def CallerPc.isLeaving : CallerPc → Bool
  | joining => true
  | disconnectLocking => true
  | disconnecting _ => true
  | _ => false

def CallerPc.toReturn : CallerPc → Nat
  | joining => 3000
  | disconnectLocking => 1000
  | _ => 0

/-- For a watchdog whose flag is cleared. -/
def WatchdogPc.toEnd : WatchdogPc → Nat
  | locking => 900
  | inspecting => 700
  | holding _ => 200
  | testing => 100
  | sleeping => 100
  | _ => 0

namespace ClientThreads

open LockedStatement

section

variable {s t : ClientThreads} {fails : Bool}

def Leaving (s : ClientThreads) : Prop := s.caller.isLeaving = true

def leavingRank (s : ClientThreads) : Nat :=
  s.caller.toReturn + s.watchdog.toEnd + s.load

/-- The watchdog on its way to its end, then the caller. -/
def leavingHelper (s : ClientThreads) : ClientThread :=
  match s.caller with
  | .joining =>
      if s.watchdog.holds then s.helper
      else if s.watchdog.isAlive then .watchdog
      else .caller
  | .disconnectLocking => .caller
  | _ => s.helper

def LeavingStep (s : ClientThreads) (a : Action) (t : ClientThreads) : Prop :=
  Lts.Behavior.Helps moves Leaving leavingRank leavingHelper s a t

theorem Orderly.leavingHelper_enabled (hs : s.Orderly) (hleaving : s.Leaving) :
    system.Enabled (moves s.leavingHelper) s := by
  have hwatching := hs.watching
  have hcallerMoves : (s.callerStep false).isSome = true →
      system.Enabled (moves .caller) s := fun hmoves =>
    ⟨.caller false, rfl, by
      show (s.step (.caller false)).isSome = true
      rw [step_caller hs]
      exact hmoves⟩
  unfold leavingHelper
  split
  · rename_i hpc
    split
    · rename_i hholds
      refine hs.helper_enabled ?_
      rw [hs.watchdog.mpr hholds]
      exact Option.some_ne_none _
    · rename_i hholds
      split
      · rename_i halive
        refine ⟨.watchdog false false, rfl, ?_⟩
        show (s.step (.watchdog false false)).isSome = true
        rw [step_watchdog hs, ClientThreads.watchdogStep]
        have hfree := hs.mutex_free (by rw [hpc]; rfl) (by simpa using hholds)
        cases hplace : s.watchdog with
        | absent =>
            rw [hplace] at halive
            cases halive
        | ended =>
            rw [hplace] at halive
            cases halive
        | locking => simp [hfree]
        | inspecting =>
            rw [hplace] at hholds
            exact absurd rfl hholds
        | holding work =>
            rw [hplace] at hholds
            exact absurd rfl hholds
        | _ => rfl
      · rename_i hended
        refine hcallerMoves ?_
        simp [ClientThreads.callerStep, hpc, hended]
  · rename_i hpc
    rw [hpc] at hwatching
    have hfree := hs.mutex_free (by rw [hpc]; rfl) (by rw [hwatching.2]; rfl)
    refine hcallerMoves ?_
    simp [ClientThreads.callerStep, hpc, hfree]
  · rename_i hjoining hlocking
    refine hs.helper_enabled ?_
    have hholds : s.caller.holds = true := by
      unfold Leaving at hleaving
      cases hpc : s.caller with
      | disconnecting work => rfl
      | joining => exact absurd hpc hjoining
      | disconnectLocking => exact absurd hpc hlocking
      | _ =>
          rw [hpc] at hleaving
          cases hleaving
    rw [hs.caller.mpr hholds]
    exact Option.some_ne_none _

theorem leavingHelper_cases : s.leavingHelper = s.helper
    ∨ s.leavingHelper = .caller ∨ s.leavingHelper = .watchdog := by
  unfold leavingHelper
  split
  · split
    · exact Or.inl rfl
    · split
      · exact Or.inr (Or.inr rfl)
      · exact Or.inr (Or.inl rfl)
  · exact Or.inr (Or.inl rfl)
  · exact Or.inl rfl

theorem WorkerMoves.leavingStep {a : Action} (h : WorkerMoves s t a) :
    LeavingStep s a t := by
  have hwork := h.work_eq
  rcases h.nearer with hless | ⟨hsame, hblocked, hmine⟩
  · refine Or.inr (Or.inl ?_)
    unfold leavingRank load
    rw [h.caller, h.watchdog, hwork]
    omega
  · have hhelper := helper_of_places h.connectionMutex hblocked
    refine Or.inr (Or.inr ⟨?_, ?_, fun hmoves => ?_⟩)
    · unfold leavingRank load
      rw [h.caller, h.watchdog, hwork, hsame]
    · rw [leavingHelper, leavingHelper, h.caller, h.watchdog, hhelper]
    · obtain ⟨hnot, hcaller, hwatchdog⟩ := hmine _ hmoves
      rcases leavingHelper_cases with hsame | hsame | hsame
      · exact helper_ne hnot hcaller hwatchdog hsame.symm
      · exact hcaller hsame
      · exact hwatchdog hsame

/-- The watchdog under way: the caller is still joining it. -/
theorem Orderly.joining (hs : s.Orderly) (hleaving : s.Leaving)
    (halive : s.watchdog.isAlive = true) :
    s.caller = .joining ∧ s.isWatchdogRunning = false := by
  have hwatching := hs.watching
  unfold Leaving at hleaving
  cases hpc : s.caller with
  | joining =>
      rw [hpc] at hwatching
      exact ⟨rfl, hwatching⟩
  | disconnectLocking =>
      rw [hpc] at hwatching
      rw [hwatching.2] at halive
      cases halive
  | disconnecting work =>
      rw [hpc] at hwatching
      rw [hwatching.2] at halive
      cases halive
  | _ =>
      rw [hpc] at hleaving
      cases hleaving

/-- Without statements in hand there is less to do. -/
theorem load_le_of_work (hworkers : t.workers = s.workers)
    (hwork : t.work = []) : t.load ≤ s.load := by
  unfold load
  rw [hworkers, hwork]
  exact Nat.add_le_add_right (Nat.zero_le _) _

/-- A watchdog whose flag is cleared gets nearer to its end. -/
theorem Orderly.watchdogStep_nearer {retryTimeReached : Bool}
    (hs : s.Orderly) (hcaller : s.caller = .joining)
    (hstopped : s.isWatchdogRunning = false)
    (h : s.watchdogStep retryTimeReached fails = some t) :
    t.caller = s.caller
      ∧ t.watchdog.toEnd + t.load < s.watchdog.toEnd + s.load := by
  have hwork : ∀ {u : ClientThreads}, u.caller = s.caller →
      u.watchdog.work = [] → u.work = [] := by
    intro u hu hplace
    rw [ClientThreads.work, hu, hcaller, hplace]
    split <;> rfl
  unfold ClientThreads.watchdogStep at h
  split at h
  · rename_i hpc
    rw [hstopped] at h
    obtain rfl := Option.some.inj h
    have hless := load_le_of_work (s := s) (t := { s with watchdog := .ended })
      rfl (hwork rfl rfl)
    refine ⟨rfl, ?_⟩
    show 0 + load { s with watchdog := .ended } < _
    rw [hpc, WatchdogPc.toEnd]
    omega
  · rename_i hpc
    rw [hstopped] at h
    obtain rfl := Option.some.inj h
    have hless := load_le_of_work (s := s) (t := { s with watchdog := .ended })
      rfl (hwork rfl rfl)
    refine ⟨rfl, ?_⟩
    show 0 + load { s with watchdog := .ended } < _
    rw [hpc, WatchdogPc.toEnd]
    omega
  · rename_i hpc
    split at h
    · obtain rfl := Option.some.inj h
      have hless := load_le_of_work (s := s) (t := { s with
          connectionMutex := some .watchdog
          watchdog := .inspecting }) rfl (hwork rfl rfl)
      refine ⟨rfl, ?_⟩
      show 700 + load _ < _
      rw [hpc, WatchdogPc.toEnd]
      omega
    · cases h
  · rename_i hpc
    obtain rfl := Option.some.inj h
    have hmutex := hs.watchdog.mpr (by rw [hpc]; rfl)
    have hafter : load { s with
          watchdog := .holding (s.watchdogIteration retryTimeReached) }
        ≤ 16 * 13 + 7 := by
      refine load_of_work ?_
      simp only [ClientThreads.work, hmutex]
      exact watchdogIteration_length retryTimeReached
    refine ⟨rfl, ?_⟩
    show 200 + load _ < _
    rw [hpc, WatchdogPc.toEnd]
    omega
  · rename_i statement rest hpc
    obtain ⟨⟨u, work⟩, hperform, rfl⟩ := Option.map_eq_some_iff.mp h
    have hmutex := hs.watchdog.mpr (by rw [hpc]; rfl)
    obtain ⟨hkept, hsame, -⟩ := perform_frame hperform
    have hstill : u.connectionMutex = some .watchdog := hkept.trans hmutex
    have hbefore : s.work = statement :: rest := by
      simp only [ClientThreads.work, hmutex, hpc, WatchdogPc.work]
    have hsafe := hs.safe
    rw [hbefore] at hsafe
    have hless := load_lt (t := { u with watchdog := .holding work }) hbefore
      (by
        simp only [ClientThreads.work, hstill, WatchdogPc.work]
        exact hsafe.length_le hperform)
    refine ⟨hsame, ?_⟩
    show 200 + load { u with watchdog := .holding work } < _
    rw [hpc, WatchdogPc.toEnd]
    omega
  · rename_i hpc
    obtain rfl := Option.some.inj h
    have hless := load_le_of_work (s := s) (t := { s with
        connectionMutex := none
        watchdog := .testing }) rfl (hwork rfl rfl)
    refine ⟨rfl, ?_⟩
    show 100 + load _ < _
    rw [hpc, WatchdogPc.toEnd]
    omega
  · cases h
  · cases h

theorem Orderly.watchdogStep_leaving {retryTimeReached : Bool}
    (hs : s.Orderly) (hleaving : s.Leaving)
    (h : s.watchdogStep retryTimeReached fails = some t) :
    LeavingStep s (.watchdog retryTimeReached fails) t := by
  have halive : s.watchdog.isAlive = true := by
    cases hpc : s.watchdog with
    | absent => simp [ClientThreads.watchdogStep, hpc] at h
    | ended => simp [ClientThreads.watchdogStep, hpc] at h
    | _ => rfl
  obtain ⟨hcaller, hstopped⟩ := hs.joining hleaving halive
  obtain ⟨hsame, hless⟩ := hs.watchdogStep_nearer hcaller hstopped h
  refine Or.inr (Or.inl ?_)
  unfold leavingRank
  rw [hsame]
  omega

theorem disconnect_length : s.disconnect.length ≤ 12 := by
  have hdown := teardownConnectionLocked_length (s := s)
  rw [disconnect, List.length_append]
  exact Nat.add_le_add_right hdown 1

theorem Orderly.callerStep_leaving (hs : s.Orderly) (hleaving : s.Leaving)
    (h : s.callerStep fails = some t) : LeavingStep s (.caller fails) t := by
  have hwatching := hs.watching
  unfold Leaving at hleaving
  unfold ClientThreads.callerStep at h
  split at h
  · cases h
  · rename_i config hpc
    rw [hpc] at hleaving
    cases hleaving
  · rename_i statement rest hpc
    rw [hpc] at hleaving
    cases hleaving
  · rename_i hpc
    rw [hpc] at hleaving
    cases hleaving
  · rename_i hpc
    split at h
    · cases h
    · rename_i hended
      obtain rfl := Option.some.inj h
      have hfree := hs.mutex_free (by rw [hpc]; rfl)
        (holds_of_not_isAlive hended)
      have hless := load_le_of_work (s := s) (t := { s with
          watchdog := .absent
          caller := .disconnectLocking }) rfl
        (by simp only [ClientThreads.work, hfree])
      refine Or.inr (Or.inl ?_)
      show 1000 + 0 + load _ < _
      rw [leavingRank, hpc, CallerPc.toReturn]
      omega
  · rename_i hpc
    split at h
    · obtain rfl := Option.some.inj h
      have hafter : load { s with
            connectionMutex := some .caller
            caller := .disconnecting s.disconnect } ≤ 16 * 12 + 7 :=
        load_of_work disconnect_length
      refine Or.inr (Or.inl ?_)
      show 0 + s.watchdog.toEnd + load _ < _
      rw [leavingRank, hpc, CallerPc.toReturn]
      omega
    · cases h
  · rename_i statement rest hpc
    obtain ⟨⟨u, work⟩, hperform, rfl⟩ := Option.map_eq_some_iff.mp h
    have hmutex := hs.caller.mpr (by rw [hpc]; rfl)
    have hnot := hs.leaving _ hpc
    obtain ⟨hkept, -, hwatch, -⟩ := perform_frame hperform
    have hstill : u.connectionMutex = some .caller := hkept.trans hmutex
    have hbefore : s.work = statement :: rest := by
      simp only [ClientThreads.work, hmutex, hpc, CallerPc.work]
    have hsafe := hs.safe
    rw [hbefore] at hsafe
    have hless := load_lt (t := { u with caller := .disconnecting work })
      hbefore (by
        simp only [ClientThreads.work, hstill, CallerPc.work]
        exact hsafe.length_le hperform)
    refine Or.inr (Or.inl ?_)
    rcases hwatch with ⟨hsame, -⟩ | ⟨rfl, -⟩
    · have hend : u.watchdog.toEnd = s.watchdog.toEnd := by rw [hsame]
      show 0 + u.watchdog.toEnd + load { u with caller := .disconnecting work }
        < s.leavingRank
      rw [leavingRank]
      omega
    · exact absurd List.mem_cons_self hnot
  · obtain rfl := Option.some.inj h
    exact Or.inl fun hstill => by cases hstill

theorem Orderly.step_leaving {a : Action} (hs : s.Orderly)
    (hleaving : s.Leaving) (h : s.step a = some t) : LeavingStep s a t := by
  have hbusy : s.caller ≠ .idle := fun hidle => by
    rw [Leaving, hidle] at hleaving
    cases hleaving
  unfold ClientThreads.step at h
  split at h
  · cases h
  · cases a with
    | connect config =>
        simp at h
    | disconnect =>
        simp at h
    | caller fails => exact hs.callerStep_leaving hleaving h
    | watchdog retryTimeReached fails =>
        exact hs.watchdogStep_leaving hleaving h
    | tcpWorker => exact (tcpWorker_workerMoves hs h).leavingStep
    | received handled => exact (received_workerMoves hs h).leavingStep
    | udpWorker => exact (udpWorkerStep_workerMoves hs h).leavingStep

theorem watchdogStep_caller {retryTimeReached : Bool}
    (h : s.watchdogStep retryTimeReached fails = some t) :
    t.caller = s.caller := by
  unfold watchdogStep at h
  split at h
  · obtain rfl := Option.some.inj h
    rfl
  · obtain rfl := Option.some.inj h
    rfl
  · split at h
    · obtain rfl := Option.some.inj h
      rfl
    · cases h
  · obtain rfl := Option.some.inj h
    rfl
  · obtain ⟨⟨u, work⟩, hperform, rfl⟩ := Option.map_eq_some_iff.mp h
    exact (perform_frame hperform).2.1
  · obtain rfl := Option.some.inj h
    rfl
  · cases h
  · cases h

/-- The only way out of a `Disconnect` is to return from it. -/
theorem idle_of_not_leaving {a : Action} (hleaving : s.Leaving)
    (h : s.step a = some t) (hend : ¬ t.Leaving) : t.caller = .idle := by
  unfold Leaving at hleaving hend
  have hkept : t.caller ≠ s.caller := fun hsame => by
    rw [hsame] at hend
    exact hend hleaving
  unfold ClientThreads.step at h
  split at h
  · cases h
  · cases a with
    | connect config =>
        simp only at h
        split at h
        · rename_i hidle
          rw [hidle] at hleaving
          cases hleaving
        · cases h
    | disconnect =>
        simp only at h
        split at h
        · rename_i hidle
          rw [hidle] at hleaving
          cases hleaving
        · cases h
    | caller fails =>
        simp only [callerStep] at h
        split at h
        · cases h
        · rename_i config hpc
          rw [hpc] at hleaving
          cases hleaving
        · rename_i statement rest hpc
          rw [hpc] at hleaving
          cases hleaving
        · obtain rfl := Option.some.inj h
          rfl
        · split at h
          · cases h
          · obtain rfl := Option.some.inj h
            exact absurd rfl hend
        · split at h
          · obtain rfl := Option.some.inj h
            exact absurd rfl hend
          · cases h
        · obtain ⟨⟨u, work⟩, -, rfl⟩ := Option.map_eq_some_iff.mp h
          exact absurd rfl hend
        · obtain rfl := Option.some.inj h
          rfl
    | watchdog retryTimeReached fails =>
        exact absurd (watchdogStep_caller h) hkept
    | tcpWorker =>
        obtain ⟨_, _, -, -, rfl⟩ := receiverStep_cases h
        exact absurd rfl hkept
    | received handled =>
        obtain ⟨_, _, -, -, rfl⟩ := receiverStep_cases h
        exact absurd rfl hkept
    | udpWorker =>
        obtain ⟨_, rfl, -⟩ := udpWorkerStep_cases h
        exact absurd rfl hkept

/-- Along every fair run, every `Disconnect` returns. -/
theorem disconnect_returns {r : system.Behavior}
    (hfair : ∀ thread, r.Fair (moves thread)) {i : Nat}
    (hcalled : r.action i = some .disconnect) :
    ∃ j, i < j ∧ (r.state j).caller = .idle := by
  have hnext := r.next i
  rw [hcalled] at hnext
  have hstart : (r.state (i + 1)).Leaving := by
    have hstep : (r.state i).step .disconnect = some (r.state (i + 1)) := hnext
    unfold ClientThreads.step at hstep
    split at hstep
    · cases hstep
    · simp only at hstep
      split at hstep
      · rw [← Option.some.inj hstep]
        rfl
      · cases hstep
  obtain ⟨j, hj, hend⟩ := Lts.Behavior.responds (p := Leaving) hfair
    (fun s hreach hleaving =>
      (orderly_of_reachable hreach).leavingHelper_enabled hleaving)
    (fun s a t hreach hleaving hstep =>
      (orderly_of_reachable hreach).step_leaving hleaving hstep) (i + 1)
  obtain ⟨k, a, hk, hleaving, hstep, hleft⟩ := r.exit hstart hj hend
  exact ⟨k + 1, by omega, idle_of_not_leaving hleaving hstep hleft⟩

/-- Before the first `Connect` no thread can move. -/
theorem initial_stuck (thread : ClientThread) :
    ¬ system.Enabled (moves thread) {} := by
  rintro ⟨a, hmoves, hstep⟩
  cases a with
  | connect config => cases hmoves
  | disconnect => cases hmoves
  | received handled => cases hmoves
  | _ => cases hstep

/-- A connection that comes and goes: the caller waits for all three
threads of it. -/
def comeAndGo : List Action :=
  [.connect {}] ++ List.replicate 17 (.caller false)
    ++ [.udpWorker, .tcpWorker, .received true, .watchdog false false]
    ++ [.disconnect, .watchdog false false]
    ++ List.replicate 4 (.caller false) ++ [.tcpWorker]
    ++ List.replicate 6 (.caller false) ++ [.udpWorker, .udpWorker]
    ++ List.replicate 5 (.caller false)

theorem comeAndGo_run : system.run {} comeAndGo = some {} := by
  decide +kernel

theorem mutex_released_comeAndGo : ∃ r : system.Behavior, ∃ j, 2 ≤ j
    ∧ (r.state 2).connectionMutex = some .caller
    ∧ (r.state j).connectionMutex = none := by
  refine ⟨.ofRun rfl comeAndGo_run, ?_⟩
  obtain ⟨j, hj, hfree⟩ := mutex_released
    (fun thread => Lts.Behavior.ofRun_fair rfl comeAndGo_run
      (initial_stuck thread)) 2
  exact ⟨j, hj, by decide +kernel, hfree⟩

theorem disconnect_returns_comeAndGo : ∃ r : system.Behavior, ∃ j, 22 < j
    ∧ r.action 22 = some .disconnect ∧ (r.state j).caller = .idle := by
  refine ⟨.ofRun rfl comeAndGo_run, ?_⟩
  obtain ⟨j, hj, hidle⟩ := disconnect_returns
    (r := .ofRun rfl comeAndGo_run) (i := 22)
    (fun thread => Lts.Behavior.ofRun_fair rfl comeAndGo_run
      (initial_stuck thread)) rfl
  exact ⟨j, hj, rfl, hidle⟩

end

end ClientThreads

end NetworkControl
