import Mathlib.Algebra.BigOperators.Group.Finset.Piecewise
import NetworkControl.Fairness
import NetworkControl.Shutdown
import NetworkControl.ThreadSteps

/-!
# Stop returns

`stop_clean` says what holds when `TcpControlServer::Stop` returns;
`stop_returns` says that it does. Nothing is asked of the clients: a
thread in `accept`, in `ReceiveAll` or in `SendAll` may stay there for as
long as the socket it waits on is open.

The argument is in two parts. Once the flag is cleared every step of a
thread takes it nearer to its end, but for the sleep in the wait loop
(`Steps.nearer`). And somebody can always move: where `Stop` waits for a
worker that is held up by a socket, that socket is closed, or its own
worker is about to close it (`Winding.late`).
-/

namespace NetworkControl

/-! ## What is left to do -/

/-- `room` bounds the sessions of a snapshot. -/
def StopPc.rank (room : Nat) : StopPc → Nat
  | idle => 0
  | closing => 2 * room + 6
  | snapshotting => 2 * room + 5
  | stopping sessions => 2 * sessions.length + 3
  | closingSocket _ sessions => 2 * sessions.length + 4
  | joining => 2
  | waiting => 1
  | returned => 0

/-- With the work of the worker it may still start. -/
def AcceptPc.rank (room : Nat) : AcceptPc → Nat
  | testing => 1
  | accepting => 2
  | accepted => 1
  | adding _ => room + 14
  | counting _ => room + 13
  | starting _ => room + 12
  | ended => 0

/-- The flag is cleared: behind its message a worker leaves. -/
def ControlWorkerPc.rank (room : Nat) : ControlWorkerPc → Nat
  | absent => 0
  | receivingHeader => 3 * room + 14
  | receivingPayload _ => 3 * room + 13
  | registered => 3 * room + 12
  | spawning sends => room + sends.length + 9
  | testing => room + 8
  | left => room + 7
  | leaving => room + 6
  | despawning recipients => recipients.length + 5
  | removing => 4
  | stopping => 3
  | closing => 2
  | counting => 1
  | done => 0

/-- The socket a worker's call is on. -/
def ControlWorkerPc.socket (n : Nat) : ControlWorkerPc → Option Nat
  | receivingHeader => some n
  | receivingPayload _ => some n
  | spawning ((recipient, _) :: _) => some recipient
  | despawning (recipient :: _) => some recipient
  | _ => none

theorem ControlWorkerPc.isActive_of_isReceiving {pc : ControlWorkerPc}
    (h : pc.isReceiving = true) : pc.isActive = true := by
  cases pc <;> first | rfl | cases h

namespace ControlThreads

section

variable {F : Type}

def work (s : ControlThreads F) : Nat :=
  ∑ n ∈ Finset.range s.nextSessionId,
    (s.worker n).rank s.nextSessionId

def rank (s : ControlThreads F) : Nat :=
  s.stop.rank s.nextSessionId + s.accept.rank s.nextSessionId + s.work

/-- In a call that returns when the other side does something, or when
the socket is closed. -/
def Blocked (s : ControlThreads F) : ServerThread → Prop
  | .stop => False
  | .accept => s.accept = .accepting ∧ s.listenerOpen = true
  | .worker n => ∃ m ∈ (s.worker n).socket n, s.socketOpen m = true

def firstActive (s : ControlThreads F) : Option Nat :=
  (List.range s.nextSessionId).find? fun n => (s.worker n).isActive

/-- Who takes `Stop` nearer to its end: itself, the accept thread it
joins, or for a worker that a socket holds up, the worker of that
socket. -/
def helper (s : ControlThreads F) : ServerThread :=
  match s.stop with
  | .joining => if s.accept = .ended then .stop else .accept
  | .waiting =>
      match s.firstActive with
      | none => .stop
      | some n =>
          match (s.worker n).socket n with
          | none => .worker n
          | some m => if s.socketOpen m then .worker m else .worker n
  | _ => .stop

/-- `Stop` was called and has not returned. -/
def Stopping (s : ControlThreads F) : Prop :=
  s.stop ≠ .idle ∧ s.stop ≠ .returned

variable {s t : ControlThreads F} {n : Nat} {pc : ControlWorkerPc}

/-! ## Every step but the sleep -/

variable (pc) in
theorem work_update (hn : n < s.nextSessionId)
    (hnext : t.nextSessionId = s.nextSessionId)
    (hworker : t.worker = Function.update s.worker n pc) :
    t.work + (s.worker n).rank s.nextSessionId
      = s.work + pc.rank s.nextSessionId := by
  have hmem : n ∈ Finset.range s.nextSessionId := Finset.mem_range.mpr hn
  have hranks : (fun m => (t.worker m).rank s.nextSessionId)
      = Function.update (fun m => (s.worker m).rank s.nextSessionId) n
        (pc.rank s.nextSessionId) := by
    funext m
    rw [hworker]
    by_cases hmn : m = n
    · subst hmn
      simp
    · simp [hmn]
  have hsplit := Finset.add_sum_erase (Finset.range s.nextSessionId)
    (fun m => (s.worker m).rank s.nextSessionId) hmem
  unfold work
  rw [hnext, hranks, Finset.sum_update_of_mem hmem,
    Finset.sdiff_singleton_eq_erase, ← hsplit]
  omega

theorem Fresh.lt_of_active (hs : s.Fresh)
    (hactive : (s.worker n).isActive = true) : n < s.nextSessionId := by
  by_contra hn
  rw [hs.absent n (Or.inr (Nat.not_lt.mp hn))] at hactive
  cases hactive

variable (n pc) in
/-- A worker's step that takes it down. -/
theorem rank_worker (hs : s.Fresh) (hactive : (s.worker n).isActive = true)
    (hnext : t.nextSessionId = s.nextSessionId) (hstop : t.stop = s.stop)
    (haccept : t.accept = s.accept)
    (hworker : t.worker = Function.update s.worker n pc)
    (hless : pc.rank s.nextSessionId
      < (s.worker n).rank s.nextSessionId) : t.rank < s.rank := by
  have hwork := work_update pc (hs.lt_of_active hactive) hnext hworker
  unfold rank
  rw [hnext, hstop, haccept]
  omega

theorem Goes.rank_lt (h : Goes s n pc) (hcleared : s.isRunning = false)
    {room : Nat} (hroom : s.sessions.length ≤ room) :
    pc.rank room < (s.worker n).rank room := by
  have hothers : ∀ order : List Nat, order.Perm s.sessions →
      (order.filter (· ≠ n)).length ≤ room := fun order horder =>
    ((List.length_filter_le _ _).trans horder.length_eq.le).trans hroom
  cases h with
  | enter hpc hrunning =>
      rw [hcleared] at hrunning
      cases hrunning
  | quit hpc =>
      rw [hpc]
      exact Nat.lt_succ_self _
  | fail hreceiving =>
      cases hpc : s.worker n <;> rw [hpc] at hreceiving <;>
        first
          | cases hreceiving; done
          | simp only [ControlWorkerPc.rank]; omega
  | header hpc =>
      rw [hpc]
      exact Nat.lt_succ_self _
  | @spawnSnapshot order hpc horder =>
      have hlength := hothers order horder
      rw [hpc]
      simp only [ControlWorkerPc.rank, List.length_cons, List.length_append,
        List.length_map]
      omega
  | sendSpawn hpc =>
      rw [hpc]
      simp only [ControlWorkerPc.rank, List.length_cons]
      omega
  | spawned hpc =>
      rw [hpc]
      exact Nat.lt_succ_self _
  | leave hpc =>
      rw [hpc]
      exact Nat.lt_succ_self _
  | leaveUnregistered hpc =>
      rw [hpc]
      simp only [ControlWorkerPc.rank]
      omega
  | @despawnSnapshot order hpc horder =>
      have hlength := hothers order horder
      rw [hpc]
      simp only [ControlWorkerPc.rank]
      omega
  | sendDespawn hpc =>
      rw [hpc]
      simp only [ControlWorkerPc.rank, List.length_cons]
      omega
  | despawned hpc =>
      rw [hpc]
      exact Nat.lt_succ_self _
  | unmapped hpc =>
      rw [hpc]
      simp [ControlWorkerPc.rank]

theorem afterMessage_rank (keep : Bool) (type : MessageType)
    (isUdpEndpointRegistered : Bool) (room : Nat)
    (hpc : pc.isReceiving = true) :
    (ControlWorkerPc.afterMessage keep type isUdpEndpointRegistered).rank room
      < pc.rank room := by
  have hpayload : (ControlWorkerPc.afterMessage keep type
      isUdpEndpointRegistered).rank room < 3 * room + 13 := by
    unfold ControlWorkerPc.afterMessage
    split
    · simp only [ControlWorkerPc.rank]
      omega
    · split
      · simp only [ControlWorkerPc.rank]
        omega
      · simp only [ControlWorkerPc.rank]
        omega
  cases pc with
  | receivingHeader => exact hpayload.trans (Nat.lt_succ_self _)
  | receivingPayload type => exact hpayload
  | _ => cases hpc

end

section

variable {F : Type} [FloatArith F] {clientIp : Nat → String}
  {host : Endian.ByteOrder} {s t : ControlThreads F} {thread : ServerThread}

/-- The threads wind down; only the wait loop goes round. -/
theorem Steps.nearer (h : Steps clientIp host s thread t) (hs : s.Orderly)
    (hw : s.Winding) (hcalled : s.stop ≠ .idle) :
    t.rank < s.rank ∨ thread = .stop ∧ t = s ∧ s.stop = .waiting
      ∧ 0 < s.activeControlWorkerCount := by
  have hcleared : s.isRunning = false := by
    by_contra hrunning
    exact hcalled (hs.flagged (by simpa using hrunning))
  have hroom : s.sessions.length ≤ s.nextSessionId :=
    Nat.le_of_add_right_le hw.room
  have hstop : ∀ {u : ControlThreads F},
      u.stop.rank s.nextSessionId < s.stop.rank s.nextSessionId →
      u.nextSessionId = s.nextSessionId → u.accept = s.accept →
      u.worker = s.worker → u.rank < s.rank := by
    intro u hless hnext haccept hworker
    unfold rank work
    rw [hnext, haccept, hworker]
    omega
  have haccept : ∀ (pc : AcceptPc) {u : ControlThreads F},
      pc.rank s.nextSessionId < s.accept.rank s.nextSessionId →
      u.accept = pc → u.nextSessionId = s.nextSessionId →
      u.stop = s.stop → u.worker = s.worker → u.rank < s.rank := by
    intro pc u hless hpc hnext hstop hworker
    unfold rank work
    rw [hpc, hnext, hstop, hworker]
    omega
  cases h with
  | clear hpc => exact absurd hpc hcalled
  | closeListener hpc =>
      refine Or.inl (hstop ?_ rfl rfl rfl)
      rw [hpc]
      exact Nat.lt_succ_self _
  | @stopSnapshot order hpc horder =>
      refine Or.inl (hstop ?_ rfl rfl rfl)
      have hlength := horder.length_eq
      rw [hpc]
      simp only [StopPc.rank]
      omega
  | stopSession hpc =>
      refine Or.inl (hstop ?_ rfl rfl rfl)
      rw [hpc]
      simp only [StopPc.rank, List.length_cons]
      omega
  | skipSession hpc hclosed =>
      refine Or.inl (hstop ?_ rfl rfl rfl)
      rw [hpc]
      simp only [StopPc.rank, List.length_cons]
      omega
  | stopped hpc =>
      refine Or.inl (hstop ?_ rfl rfl rfl)
      rw [hpc]
      simp [StopPc.rank]
  | stopSocket hpc =>
      refine Or.inl (hstop ?_ rfl rfl rfl)
      rw [hpc]
      exact Nat.lt_succ_self _
  | join hpc hended =>
      refine Or.inl (hstop ?_ rfl rfl rfl)
      rw [hpc]
      simp [StopPc.rank]
  | sleep hpc hcount => exact Or.inr ⟨rfl, rfl, hpc, hcount⟩
  | pass hpc hcount =>
      refine Or.inl (hstop ?_ rfl rfl rfl)
      rw [hpc]
      simp [StopPc.rank]
  | test hpc =>
      refine Or.inl (haccept .ended ?_ ?_ rfl rfl rfl)
      · rw [hpc]
        exact Nat.lt_succ_self _
      · simp [hcleared]
  | fail hpc =>
      refine Or.inl (haccept .testing ?_ rfl rfl rfl rfl)
      rw [hpc]
      exact Nat.lt_succ_self _
  | connect hpc hlistener =>
      refine Or.inl (haccept .accepted ?_ rfl rfl rfl rfl)
      rw [hpc]
      exact Nat.lt_succ_self _
  | refuse hpc =>
      refine Or.inl (haccept .ended ?_ rfl rfl rfl rfl)
      rw [hpc]
      exact Nat.lt_succ_self _
  | number hpc hrunning =>
      rw [hcleared] at hrunning
      cases hrunning
  | @add n hpc =>
      refine Or.inl (haccept (.counting n) ?_ rfl rfl rfl rfl)
      rw [hpc]
      exact Nat.lt_succ_self _
  | @count n hpc =>
      refine Or.inl (haccept (.starting n) ?_ rfl rfl rfl rfl)
      rw [hpc]
      exact Nat.lt_succ_self _
  | @start n hpc =>
      have hbound := hs.fresh.bound n (by rw [hpc]; rfl)
      have habsent := hs.fresh.absent n (Or.inl (by rw [hpc]; rfl))
      have hwork := work_update (s := s)
        (t := { s.setWorker n .testing with accept := .testing })
        .testing hbound rfl rfl
      rw [habsent] at hwork
      left
      show s.stop.rank s.nextSessionId + AcceptPc.rank s.nextSessionId .testing
        + work { s.setWorker n .testing with accept := .testing } < s.rank
      unfold rank
      rw [hpc]
      simp only [ControlWorkerPc.rank, AcceptPc.rank] at hwork ⊢
      omega
  | go hgoes =>
      exact Or.inl (rank_worker _ _ hs.fresh hgoes.active.1 rfl rfl rfl rfl
        (hgoes.rank_lt hcleared hroom))
  | @handle n type payloadBytes hreceiving =>
      have hactive := ControlWorkerPc.isActive_of_isReceiving hreceiving
      exact Or.inl (rank_worker _ _ hs.fresh hactive rfl rfl rfl rfl
        (afterMessage_rank _ _ _ _ hreceiving))
  | @erase n hpc hmapped =>
      refine Or.inl (rank_worker n .stopping hs.fresh
        (by rw [hpc]; rfl) rfl rfl rfl rfl ?_)
      rw [hpc]
      exact Nat.lt_succ_self _
  | @exchange n hpc =>
      refine Or.inl (rank_worker n .closing hs.fresh
        (by rw [hpc]; rfl) rfl rfl rfl rfl ?_)
      rw [hpc]
      exact Nat.lt_succ_self _
  | @yield n hpc hclosed =>
      refine Or.inl (rank_worker n .counting hs.fresh
        (by rw [hpc]; rfl) rfl rfl rfl rfl ?_)
      rw [hpc]
      simp [ControlWorkerPc.rank]
  | @close n hpc =>
      refine Or.inl (rank_worker n .counting hs.fresh
        (by rw [hpc]; rfl) rfl rfl rfl rfl ?_)
      rw [hpc]
      exact Nat.lt_succ_self _
  | @finish n hpc =>
      refine Or.inl (rank_worker n .done hs.fresh
        (by rw [hpc]; rfl) rfl rfl rfl rfl ?_)
      rw [hpc]
      exact Nat.lt_succ_self _

/-! ## Somebody can move -/

variable (clientIp host) in
/-- Out of any call a client may hold up, with a step to take. -/
def Ready (thread : ServerThread) (s : ControlThreads F) : Prop :=
  ¬ s.Blocked thread
    ∧ (system clientIp host).Enabled (fun a => a.thread = thread) s

theorem worker_enabled {n : Nat} (hactive : (s.worker n).isActive = true) :
    (system clientIp host).Enabled (fun a => a.thread = .worker n) s := by
  have hworker : (s.workerStep n).isSome = true →
      (system clientIp host).Enabled (fun a => a.thread = .worker n) s :=
    fun h => ⟨.worker n, rfl, h⟩
  have hsnapshot : (s.workerSnapshot n s.sessions).isSome = true →
      (system clientIp host).Enabled (fun a => a.thread = .worker n) s := by
    intro h
    refine ⟨.snapshot n s.sessions, rfl, ?_⟩
    show (if s.sessions.Perm s.sessions then _ else none).isSome = true
    rw [if_pos (List.Perm.refl _)]
    exact h
  cases hpc : s.worker n with
  | absent =>
      rw [hpc] at hactive
      cases hactive
  | done =>
      rw [hpc] at hactive
      cases hactive
  | receivingHeader =>
      refine ⟨.receive n none, rfl, ?_⟩
      show (s.receive clientIp host n none).isSome = true
      simp [receive, hpc]
  | receivingPayload type =>
      refine ⟨.receive n none, rfl, ?_⟩
      show (s.receive clientIp host n none).isSome = true
      simp [receive, hpc]
  | registered => exact hsnapshot (by simp [workerSnapshot, hpc])
  | leaving => exact hsnapshot (by simp [workerSnapshot, hpc])
  | spawning sends =>
      cases sends <;> exact hworker (by simp [workerStep, hpc])
  | despawning recipients =>
      cases recipients <;> exact hworker (by simp [workerStep, hpc])
  | removing =>
      refine hworker ?_
      by_cases hmapped : n ∈ s.sessions <;>
        simp [workerStep, hpc, hmapped]
  | _ => exact hworker (by simp [workerStep, hpc])

omit [FloatArith F] in
theorem firstActive_spec (hs : s.Orderly) :
    (∀ n, s.firstActive = some n → (s.worker n).isActive = true)
      ∧ (s.firstActive = none → ∀ n, (s.worker n).isActive = false) := by
  refine ⟨fun n hn => ?_, fun hnone n => ?_⟩
  · have hfound := List.find?_some hn
    exact hfound
  · by_contra hactive
    have hactive : (s.worker n).isActive = true := by simpa using hactive
    have hn := List.mem_range.mpr (hs.fresh.lt_of_active hactive)
    exact List.find?_eq_none.mp hnone n hn hactive

theorem accept_ready (hs : s.Winding) (hstop : s.stop = .joining)
    (haccept : s.accept ≠ .ended) : Ready clientIp host .accept s := by
  refine ⟨fun hblocked => ?_, .accept false, rfl, ?_⟩
  · have hopen : s.listenerOpen = true := hblocked.2
    rw [hs.shut (by rw [hstop]; rfl)] at hopen
    cases hopen
  · show (s.acceptStep false).isSome = true
    cases hpc : s.accept with
    | ended => exact absurd hpc haccept
    | accepted => cases hrunning : s.isRunning <;>
        simp [acceptStep, hpc, hrunning]
    | _ => simp [acceptStep, hpc]

/-- A worker whose call is on a closed socket, or on none. -/
theorem worker_ready {n : Nat} (hactive : (s.worker n).isActive = true)
    (hsocket : ∀ m ∈ (s.worker n).socket n, s.socketOpen m = false) :
    Ready clientIp host (.worker n) s := by
  refine ⟨?_, worker_enabled hactive⟩
  rintro ⟨m, hm, hopen⟩
  rw [hsocket m hm] at hopen
  cases hopen

/-- In the wait loop the worker of an open socket is about to close it. -/
theorem late_ready (hs : s.Orderly) (hw : s.Winding)
    (hstop : s.stop = .waiting) {m : Nat} (hopen : s.socketOpen m = true) :
    Ready clientIp host (.worker m) s := by
  have hlate : s.Late m := by
    have hboth := hw.late m hopen
    rw [hstop] at hboth
    exact hboth.resolve_left id
  have hnot : s.worker m ≠ .absent := by
    intro habsent
    have hsession := hw.started m hopen habsent
    rw [hs.joined (Or.inl hstop)] at hsession
    cases hsession
  rcases hlate with hpc | hpc | ⟨hlate, -⟩
  · refine worker_ready (by rw [hpc]; rfl) ?_
    rw [hpc]
    exact fun _ h => by cases h
  · refine worker_ready (by rw [hpc]; rfl) ?_
    rw [hpc]
    exact fun _ h => by cases h
  · cases hpc : s.worker m with
    | absent => exact absurd hpc hnot
    | testing =>
        refine worker_ready (by rw [hpc]; rfl) ?_
        rw [hpc]
        exact fun _ h => by cases h
    | left =>
        refine worker_ready (by rw [hpc]; rfl) ?_
        rw [hpc]
        exact fun _ h => by cases h
    | removing =>
        refine worker_ready (by rw [hpc]; rfl) ?_
        rw [hpc]
        exact fun _ h => by cases h
    | _ =>
        rw [hpc] at hlate
        cases hlate

theorem stop_ready
    (henabled : ∃ a, a.thread = .stop
      ∧ (s.step clientIp host a).isSome = true) :
    Ready clientIp host .stop s :=
  ⟨id, henabled⟩

theorem helper_ready (hs : s.Orderly) (hw : s.Winding)
    (hstopping : s.Stopping) : Ready clientIp host s.helper s := by
  obtain ⟨hcalled, hback⟩ := hstopping
  unfold helper
  cases hpc : s.stop with
  | idle => exact absurd hpc hcalled
  | returned => exact absurd hpc hback
  | closing =>
      exact stop_ready ⟨.stop, rfl, by simp [step, stopStep, hpc]⟩
  | snapshotting =>
      exact stop_ready ⟨.stopSnapshot s.sessions, rfl, by simp [step, hpc]⟩
  | stopping sessions =>
      cases sessions <;>
        exact stop_ready ⟨.stop, rfl, by simp [step, stopStep, hpc]⟩
  | closingSocket n sessions =>
      exact stop_ready ⟨.stop, rfl, by simp [step, stopStep, hpc]⟩
  | joining =>
      dsimp only
      split
      · rename_i hended
        exact stop_ready ⟨.stop, rfl, by simp [step, stopStep, hpc, hended]⟩
      · rename_i hrunning
        exact accept_ready hw hpc hrunning
  | waiting =>
      dsimp only
      obtain ⟨hsome, hnone⟩ := firstActive_spec hs
      cases hfirst : s.firstActive with
      | none =>
          refine stop_ready ⟨.stop, rfl, ?_⟩
          by_cases hcount : s.activeControlWorkerCount > 0 <;>
            simp [step, stopStep, hpc, hcount]
      | some n =>
          have hactive := hsome n hfirst
          dsimp only
          cases hsocket : (s.worker n).socket n with
          | none =>
              refine worker_ready hactive ?_
              rw [hsocket]
              exact fun _ h => by cases h
          | some m =>
              dsimp only
              split
              · rename_i hopen
                exact late_ready hs hw hpc hopen
              · rename_i hshut
                refine worker_ready hactive ?_
                rw [hsocket]
                intro k hk
                obtain rfl := Option.some.inj hk
                simpa using hshut

/-! ## Stop returns -/

omit [FloatArith F] in
/-- The wait loop goes round for somebody else. -/
theorem helper_ne_stop (hs : s.Orderly) (hstop : s.stop = .waiting)
    (hcount : 0 < s.activeControlWorkerCount) : s.helper ≠ .stop := by
  obtain ⟨-, hnone⟩ := firstActive_spec hs
  unfold helper
  rw [hstop]
  dsimp only
  cases hfirst : s.firstActive with
  | none =>
      have hempty : s.activeWorkers = ∅ := by
        ext n
        rw [hs.fresh.mem_activeWorkers, hnone hfirst n]
        simp
      have hcounted := hs.counted
      rw [Counted, hempty, hs.joined (Or.inl hstop)] at hcounted
      simp only [Finset.card_empty, AcceptPc.pending] at hcounted
      omega
  | some n =>
      dsimp only
      split
      · exact fun h => by cases h
      · split <;> exact fun h => by cases h

theorem Steps.called (h : Steps clientIp host s thread t)
    (hs : s.stop ≠ .idle) : t.stop ≠ .idle := by
  cases h with
  | clear hpc => exact fun h => by cases h
  | closeListener hpc => exact fun h => by cases h
  | stopSnapshot hpc horder => exact fun h => by cases h
  | stopSession hpc => exact fun h => by cases h
  | skipSession hpc hclosed => exact fun h => by cases h
  | stopped hpc => exact fun h => by cases h
  | stopSocket hpc => exact fun h => by cases h
  | join hpc hended => exact fun h => by cases h
  | pass hpc hcount => exact fun h => by cases h
  | _ => exact hs

/-- Along every infinite run that is fair to the server's threads, a call
of `Stop` returns, `AcceptWorker` having ended and every worker being past
its last decrement: fair to a thread while it is in no call that waits for
a client on an open socket. -/
theorem stop_returns {r : (system (F := F) clientIp host).Behavior}
    (hfair : ∀ thread, r.FairTo (Ready clientIp host thread)
      fun a => a.thread = thread)
    {i : Nat} (hcalled : (r.state i).stop ≠ .idle) :
    ∃ j, i ≤ j ∧ (r.state j).stop = .returned
      ∧ (r.state j).accept = .ended
      ∧ ∀ n, ((r.state j).worker n).isActive = false := by
  obtain ⟨j, hj, hend⟩ := Lts.Behavior.responds (p := Stopping) hfair
    (fun s hs hstopping => helper_ready (orderly_reachable hs)
      (winding_reachable hs) hstopping)
    (fun s a t hs hstopping hstep => by
      have horderly := orderly_reachable hs
      rcases (steps_of_step hstep).nearer horderly (winding_reachable hs)
        hstopping.1 with hless | ⟨hthread, rfl, hwaiting, hcount⟩
      · exact Or.inr (Or.inl hless)
      · refine Or.inr (Or.inr ⟨rfl, rfl, fun hmine => ?_⟩)
        exact helper_ne_stop horderly hwaiting hcount
          (hmine.symm.trans hthread)) i
  have hstill : (r.state j).stop ≠ .idle := by
    intro hidle
    obtain ⟨k, a, -, hk, hstep, hafter⟩ :=
      r.exit (p := fun s => s.stop ≠ .idle) hcalled hj (not_not.mpr hidle)
    exact hafter ((steps_of_step hstep).called hk)
  have hreturned : (r.state j).stop = .returned := by
    by_contra hback
    exact hend ⟨hstill, hback⟩
  have horderly := orderly_reachable (r.reachable j)
  exact ⟨j, hj, hreturned, horderly.joined (Or.inr hreturned),
    horderly.finished hreturned⟩

/-! ## A concrete run -/

/-- When `Stop` has returned nobody has a step to take. -/
theorem Steps.not_returned (h : Steps clientIp host s thread t)
    (hs : s.Orderly) : s.stop ≠ .returned := by
  intro hreturned
  have hended := hs.joined (Or.inr hreturned)
  have hworker : ∀ n, (s.worker n).isActive ≠ true := fun n => by
    rw [hs.finished hreturned n]
    decide
  cases h with
  | clear hpc => simp [hpc] at hreturned
  | closeListener hpc => simp [hpc] at hreturned
  | stopSnapshot hpc horder => simp [hpc] at hreturned
  | stopSession hpc => simp [hpc] at hreturned
  | skipSession hpc hclosed => simp [hpc] at hreturned
  | stopped hpc => simp [hpc] at hreturned
  | stopSocket hpc => simp [hpc] at hreturned
  | join hpc hjoined => simp [hpc] at hreturned
  | sleep hpc hcount => simp [hpc] at hreturned
  | pass hpc hcount => simp [hpc] at hreturned
  | test hpc => simp [hpc] at hended
  | fail hpc => simp [hpc] at hended
  | connect hpc hlistener => simp [hpc] at hended
  | refuse hpc hcleared => simp [hpc] at hended
  | number hpc hrunning => simp [hpc] at hended
  | add hpc => simp [hpc] at hended
  | count hpc => simp [hpc] at hended
  | start hpc => simp [hpc] at hended
  | go hgoes => exact hworker _ hgoes.active.1
  | handle type payloadBytes hreceiving =>
      exact hworker _ (ControlWorkerPc.isActive_of_isReceiving hreceiving)
  | erase hpc hmapped => exact hworker _ (by rw [hpc]; rfl)
  | exchange hpc => exact hworker _ (by rw [hpc]; rfl)
  | yield hpc hclosed => exact hworker _ (by rw [hpc]; rfl)
  | close hpc => exact hworker _ (by rw [hpc]; rfl)
  | finish hpc => exact hworker _ (by rw [hpc]; rfl)

theorem returned_stuck (hs : s.Orderly) (hreturned : s.stop = .returned)
    (thread : ServerThread) : ¬ Ready clientIp host thread s := by
  rintro ⟨-, a, -, henabled⟩
  obtain ⟨t, hstep⟩ := Option.isSome_iff_exists.mp henabled
  exact (steps_of_step hstep).not_returned hs hreturned

end

/-- `Stop` comes while client 1 is being announced and client 2 is being
accepted. -/
theorem stop_returns_late :
    ∃ r : (system (F := Float32) (fun _ => "127.0.0.1") .little).Behavior,
      (r.state 14).stop = .closing ∧ (r.state 14).worker 1 ≠ .done
      ∧ ∃ j, 14 ≤ j ∧ (r.state j).stop = .returned
        ∧ (r.state j).accept = .ended
        ∧ ∀ n, ((r.state j).worker n).isActive = false := by
  obtain ⟨t, hrun, hreturned⟩ : ∃ t, (system (F := Float32)
      (fun _ => "127.0.0.1") .little).run started
        (lateClient ++ lateClientLeaves) = some t ∧ t.stop = .returned := by
    have hend : (((system (F := Float32) (fun _ => "127.0.0.1")
        .little).run started (lateClient ++ lateClientLeaves)).any
          fun t => t.stop == .returned) = true := by decide +kernel
    obtain ⟨t, ht, hreturned⟩ := (Option.any_eq_true _ _).mp hend
    exact ⟨t, ht, by simpa using hreturned⟩
  have hfourteen : (((system (F := Float32) (fun _ => "127.0.0.1")
      .little).run started ((lateClient ++ lateClientLeaves).take 14)).any
        fun s => s.stop == .closing && s.worker 1 != .done) = true := by
    decide +kernel
  rw [Lts.Behavior.run_take hrun 14] at hfourteen
  simp only [Option.any_some, Bool.and_eq_true, beq_iff_eq, bne_iff_ne,
    ne_eq] at hfourteen
  have hs : t.Orderly :=
    orderly_reachable (Lts.Reachable.run (.init rfl) hrun)
  refine ⟨.ofRun rfl hrun, hfourteen.1, hfourteen.2, ?_⟩
  refine stop_returns (fun thread => Lts.Behavior.ofRun_fairTo rfl hrun
    (returned_stuck hs hreturned thread)) ?_
  intro hidle
  cases hfourteen.1.symm.trans hidle

end ControlThreads

end NetworkControl
