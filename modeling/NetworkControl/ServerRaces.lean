import NetworkControl.ServerLifetime

/-!
# The calls that race with Close

A UDP socket is closed when its thread has been joined. The listener is
closed under a thread that may be in `accept`, and a control socket under
threads in `recv` and `send`: `socket_` is read without a lock, before the
call, and `Close` calls `closesocket` before it overwrites it. Such a call
may be made on a handle that is closed, or given out again.

`ServerProcess` has the calls of a `ReceiveAll` or a `SendAll` in one step
and both statements of `Close` in another. Here they are apart: each of
these calls reads `socket_` first, and what a `Close` leaves in it goes in
a step of its own, as late as one likes. `server_leaves_nothing` says what
holds all the same.
-/

namespace NetworkControl

open Ownership

/-! ## The process, its racing calls apart -/

/-- The object a thread is in a racing call on. -/
def ControlThreads.callsOn {F : Type} (s : ControlThreads F) :
    ServerThread → Option SocketOwner
  | .stop => none
  | .accept => if s.accept = .accepting then some .listener else none
  | .worker n => ((s.worker n).socket n).map .session

/-- The call of `accept`, `recv` or `send` on an object, and where `main`
was. -/
structure RacingCall where
  owner : SocketOwner
  socket : Socket
  main : MainPc
deriving DecidableEq, Repr

/-- `left` is what is still in the `socket_` of an object whose handle was
closed, `read` what a thread has read for its next call. -/
structure RacingProcess (F : Type) where
  process : ServerProcess F
  left : SocketOwner → Option Socket
  read : ServerThread → Option Socket
  raced : List RacingCall

/-- `store` is the second statement of a `Close`. -/
inductive RacingAction where
  | process (a : ProcessAction)
  | store (i : SocketOwner)
  | read (thread : ServerThread)
  | call (thread : ServerThread)
deriving DecidableEq, Repr

/-- The transfers make their calls themselves. -/
def ProcessAction.withoutTransfer : ProcessAction → ProcessAction
  | control a result _ => control a result 0
  | a => a

namespace RacingProcess

section

variable {F : Type}

/-- What is in `socket_`. -/
def socketOf (x : RacingProcess F) (i : SocketOwner) : Socket :=
  ((x.process.sockets.held i).or (x.left i)).getD invalidSocket

/-- A handle that is given up stays where it is until the store. -/
def leftAfter (x : RacingProcess F) (process : ServerProcess F)
    (i : SocketOwner) : Option Socket :=
  match process.sockets.held i with
  | some _ => none
  | none => (x.process.sockets.held i).or (x.left i)

/-- What was read is for the call at hand. -/
def readAfter (x : RacingProcess F) (process : ServerProcess F)
    (thread : ServerThread) : Option Socket :=
  if process.control.callsOn thread = x.process.control.callsOn thread then
    x.read thread
  else none

variable [FloatArith F] (clientIp : Nat → String) (host : Endian.ByteOrder)

def step (x : RacingProcess F) : RacingAction → Option (RacingProcess F)
  | .process a =>
      (x.process.step clientIp host a.withoutTransfer).map fun process =>
        { x with
          process
          left := x.leftAfter process
          read := x.readAfter process }
  | .store i => some { x with left := Function.update x.left i none }
  | .read thread =>
      (x.process.control.callsOn thread).map fun i =>
        { x with
          read := Function.update x.read thread (some (x.socketOf i)) }
  | .call thread =>
      match x.process.control.callsOn thread, x.read thread with
      | some owner, some socket =>
          some { x with
            read := Function.update x.read thread none
            raced := ⟨owner, socket, x.process.main⟩ :: x.raced }
      | _, _ => none

def begun : RacingProcess F where
  process := .begun
  left _ := none
  read _ := none
  raced := []

def system : Lts (RacingProcess F) RacingAction where
  init x := x = begun
  step := step clientIp host

end

end RacingProcess

/-! ## What is given out -/

namespace SocketHeap

variable {ι : Type} {s t : SocketHeap ι} {k : Socket}

/-- `INVALID_SOCKET`, or a handle that was given to the process. -/
def Known (s : SocketHeap ι) (k : Socket) : Prop :=
  k = invalidSocket ∨ .opens k ∈ s.log

theorem Known.mono (h : s.Known k) (hcalls : s.calls <:+ t.calls) :
    t.Known k := by
  obtain ⟨calls, hcalls⟩ := hcalls
  refine h.imp_right fun hopened => ?_
  rw [log, ← hcalls, List.flatMap_append]
  exact List.mem_append_right _ hopened

theorem Owned.known (h : s.Owned) {i : ι} (hheld : s.held i = some k) :
    s.Known k :=
  Or.inr (opens_of_inUse (h.exclusive.live_of_held hheld))

end SocketHeap

namespace ServerProcess

section

variable {F : Type} [FloatArith F] {s t : ServerProcess F}

theorem Kept.mainStep_calls (h : s.Kept) {r : CallResults}
    (hstep : s.mainStep r = some t) :
    s.sockets.calls <:+ t.sockets.calls := by
  obtain ⟨main, sockets, streaming, controlInput, control⟩ := s
  cases main with
  | startingUp =>
      cases hok : r.first with
      | false =>
          simp only [ServerProcess.mainStep, hok] at hstep
          obtain rfl := Option.some.inj hstep
          exact List.suffix_rfl
      | true =>
          simp only [ServerProcess.mainStep, hok] at hstep
          obtain rfl := Option.some.inj hstep
          exact List.suffix_append ..
  | constructing =>
      obtain rfl := Option.some.inj hstep
      exact List.suffix_rfl
  | startingStreaming =>
      simp only [ServerProcess.mainStep] at hstep
      split at hstep
      · rename_i hreturns
        have hcalls := (SocketHeap.works_create hreturns).calls
        split at hstep <;> obtain rfl := Option.some.inj hstep <;>
          exact hcalls
      · cases hstep
  | startingControlInput =>
      simp only [ServerProcess.mainStep] at hstep
      split at hstep
      · rename_i hreturns
        have hcalls :=
          (UdpControlInputReceiver.start_works (r := r) hreturns).calls
        split at hstep <;> obtain rfl := Option.some.inj hstep <;>
          exact hcalls
      · cases hstep
  | startingControl =>
      simp only [ServerProcess.mainStep] at hstep
      split at hstep
      · rename_i hreturns
        have hcalls :=
          (TcpControlServer.startListener_works (r := r) hreturns).calls
        split at hstep <;> obtain rfl := Option.some.inj hstep <;>
          exact hcalls
      · cases hstep
  | stoppingControl leaving =>
      simp only [ServerProcess.mainStep] at hstep
      split at hstep
      · obtain rfl := Option.some.inj hstep
        exact List.suffix_rfl
      · cases hstep
  | joiningControlInput leaving =>
      obtain ⟨joined, -, rfl⟩ := Option.map_eq_some_iff.mp hstep
      exact List.suffix_rfl
  | closingControlInput leaving =>
      obtain rfl := Option.some.inj hstep
      exact (SocketHeap.works_close ..).calls
  | exchangingStreaming leaving =>
      simp only [ServerProcess.mainStep] at hstep
      split at hstep <;> obtain rfl := Option.some.inj hstep <;>
        exact List.suffix_rfl
  | joiningStreaming leaving =>
      obtain ⟨joined, -, rfl⟩ := Option.map_eq_some_iff.mp hstep
      exact List.suffix_rfl
  | closingStreaming leaving =>
      obtain rfl := Option.some.inj hstep
      exact (SocketHeap.works_close ..).calls
  | destroyingControl =>
      obtain rfl := Option.some.inj hstep
      exact SocketHeap.destroy_calls
  | destroyingControlInput =>
      obtain rfl := Option.some.inj hstep
      exact SocketHeap.destroy_calls
  | destroyingStreaming =>
      obtain rfl := Option.some.inj hstep
      exact SocketHeap.destroy_calls
  | closingAll =>
      obtain rfl := Option.some.inj hstep
      have hsettled : ControlThreads.Settled (control, sockets) :=
        ⟨h.quiet rfl, h.linked, h.owned⟩
      exact hsettled.closeAll.2.1
  | cleaningUp =>
      obtain rfl := Option.some.inj hstep
      exact List.suffix_append ..
  | returned => cases hstep
  | _ =>
      obtain rfl := Option.some.inj hstep
      exact List.suffix_rfl

variable {clientIp : Nat → String} {host : Endian.ByteOrder}

/-- No call is taken back. -/
theorem Kept.step_calls (h : s.Kept) {a : ProcessAction}
    (hstep : s.step clientIp host a = some t) :
    s.sockets.calls <:+ t.sockets.calls := by
  cases a with
  | main r => exact h.mainStep_calls hstep
  | control a result pieces =>
      obtain ⟨hmay, hstep⟩ := Option.ite_none_right_eq_some.mp hstep
      obtain ⟨control, hcontrol, rfl⟩ := Option.map_eq_some_iff.mp hstep
      have htouches : s.control.Touches control s.sockets result
          (s.control.socketsAfter s.sockets result pieces a) :=
        ControlThreads.touches_of_step h.linked hmay.2 hcontrol
      exact htouches.calls
  | streaming datagrams =>
      simp only [ServerProcess.step, ServerProcess.streamingStep] at hstep
      split at hstep
      · obtain rfl := Option.some.inj hstep
        exact List.suffix_rfl
      · obtain rfl := Option.some.inj hstep
        exact (SocketHeap.works_callOn ..).calls
      · cases hstep
  | controlInput =>
      simp only [ServerProcess.step, ServerProcess.controlInputStep] at hstep
      split at hstep
      · obtain rfl := Option.some.inj hstep
        exact List.suffix_rfl
      · obtain rfl := Option.some.inj hstep
        exact (SocketHeap.works_callOn ..).calls
      · cases hstep

omit [FloatArith F] in
/-- Racing calls are made between the start of `TcpControlServer` and the
end of its `Stop`. -/
theorem Kept.serving_of_callsOn (h : s.Kept) {thread : ServerThread}
    {owner : SocketOwner} (hon : s.control.callsOn thread = some owner) :
    s.main.serving = true := by
  by_contra hout
  have hquiet := h.quiet (Bool.eq_false_iff.mpr hout)
  cases thread with
  | stop => cases hon
  | accept =>
      rw [ControlThreads.callsOn, hquiet.ended, if_neg (by simp)] at hon
      cases hon
  | worker n =>
      have hinactive := hquiet.inactive n
      simp only [ControlThreads.callsOn] at hon
      cases hpc : s.control.worker n with
      | absent => simp [hpc, ControlWorkerPc.socket] at hon
      | done => simp [hpc, ControlWorkerPc.socket] at hon
      | _ =>
          rw [hpc] at hinactive
          cases hinactive

/-- The threads are at their ends. A `ControlWorker` has lowered the count
and only gives up its session. -/
structure Ended (s : ServerProcess F) : Prop where
  streaming : s.streaming.worker = .absent
  controlInput : s.controlInput.worker = .absent
  accept : s.control.accept = .ended
  workers : ∀ n, (s.control.worker n).isActive = false

omit [FloatArith F] in
theorem Kept.ended (h : s.Kept) (hpc : s.main = .returned) : s.Ended := by
  have hquiet := h.quiet (by rw [hpc]; rfl)
  have hstreaming := h.streaming
  have hinput := h.controlInput
  rw [hpc] at hstreaming hinput
  exact ⟨hstreaming.absent, hinput.absent, hquiet.ended, hquiet.inactive⟩

end

end ServerProcess

/-! ## Every run -/

namespace RacingProcess

section

variable {F : Type} [FloatArith F] {clientIp : Nat → String}
  {host : Endian.ByteOrder} {x y : RacingProcess F} {a : RacingAction}

structure Traced (x : RacingProcess F) : Prop where
  kept : x.process.Kept
  left : ∀ i k, x.left i = some k → x.process.sockets.Known k
  read : ∀ thread k, x.read thread = some k → x.process.sockets.Known k
  raced : ∀ call ∈ x.raced, call.main.serving = true
    ∧ x.process.sockets.Known call.socket

omit [FloatArith F] in
theorem Traced.socketOf (h : x.Traced) (i : SocketOwner) :
    x.process.sockets.Known (x.socketOf i) := by
  unfold RacingProcess.socketOf
  cases hheld : x.process.sockets.held i with
  | some k => exact h.kept.owned.known hheld
  | none =>
      cases hleft : x.left i with
      | some k => exact h.left i k hleft
      | none => exact Or.inl rfl

theorem Traced.process (h : x.Traced) {a : ProcessAction}
    {process : ServerProcess F}
    (hstep : x.process.step clientIp host a = some process) :
    Traced { x with
      process
      left := x.leftAfter process
      read := x.readAfter process } := by
  have hcalls := h.kept.step_calls hstep
  refine ⟨h.kept.step hstep, fun i k hk => ?_, fun thread k hk => ?_,
    fun call hcall => (h.raced call hcall).imp_right fun hknown =>
      hknown.mono hcalls⟩
  · dsimp only [leftAfter] at hk
    split at hk
    · cases hk
    · refine SocketHeap.Known.mono ?_ hcalls
      cases hheld : x.process.sockets.held i with
      | some j =>
          rw [hheld] at hk
          rw [← Option.some.inj hk]
          exact h.kept.owned.known hheld
      | none =>
          rw [hheld] at hk
          exact h.left i k hk
  · dsimp only [readAfter] at hk
    split at hk
    · exact (h.read thread k hk).mono hcalls
    · cases hk

theorem Traced.step (h : x.Traced)
    (hstep : x.step clientIp host a = some y) : y.Traced := by
  have hupdate : ∀ (thread : ServerThread) (now : Option Socket),
      (∀ k, now = some k → x.process.sockets.Known k) →
      ∀ other k, Function.update x.read thread now other = some k →
        x.process.sockets.Known k := by
    intro thread now hnow other k hk
    by_cases hother : other = thread
    · rw [hother, Function.update_self] at hk
      exact hnow k hk
    · rw [Function.update_of_ne hother] at hk
      exact h.read other k hk
  cases a with
  | process a =>
      obtain ⟨process, hprocess, rfl⟩ := Option.map_eq_some_iff.mp hstep
      exact h.process hprocess
  | store i =>
      obtain rfl := Option.some.inj hstep
      refine ⟨h.kept, fun j k hk => ?_, h.read, h.raced⟩
      by_cases hji : j = i
      · rw [hji] at hk
        simp at hk
      · exact h.left j k (by simpa [Function.update_of_ne hji] using hk)
  | read thread =>
      obtain ⟨i, -, rfl⟩ := Option.map_eq_some_iff.mp hstep
      refine ⟨h.kept, h.left, hupdate thread _ fun k hk => ?_, h.raced⟩
      rw [← Option.some.inj hk]
      exact h.socketOf i
  | call thread =>
      simp only [RacingProcess.step] at hstep
      split at hstep
      · rename_i owner socket hon hread
        obtain rfl := Option.some.inj hstep
        refine ⟨h.kept, h.left, hupdate thread _ fun k hk => (nomatch hk), ?_⟩
        intro call hcall
        rcases List.mem_cons.mp hcall with rfl | hold
        · exact ⟨h.kept.serving_of_callsOn hon, h.read thread socket hread⟩
        · exact h.raced call hold
      · cases hstep

theorem traced_reachable (h : (system clientIp host).Reachable x) :
    x.Traced := by
  refine h.invariant ?_ fun _ _ _ hx _ hstep => hx.step hstep
  rintro _ rfl
  exact ⟨ServerProcess.kept_begun, fun _ _ hk => (nomatch hk),
    fun _ _ hk => (nomatch hk), fun _ hcall => (nomatch hcall)⟩

/-- In every run of the server: a handle is closed once for each time it
is opened, and every call but `accept`, `recv` and `send` finds its socket
open; an open one has one owner; and no thread outlives what it works
with. The calls that race with a `Close` are at least on handles that were
the process's own, while `TcpControlServer` runs. When `main` has returned
the threads are at their ends, everything is closed, and all of it
happened between `WSAStartup` and `WSACleanup`. -/
theorem server_leaves_nothing (h : (system clientIp host).Reachable x) :
    Proper x.process.sockets.log
      ∧ Exclusive x.process.sockets.held (inUse x.process.sockets.log)
      ∧ x.process.Sheltered
      ∧ (∀ call ∈ x.raced, call.main.serving = true
        ∧ x.process.sockets.Known call.socket)
      ∧ (x.process.main = .returned → x.process.Ended
        ∧ (∀ k, x.process.sockets.log.count (.opens k)
          = x.process.sockets.log.count (.closes k))
        ∧ (x.process.sockets.calls = []
          ∨ ∃ inner, x.process.sockets.calls = .wsaCleanup :: inner
            ∧ [.wsaStartup] <:+ inner)) := by
  have hx := traced_reachable h
  have hs := hx.kept
  refine ⟨hs.owned.proper, hs.owned.exclusive, hs.sheltered, hx.raced,
    fun hpc => ⟨hs.ended hpc,
      hs.owned.balanced (hs.held_of_returned hpc), ?_⟩⟩
  have hcalls := hs.calls
  rw [hpc] at hcalls
  exact hcalls

end

/-- `Stop` closes the socket of client 1 between the moment its worker
reads `socket_` and the `recv` it reads it for. -/
def racingRun : List RacingAction :=
  [(ServerProcess.startUp ++ ServerProcess.shutDown.take 1).map .process,
    [.read (.worker 1), .call (.worker 1), .read (.worker 1)],
    ((ServerProcess.shutDown.drop 1).take 8).map .process,
    [.call (.worker 1), .store (.session 1)],
    (ServerProcess.shutDown.drop 9).map .process].flatten

theorem server_leaves_nothing_silent :
    ∃ x : RacingProcess Float32,
      (system (fun _ => "127.0.0.1") .little).run begun racingRun = some x
        ∧ x.process.main = .returned
        ∧ x.raced = [⟨.session 1, 52, .stoppingControl false⟩,
          ⟨.session 1, 52, .reading⟩]
        ∧ x.process.Ended
        ∧ x.process.sockets.log.count (.closes 52) = 1 := by
  obtain ⟨x, hrun, hx, hp⟩ := Lts.exists_run
    (system (F := Float32) (fun _ => "127.0.0.1") .little) rfl racingRun
    (fun x => x.process.main == .returned
      && x.raced == [⟨.session 1, 52, .stoppingControl false⟩,
        ⟨.session 1, 52, .reading⟩]
      && x.process.sockets.log.count (.opens 52) == 1)
    (by decide +kernel)
  simp only [Bool.and_eq_true, beq_iff_eq] at hp
  obtain ⟨⟨hreturned, hraced⟩, honce⟩ := hp
  obtain ⟨-, -, -, -, hdone⟩ := server_leaves_nothing hx
  obtain ⟨hended, hclosed, -⟩ := hdone hreturned
  exact ⟨x, hrun, hreturned, hraced, hended, (hclosed 52).symm.trans honce⟩

end RacingProcess

end NetworkControl
