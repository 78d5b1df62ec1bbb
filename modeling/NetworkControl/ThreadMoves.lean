import NetworkControl.ControlThreads

/-!
# What the server's threads can do

The steps of `ControlThreads`, one constructor of `Moves` for each access
that matters to a shutdown, and what the places in the threads' functions
stand for. The invariants read a step through `moves_of_step` only.
-/

namespace NetworkControl

/-! ## Places -/

/-- In or before a `ReceiveAll` of the current message. -/
def ControlWorkerPc.isReceiving : ControlWorkerPc → Bool
  | receivingHeader => true
  | receivingPayload _ => true
  | _ => false

/-- Started, and the count not lowered. -/
def ControlWorkerPc.isActive : ControlWorkerPc → Bool
  | absent => false
  | done => false
  | _ => true

/-- Between its start and `RemoveSession`. -/
def ControlWorkerPc.isListed : ControlWorkerPc → Bool
  | absent => false
  | stopping => false
  | closing => false
  | counting => false
  | done => false
  | _ => true

theorem ControlWorkerPc.afterMessage_isActive (keep : Bool)
    (type : MessageType) (isUdpEndpointRegistered : Bool) :
    (afterMessage keep type isUdpEndpointRegistered).isActive = true := by
  unfold afterMessage
  split
  · rfl
  · split <;> rfl

/-- The session the accept thread is working on. -/
def AcceptPc.session : AcceptPc → Option Nat
  | adding n => some n
  | counting n => some n
  | starting n => some n
  | _ => none

/-- Between the increment of the count and the start of the worker. -/
def AcceptPc.pending : AcceptPc → Int
  | starting _ => 1
  | _ => 0

theorem AcceptPc.pending_of_session {pc : AcceptPc}
    (h : pc.session = none) : pc.pending = 0 := by
  cases pc with
  | starting n => cases h
  | _ => rfl

/-- The loop over the snapshot is behind. -/
def StopPc.hasStoppedSessions : StopPc → Bool
  | joining => true
  | waiting => true
  | returned => true
  | _ => false

/-- `n` is still to be stopped, if the snapshot has it. -/
def StopPc.Covers : StopPc → Nat → Prop
  | idle, _ => True
  | closing, _ => True
  | snapshotting, _ => True
  | stopping sessions, n => n ∈ sessions
  | closingSocket m sessions, n => n = m ∨ n ∈ sessions
  | _, _ => False

namespace ControlThreads

/-! ## What a step can do -/

section

variable {F : Type}

/-- One constructor for each access that matters to the shutdown; `quiet`
is a worker that changes its own place and session only. -/
inductive Moves (s : ControlThreads F) : ControlThreads F → Prop where
  | clear : s.stop = .idle →
      Moves s { s with isRunning := false, stop := .closing }
  | closeListener : s.stop = .closing →
      Moves s { s with listenerOpen := false, stop := .snapshotting }
  | stopSnapshot {order : List Nat} : s.stop = .snapshotting →
      order.Perm s.sessions → Moves s { s with stop := .stopping order }
  | stopSession {n : Nat} {rest : List Nat} :
      s.stop = .stopping (n :: rest) →
      Moves s { s.setSession n (s.control n).session.stopSession.1 with
        stop := .closingSocket n rest }
  | skipSession {n : Nat} {rest : List Nat} :
      s.stop = .stopping (n :: rest) → s.controlClosed n = true →
      Moves s { s.setSession n (s.control n).session.stopSession.1 with
        stop := .stopping rest }
  | stopped : s.stop = .stopping [] → Moves s { s with stop := .joining }
  | stopSocket {n : Nat} {rest : List Nat} :
      s.stop = .closingSocket n rest →
      Moves s { s.closeSocket n with stop := .stopping rest }
  | join : s.stop = .joining → s.accept = .ended →
      Moves s { s with stop := .waiting }
  | sleep : Moves s s
  | pass : s.stop = .waiting → s.activeControlWorkerCount ≤ 0 →
      Moves s { s with stop := .returned }
  | accept {pc : AcceptPc} : s.accept ≠ .ended → s.accept.session = none →
      pc.session = none → Moves s { s with accept := pc }
  | number : s.accept = .accepted → s.isRunning = true → Moves s { s with
        nextSessionId := s.nextSessionId + 1
        socketOpen := Function.update s.socketOpen s.nextSessionId true
        accept := .adding s.nextSessionId }
  | add {n : Nat} : s.accept = .adding n →
      Moves s { s with sessions := s.sessions ++ [n], accept := .counting n }
  | count {n : Nat} : s.accept = .counting n → Moves s { s with
        activeControlWorkerCount := s.activeControlWorkerCount + 1
        accept := .starting n }
  | start {n : Nat} : s.accept = .starting n →
      Moves s { s.setWorker n .testing with accept := .testing }
  | receive {n : Nat} : s.worker n = .testing → s.isRunning = true →
      Moves s (s.setWorker n .receivingHeader)
  | quiet {n : Nat} {pc : ControlWorkerPc} {control : Nat → Control F} :
      (s.worker n).isActive = true → pc.isActive = true →
      (pc.isReceiving = true → (s.worker n).isReceiving = true) →
      (pc.isListed = true → (s.worker n).isListed = true) →
      s.worker n ≠ .closing →
      (∀ m, (control m).session.isControlConnectionClosed
        = s.controlClosed m) →
      Moves s { s with
        worker := Function.update s.worker n pc
        control := control }
  | erase {n : Nat} : s.worker n = .removing →
      Moves s { s.setWorker n .stopping with
        sessions := s.sessions.filter (· ≠ n) }
  | exchange {n : Nat} : s.worker n = .stopping →
      Moves s ((s.setSession n (s.control n).session.stopSession.1).setWorker
        n .closing)
  | close {n : Nat} : s.worker n = .closing →
      Moves s ((s.closeSocket n).setWorker n .counting)
  | finish {n : Nat} : s.worker n = .counting →
      Moves s { s.setWorker n .done with
        activeControlWorkerCount := s.activeControlWorkerCount - 1 }

variable {s t : ControlThreads F}

theorem moves_of_stopStep (h : s.stopStep = some t) : Moves s t := by
  unfold stopStep at h
  split at h
  · rename_i hpc
    obtain rfl := Option.some.inj h
    exact .clear hpc
  · rename_i hpc
    obtain rfl := Option.some.inj h
    exact .closeListener hpc
  · rename_i n rest hpc
    obtain rfl := Option.some.inj h
    cases hclosed : s.controlClosed n with
    | false =>
        have hcloses : (s.control n).session.stopSession.2 = true :=
          congrArg (!·) hclosed
        rw [if_pos hcloses]
        exact .stopSession hpc
    | true =>
        have hcloses : (s.control n).session.stopSession.2 = false :=
          congrArg (!·) hclosed
        rw [if_neg (by simp [hcloses])]
        exact .skipSession hpc hclosed
  · rename_i hpc
    obtain rfl := Option.some.inj h
    exact .stopped hpc
  · rename_i hpc
    obtain rfl := Option.some.inj h
    exact .stopSocket hpc
  · rename_i hpc
    split at h
    · rename_i hended
      obtain rfl := Option.some.inj h
      exact .join hpc hended
    · cases h
  · rename_i hpc
    split at h
    · obtain rfl := Option.some.inj h
      exact .sleep
    · rename_i hcount
      obtain rfl := Option.some.inj h
      exact .pass hpc (Int.not_lt.mp hcount)
  · cases h

theorem moves_of_acceptStep {connection : Bool}
    (h : s.acceptStep connection = some t) : Moves s t := by
  unfold acceptStep at h
  split at h
  · rename_i hpc
    obtain rfl := Option.some.inj h
    refine .accept (by simp [hpc]) (by rw [hpc]; rfl) ?_
    split <;> rfl
  · rename_i hpc
    split at h
    · obtain rfl := Option.some.inj h
      exact .accept (by simp [hpc]) (by rw [hpc]; rfl) rfl
    · split at h
      · obtain rfl := Option.some.inj h
        exact .accept (by simp [hpc]) (by rw [hpc]; rfl) rfl
      · cases h
  · rename_i hpc
    split at h
    · obtain rfl := Option.some.inj h
      exact .accept (by simp [hpc]) (by rw [hpc]; rfl) rfl
    · rename_i hrunning
      obtain rfl := Option.some.inj h
      exact .number hpc (by simpa using hrunning)
  · rename_i hpc
    obtain rfl := Option.some.inj h
    exact .add hpc
  · rename_i hpc
    obtain rfl := Option.some.inj h
    exact .count hpc
  · rename_i hpc
    obtain rfl := Option.some.inj h
    exact .start hpc
  · cases h

/-- A worker that only changes its place. -/
theorem Moves.setWorker {n : Nat} {pc : ControlWorkerPc}
    (hactive : (s.worker n).isActive = true) (hpc : pc.isActive = true)
    (hreceiving : pc.isReceiving = true → (s.worker n).isReceiving = true)
    (hlisted : pc.isListed = true → (s.worker n).isListed = true)
    (hclosing : s.worker n ≠ .closing) : Moves s (s.setWorker n pc) :=
  .quiet hactive hpc hreceiving hlisted hclosing fun _ => rfl

theorem setSession_controlClosed (n : Nat) (session : ClientSession F)
    (m : Nat) : (s.setSession n session).controlClosed m
      = if m = n then session.isControlConnectionClosed
        else s.controlClosed m := by
  by_cases hm : m = n
  · subst hm
    rw [if_pos rfl]
    simp [controlClosed, setSession]
  · rw [if_neg hm]
    simp [controlClosed, setSession, hm]

theorem setSession_controlClosed_of_ne {n m : Nat} (hm : m ≠ n)
    (session : ClientSession F) :
    (s.setSession n session).controlClosed m = s.controlClosed m := by
  rw [setSession_controlClosed, if_neg hm]

/-- A second `StopSession` leaves the flag. -/
theorem stopSession_controlClosed {n : Nat} (hclosed : s.controlClosed n = true)
    (m : Nat) :
    (s.setSession n (s.control n).session.stopSession.1).controlClosed m
      = s.controlClosed m := by
  rw [setSession_controlClosed]
  split
  · rename_i hm
    rw [hm, hclosed]
    rfl
  · rfl

theorem moves_of_workerStep {n : Nat} (h : s.workerStep n = some t) :
    Moves s t := by
  unfold workerStep at h
  split at h
  · rename_i hpc
    obtain rfl := Option.some.inj h
    split
    · rename_i hrunning
      exact .receive hpc hrunning
    · exact .setWorker (by rw [hpc]; rfl) rfl (fun h => nomatch h)
        (fun _ => by rw [hpc]; rfl) (by simp [hpc])
  · rename_i hpc
    obtain rfl := Option.some.inj h
    exact .setWorker (by rw [hpc]; rfl) rfl (fun h => nomatch h)
      (fun _ => by rw [hpc]; rfl) (by simp [hpc])
  · rename_i hpc
    obtain rfl := Option.some.inj h
    exact .setWorker (by rw [hpc]; rfl) rfl (fun h => nomatch h)
      (fun _ => by rw [hpc]; rfl) (by simp [hpc])
  · rename_i hpc
    obtain rfl := Option.some.inj h
    refine .setWorker (by rw [hpc]; rfl) ?_ ?_ (fun _ => by rw [hpc]; rfl)
      (by simp [hpc])
    · split <;> rfl
    · split <;> exact fun h => nomatch h
  · rename_i hpc
    obtain rfl := Option.some.inj h
    exact .setWorker (by rw [hpc]; rfl) rfl (fun h => nomatch h)
      (fun _ => by rw [hpc]; rfl) (by simp [hpc])
  · rename_i hpc
    obtain rfl := Option.some.inj h
    exact .setWorker (by rw [hpc]; rfl) rfl (fun h => nomatch h)
      (fun _ => by rw [hpc]; rfl) (by simp [hpc])
  · rename_i hpc
    split at h
    · obtain rfl := Option.some.inj h
      exact .erase hpc
    · obtain rfl := Option.some.inj h
      exact .setWorker (by rw [hpc]; rfl) rfl (fun h => nomatch h)
        (fun h => nomatch h) (by simp [hpc])
  · rename_i hpc
    obtain rfl := Option.some.inj h
    cases hclosed : s.controlClosed n with
    | false =>
        have hcloses : (s.control n).session.stopSession.2 = true :=
          congrArg (!·) hclosed
        rw [if_pos hcloses]
        exact .exchange hpc
    | true =>
        have hcloses : (s.control n).session.stopSession.2 = false :=
          congrArg (!·) hclosed
        rw [if_neg (by simp [hcloses])]
        exact .quiet (by rw [hpc]; rfl) rfl (fun h => nomatch h)
          (fun h => nomatch h) (by simp [hpc])
          (stopSession_controlClosed hclosed)
  · rename_i hpc
    obtain rfl := Option.some.inj h
    exact .close hpc
  · rename_i hpc
    obtain rfl := Option.some.inj h
    exact .finish hpc
  · cases h

theorem moves_of_workerSnapshot {n : Nat} {order : List Nat}
    (h : s.workerSnapshot n order = some t) : Moves s t := by
  unfold workerSnapshot at h
  split at h
  · rename_i hpc
    obtain rfl := Option.some.inj h
    exact .setWorker (by rw [hpc]; rfl) rfl (fun h => nomatch h)
      (fun _ => by rw [hpc]; rfl) (by simp [hpc])
  · rename_i hpc
    obtain rfl := Option.some.inj h
    exact .setWorker (by rw [hpc]; rfl) rfl (fun h => nomatch h)
      (fun _ => by rw [hpc]; rfl) (by simp [hpc])
  · cases h

end

section

variable {F : Type} [FloatArith F] {clientIp : Nat → String}
  {host : Endian.ByteOrder} {s t : ControlThreads F} {a : ThreadAction}

/-- A message processed. -/
theorem Moves.handle {n : Nat} (hreceiving : (s.worker n).isReceiving = true)
    (type : MessageType) (payloadBytes : List UInt8) :
    Moves s (s.handle clientIp host n type payloadBytes) := by
  have hactive : (s.worker n).isActive = true
      ∧ (s.worker n).isListed = true ∧ s.worker n ≠ .closing := by
    cases hpc : s.worker n with
    | receivingHeader => exact ⟨rfl, rfl, fun h => nomatch h⟩
    | receivingPayload type => exact ⟨rfl, rfl, fun h => nomatch h⟩
    | _ =>
        rw [hpc] at hreceiving
        cases hreceiving
  refine .quiet hactive.1 (ControlWorkerPc.afterMessage_isActive _ _ _)
    (fun _ => hreceiving) (fun _ => hactive.2.1) hactive.2.2 fun m => ?_
  · by_cases hm : m = n
    · subst hm
      rw [Function.update_self]
      exact handleReceived_isControlConnectionClosed _ _ _ _ _
    · rw [Function.update_of_ne hm]
      rfl

theorem moves_of_receive {n : Nat} {received : Option (List UInt8)}
    (h : s.receive clientIp host n received = some t) : Moves s t := by
  unfold receive at h
  split at h
  · rename_i hpc
    obtain rfl := Option.some.inj h
    exact .setWorker (by rw [hpc]; rfl) rfl (fun h => nomatch h)
      (fun _ => by rw [hpc]; rfl) (by simp [hpc])
  · rename_i hpc
    obtain rfl := Option.some.inj h
    exact .setWorker (by rw [hpc]; rfl) rfl (fun h => nomatch h)
      (fun _ => by rw [hpc]; rfl) (by simp [hpc])
  · rename_i headerByte hpc
    split at h
    · dsimp only at h
      split at h
      · obtain rfl := Option.some.inj h
        exact .handle (by rw [hpc]; rfl) _ _
      · obtain rfl := Option.some.inj h
        exact .setWorker (by rw [hpc]; rfl) rfl (fun _ => by rw [hpc]; rfl)
          (fun _ => by rw [hpc]; rfl) (by simp [hpc])
    · cases h
  · rename_i type payloadBytes hpc
    split at h
    · obtain rfl := Option.some.inj h
      exact .handle (by rw [hpc]; rfl) _ _
    · cases h
  · cases h

theorem moves_of_step (h : s.step clientIp host a = some t) : Moves s t := by
  cases a with
  | stop => exact moves_of_stopStep h
  | stopSnapshot order =>
      rw [step] at h
      split at h
      · rename_i hsnapshot
        obtain rfl := Option.some.inj h
        exact .stopSnapshot hsnapshot.1 hsnapshot.2
      · cases h
  | accept connection => exact moves_of_acceptStep h
  | worker n => exact moves_of_workerStep h
  | receive n received => exact moves_of_receive h
  | snapshot n order =>
      rw [step] at h
      split at h
      · exact moves_of_workerSnapshot h
      · cases h

end

end ControlThreads

end NetworkControl
