import Mathlib.Data.Prod.Lex
import NetworkControl.ServerLifetime

/-!
# main returns

`ServerRaces` says what holds when the server's `main` has returned;
`main_returns` says that it gets to the console or returns, and once the
console is done that it does return. As for
`TcpControlServer::Stop` nothing is asked of the clients; of the console
neither. What `UdpControlInputReceiver` waits for ends by itself, with the
timeout set on its socket.

The places of `main` only go down in rank. Where `main` waits for others,
the second component says how far they are: `Stop` with the threads of
`ControlThreads`, or the thread that is joined.
-/

namespace NetworkControl

/-! ## What is left to do -/

/-- Both calls of a `Stop` are counted: the destructors run it again. -/
def MainPc.rank : MainPc → Nat
  | startingUp => 28
  | constructing => 27
  | startingStreaming => 26
  | startingControlInput => 25
  | startingControl => 24
  | reading => 23
  | stoppingControl leaving => if leaving then 13 else 21
  | destroyingControl => 12
  | clearingControlInput leaving => if leaving then 11 else 20
  | joiningControlInput leaving => if leaving then 10 else 19
  | closingControlInput leaving => if leaving then 9 else 18
  | destroyingControlInput => 8
  | exchangingStreaming leaving => if leaving then 7 else 17
  | joiningStreaming leaving => if leaving then 6 else 16
  | closingStreaming leaving => if leaving then 5 else 15
  | destroyingStreaming => 4
  | closingAll => 3
  | cleaningUp => 2
  | returned => 0

/-- Where a step of `main` may lead. -/
def MainPc.next : MainPc → List MainPc
  | startingUp => [constructing, returned]
  | constructing => [startingStreaming]
  | startingStreaming => [startingControlInput, stoppingControl true]
  | startingControlInput => [startingControl, stoppingControl true]
  | startingControl => [reading, stoppingControl true]
  | reading => [stoppingControl false]
  | stoppingControl leaving =>
      [if leaving then destroyingControl else clearingControlInput false]
  | destroyingControl => [clearingControlInput true]
  | clearingControlInput leaving => [joiningControlInput leaving]
  | joiningControlInput leaving => [closingControlInput leaving]
  | closingControlInput leaving =>
      [if leaving then destroyingControlInput else exchangingStreaming false]
  | destroyingControlInput => [exchangingStreaming true]
  | exchangingStreaming leaving =>
      [joiningStreaming leaving, afterStreaming leaving]
  | joiningStreaming leaving => [closingStreaming leaving]
  | closingStreaming leaving => [afterStreaming leaving]
  | destroyingStreaming => [closingAll]
  | closingAll => [cleaningUp]
  | cleaningUp => [returned]
  | returned => []

theorem MainPc.next_rank {pc pc' : MainPc} (hpc : pc ≠ reading)
    (h : pc' ∈ pc.next) :
    pc'.rank < pc.rank ∧ pc' ≠ stoppingControl false := by
  revert pc'
  cases pc with
  | reading => exact absurd rfl hpc
  | stoppingControl leaving => cases leaving <;> decide
  | clearingControlInput leaving => cases leaving <;> decide
  | joiningControlInput leaving => cases leaving <;> decide
  | closingControlInput leaving => cases leaving <;> decide
  | exchangingStreaming leaving => cases leaving <;> decide
  | joiningStreaming leaving => cases leaving <;> decide
  | closingStreaming leaving => cases leaving <;> decide
  | _ => decide

/-- The console is done, and `main` has not returned. -/
def MainPc.leaving (pc : MainPc) : Bool :=
  pc.rank < reading.rank && pc != returned

def ServiceWorkerPc.rank : ServiceWorkerPc → Nat
  | working => 2
  | testing => 1
  | _ => 0

/-- Whose step it is; `Stop` is run by `main`. -/
inductive ProcessThread where
  | main
  | streaming
  | controlInput
  | control (thread : ServerThread)
deriving DecidableEq, Repr

def ServerThread.process : ServerThread → ProcessThread
  | stop => .main
  | thread => .control thread

def ProcessAction.thread : ProcessAction → ProcessThread
  | main _ => .main
  | control a _ _ => a.thread.process
  | streaming _ => .streaming
  | controlInput => .controlInput

theorem Service.join_isSome {s : Service} (h : s.worker.rank = 0) :
    s.join.isSome = true := by
  unfold join
  cases hworker : s.worker with
  | absent => rfl
  | ended => rfl
  | _ =>
      rw [hworker] at h
      cases h

theorem MainPc.of_serving {pc : MainPc} (h : pc.serving = true) :
    pc = .reading ∨ pc = .stoppingControl false := by
  cases pc with
  | reading => exact Or.inl rfl
  | stoppingControl leaving =>
      cases leaving with
      | false => exact Or.inr rfl
      | true => cases h
  | _ => cases h

namespace ControlThreads

section

variable {F : Type} [FloatArith F] {clientIp : Nat → String}
  {host : Endian.ByteOrder} {s t : ControlThreads F} {thread : ServerThread}

theorem Steps.clears (h : Steps clientIp host s thread t)
    (hthread : thread = .stop) (hidle : s.stop = .idle) :
    t.stop = .closing := by
  subst hthread
  cases h with
  | clear hpc => rfl
  | closeListener hpc => simp [hidle] at hpc
  | stopSnapshot hpc horder => simp [hidle] at hpc
  | stopSession hpc => simp [hidle] at hpc
  | skipSession hpc hclosed => simp [hidle] at hpc
  | stopped hpc => simp [hidle] at hpc
  | stopSocket hpc => simp [hidle] at hpc
  | join hpc hended => simp [hidle] at hpc
  | sleep hpc hcount => simp [hidle] at hpc
  | pass hpc hcount => simp [hidle] at hpc

theorem Steps.stop_kept (h : Steps clientIp host s thread t)
    (hthread : thread ≠ .stop) : t.stop = s.stop := by
  cases h <;> first | rfl | exact absurd rfl hthread

end

end ControlThreads

namespace ServerProcess

section

variable {F : Type}

/-- Waiting for somebody outside of the server. -/
def Blocked (s : ServerProcess F) : ProcessThread → Prop
  | .main => s.main = .reading
  | .control thread => s.control.Blocked thread
  | .streaming => False
  | .controlInput => False

/-- The call of `Stop` that clears the flag counts as a place of its own. -/
def place (s : ServerProcess F) : Nat :=
  s.main.rank
    + if s.main = .stoppingControl false ∧ s.control.stop = .idle then 1
      else 0

/-- How far those are that `main` waits for. -/
def others (s : ServerProcess F) : Nat :=
  match s.main with
  | .stoppingControl false =>
      if s.control.stop = .idle then 0 else s.control.rank
  | .joiningControlInput _ => s.controlInput.worker.rank
  | .joiningStreaming _ => s.streaming.worker.rank
  | _ => 0

def rank (s : ServerProcess F) : ℕ ×ₗ ℕ := toLex (s.place, s.others)

/-- Who takes `main` nearer to its end. -/
def helper (s : ServerProcess F) : ProcessThread :=
  match s.main with
  | .stoppingControl false =>
      if s.control.stop = .idle ∨ s.control.stop = .returned then .main
      else s.control.helper.process
  | .joiningControlInput _ =>
      if s.controlInput.worker.rank = 0 then .main else .controlInput
  | .joiningStreaming _ =>
      if s.streaming.worker.rank = 0 then .main else .streaming
  | _ => .main

def AtWork (s : ServerProcess F) : Prop :=
  s.main ≠ .reading ∧ s.main ≠ .returned

variable {s t : ServerProcess F}

theorem rank_lt_of_place (h : t.place < s.place) : t.rank < s.rank :=
  Prod.Lex.toLex_lt_toLex.mpr (Or.inl h)

theorem rank_lt_of_others (hplace : t.place = s.place)
    (h : t.others < s.others) : t.rank < s.rank :=
  Prod.Lex.toLex_lt_toLex.mpr (Or.inr ⟨hplace, h⟩)

/-! ## Every step -/

/-- A service's thread only goes round while the service runs. -/
theorem streamingStep_goes {datagrams : Nat}
    (hstep : s.streamingStep datagrams = some t) :
    ∃ sockets streaming, t = { s with sockets, streaming }
      ∧ (s.streaming.isRunning = false →
        streaming.worker.rank < s.streaming.worker.rank) := by
  unfold streamingStep at hstep
  split at hstep
  · rename_i hworker
    refine ⟨_, _, (Option.some.inj hstep).symm, fun hcleared => ?_⟩
    simp [hworker, hcleared, ServiceWorkerPc.rank]
  · rename_i hworker
    refine ⟨_, _, (Option.some.inj hstep).symm, fun _ => ?_⟩
    simp [hworker, ServiceWorkerPc.rank]
  · cases hstep

theorem controlInputStep_goes (hstep : s.controlInputStep = some t) :
    ∃ sockets controlInput, t = { s with sockets, controlInput }
      ∧ (s.controlInput.isRunning = false →
        controlInput.worker.rank < s.controlInput.worker.rank) := by
  unfold controlInputStep at hstep
  split at hstep
  · rename_i hworker
    refine ⟨_, _, (Option.some.inj hstep).symm, fun hcleared => ?_⟩
    simp [hworker, hcleared, ServiceWorkerPc.rank]
  · rename_i hworker
    refine ⟨_, _, (Option.some.inj hstep).symm, fun _ => ?_⟩
    simp [hworker, ServiceWorkerPc.rank]
  · cases hstep

theorem process_ne (thread : ServerThread) :
    thread.process ≠ .streaming ∧ thread.process ≠ .controlInput := by
  cases thread <;> exact ⟨by simp [ServerThread.process],
    by simp [ServerThread.process]⟩

/-- Nobody waits for the thread of a service that is not being joined. -/
theorem streaming_aside (hpc : ∀ leaving, s.main ≠ .joiningStreaming leaving)
    (sockets : SocketHeap SocketOwner) (streaming : Service) :
    rank { s with sockets, streaming } = s.rank
      ∧ helper { s with sockets, streaming } = s.helper
      ∧ s.helper ≠ .streaming := by
  obtain ⟨main, _, _, _, control⟩ := s
  cases main with
  | joiningStreaming leaving => exact absurd rfl (hpc leaving)
  | stoppingControl leaving =>
      cases leaving with
      | true => exact ⟨rfl, rfl, fun h => nomatch h⟩
      | false =>
          refine ⟨rfl, rfl, ?_⟩
          simp only [helper]
          split
          · simp
          · exact (process_ne _).1
  | joiningControlInput leaving =>
      refine ⟨rfl, rfl, ?_⟩
      simp only [helper]
      split <;> simp
  | _ => exact ⟨rfl, rfl, fun h => nomatch h⟩

theorem controlInput_aside
    (hpc : ∀ leaving, s.main ≠ .joiningControlInput leaving)
    (sockets : SocketHeap SocketOwner) (controlInput : Service) :
    rank { s with sockets, controlInput } = s.rank
      ∧ helper { s with sockets, controlInput } = s.helper
      ∧ s.helper ≠ .controlInput := by
  obtain ⟨main, _, _, _, control⟩ := s
  cases main with
  | joiningControlInput leaving => exact absurd rfl (hpc leaving)
  | stoppingControl leaving =>
      cases leaving with
      | true => exact ⟨rfl, rfl, fun h => nomatch h⟩
      | false =>
          refine ⟨rfl, rfl, ?_⟩
          simp only [helper]
          split
          · simp
          · exact (process_ne _).2
  | joiningStreaming leaving =>
      refine ⟨rfl, rfl, ?_⟩
      simp only [helper]
      split <;> simp
  | _ => exact ⟨rfl, rfl, fun h => nomatch h⟩

/-- Where `main` joins the thread of `UdpStreamingService`, the flag is
cleared; elsewhere nobody waits for it. -/
theorem Kept.streamingStep_helps (h : s.Kept) {datagrams : Nat}
    (hstep : s.streamingStep datagrams = some t) :
    t.rank < s.rank ∨ t.rank = s.rank ∧ t.helper = s.helper
      ∧ s.helper ≠ .streaming := by
  obtain ⟨sockets, streaming, rfl, hgoes⟩ := streamingStep_goes hstep
  by_cases hpc : ∃ leaving, s.main = .joiningStreaming leaving
  · obtain ⟨leaving, hpc⟩ := hpc
    have hfits := h.streaming
    rw [hpc] at hfits
    have hcleared : s.streaming.isRunning = false :=
      Bool.eq_false_iff.mpr fun hrunning => nomatch hfits.running hrunning
    refine Or.inl (rank_lt_of_others rfl ?_)
    simpa [others, hpc] using hgoes hcleared
  · exact Or.inr (streaming_aside (not_exists.mp hpc) sockets streaming)

theorem Kept.controlInputStep_helps (h : s.Kept)
    (hstep : s.controlInputStep = some t) :
    t.rank < s.rank ∨ t.rank = s.rank ∧ t.helper = s.helper
      ∧ s.helper ≠ .controlInput := by
  obtain ⟨sockets, controlInput, rfl, hgoes⟩ := controlInputStep_goes hstep
  by_cases hpc : ∃ leaving, s.main = .joiningControlInput leaving
  · obtain ⟨leaving, hpc⟩ := hpc
    have hfits := h.controlInput
    rw [hpc] at hfits
    have hcleared : s.controlInput.isRunning = false :=
      Bool.eq_false_iff.mpr fun hrunning => nomatch hfits.running hrunning
    refine Or.inl (rank_lt_of_others rfl ?_)
    simpa [others, hpc] using hgoes hcleared
  · exact Or.inr (controlInput_aside (not_exists.mp hpc) sockets controlInput)

variable [FloatArith F]

theorem mainStep_next {r : CallResults} (hstep : s.mainStep r = some t) :
    t.main ∈ s.main.next := by
  obtain ⟨main, sockets, streaming, controlInput, control⟩ := s
  cases main with
  | returned => cases hstep
  | startingUp =>
      unfold mainStep at hstep
      dsimp only at hstep
      split at hstep <;> obtain rfl := Option.some.inj hstep <;>
        simp [MainPc.next]
  | startingStreaming =>
      unfold mainStep at hstep
      dsimp only at hstep
      split at hstep
      · split at hstep <;> obtain rfl := Option.some.inj hstep <;>
          simp [MainPc.next]
      · cases hstep
  | startingControlInput =>
      unfold mainStep at hstep
      dsimp only at hstep
      split at hstep
      · split at hstep <;> obtain rfl := Option.some.inj hstep <;>
          simp [MainPc.next]
      · cases hstep
  | startingControl =>
      unfold mainStep at hstep
      dsimp only at hstep
      split at hstep
      · split at hstep <;> obtain rfl := Option.some.inj hstep <;>
          simp [MainPc.next]
      · cases hstep
  | stoppingControl leaving =>
      unfold mainStep at hstep
      dsimp only at hstep
      split at hstep
      · obtain rfl := Option.some.inj hstep
        simp [MainPc.next]
      · cases hstep
  | exchangingStreaming leaving =>
      unfold mainStep at hstep
      dsimp only at hstep
      split at hstep <;> obtain rfl := Option.some.inj hstep <;>
        simp [MainPc.next]
  | joiningControlInput leaving =>
      obtain ⟨joined, -, rfl⟩ := Option.map_eq_some_iff.mp hstep
      simp [MainPc.next]
  | joiningStreaming leaving =>
      obtain ⟨joined, -, rfl⟩ := Option.map_eq_some_iff.mp hstep
      simp [MainPc.next]
  | _ =>
      obtain rfl := Option.some.inj hstep
      simp [MainPc.next]

/-- But for the console, `main` goes on to a place of lower rank. -/
theorem mainStep_nearer {r : CallResults} (hpc : s.main ≠ .reading)
    (hstep : s.mainStep r = some t) : t.rank < s.rank := by
  obtain ⟨hless, hout⟩ := MainPc.next_rank hpc (mainStep_next hstep)
  refine rank_lt_of_place ?_
  unfold place
  rw [if_neg fun h => hout h.1]
  omega

variable {clientIp : Nat → String} {host : Endian.ByteOrder}

/-- A thread of `TcpControlServer` takes `main` nearer to its end, unless
`main` has not called `Stop` yet, or sleeps in it. -/
theorem Kept.controlStep_helps (h : s.Kept) (hwork : s.AtWork)
    {a : ThreadAction} {result : Socket} {pieces : Nat}
    (hstep : s.controlStep clientIp host a result pieces = some t) :
    t.rank < s.rank ∨ t.rank = s.rank ∧ t.helper = s.helper
      ∧ s.helper ≠ a.thread.process := by
  unfold ServerProcess.controlStep at hstep
  split at hstep
  · rename_i hmay
    obtain ⟨control, hcontrol, rfl⟩ := Option.map_eq_some_iff.mp hstep
    have hserving := h.serving_of_step hmay.1 hcontrol
    have hpc := (MainPc.of_serving hserving).resolve_left hwork.1
    have hs := h.serving hserving
    have hsteps := ControlThreads.steps_of_step hcontrol
    by_cases hidle : s.control.stop = .idle
    · by_cases hthread : a.thread = .stop
      · have hclosing := hsteps.clears hthread hidle
        refine Or.inl (rank_lt_of_place ?_)
        simp [place, hpc, hidle, hclosing]
      · have hstop := (hsteps.stop_kept hthread).trans hidle
        refine Or.inr ⟨?_, ?_, ?_⟩
        · simp [rank, place, others, hpc, hidle, hstop]
        · simp [helper, hpc, hidle, hstop]
        · cases hwho : a.thread with
          | stop => exact absurd hwho hthread
          | _ => simp [helper, hpc, hidle, ServerThread.process]
    · rcases hsteps.nearer hs.orderly hs.winding hidle with
        hless | ⟨hthread, rfl, hwaiting, hcount⟩
      · have hcalled := hsteps.called hidle
        refine Or.inl (rank_lt_of_others ?_ ?_)
        · simp [place, hpc, hidle, hcalled]
        · simpa [others, hpc, hidle, hcalled] using hless
      · refine Or.inr ⟨rfl, rfl, ?_⟩
        have hother := ControlThreads.helper_ne_stop hs.orderly hwaiting hcount
        rw [hthread]
        cases hwho : s.control.helper with
        | stop => exact absurd hwho hother
        | _ => simp [helper, hpc, hwaiting, hwho, ServerThread.process]
  · cases hstep

/-! ## Somebody can move -/

variable (clientIp host) in
/-- With a step to take, and not waiting for anybody outside. -/
def Ready (thread : ProcessThread) (s : ServerProcess F) : Prop :=
  ¬ s.Blocked thread
    ∧ (system clientIp host).Enabled (fun a => a.thread = thread) s

theorem mainStep_enabled (hwork : s.AtWork)
    (hcontrol : ∀ leaving, s.main = .stoppingControl leaving →
      s.control.isRunning = false
        ∧ (s.control.stop = .idle ∨ s.control.stop = .returned))
    (hinput : ∀ leaving, s.main = .joiningControlInput leaving →
      s.controlInput.worker.rank = 0)
    (hstreaming : ∀ leaving, s.main = .joiningStreaming leaving →
      s.streaming.worker.rank = 0) :
    Ready clientIp host .main s := by
  refine ⟨hwork.1, .main ⟨invalidSocket, true, true⟩, rfl, ?_⟩
  show (s.mainStep ⟨invalidSocket, true, true⟩).isSome = true
  have hreturns : ∀ sockets : SocketHeap SocketOwner,
      sockets.Returns invalidSocket := fun _ => Or.inl rfl
  unfold mainStep
  cases hpc : s.main with
  | returned => exact absurd hpc hwork.2
  | startingUp => rfl
  | startingStreaming =>
      dsimp only
      rw [if_pos (hreturns _)]
      split <;> rfl
  | startingControlInput =>
      dsimp only
      rw [if_pos (hreturns _)]
      split <;> rfl
  | startingControl =>
      dsimp only
      rw [if_pos (hreturns _)]
      split <;> rfl
  | stoppingControl leaving =>
      dsimp only
      rw [if_pos (hcontrol leaving hpc)]
      rfl
  | joiningControlInput leaving =>
      dsimp only
      rw [Option.isSome_map]
      exact Service.join_isSome (hinput leaving hpc)
  | joiningStreaming leaving =>
      dsimp only
      rw [Option.isSome_map]
      exact Service.join_isSome (hstreaming leaving hpc)
  | exchangingStreaming leaving =>
      dsimp only
      split <;> rfl
  | _ => rfl

omit [FloatArith F] in
theorem accept_false_enabled {c : ControlThreads F} {connection : Bool}
    (h : (c.acceptStep connection).isSome = true) :
    (c.acceptStep false).isSome = true := by
  unfold ControlThreads.acceptStep at h ⊢
  cases hpc : c.accept with
  | ended =>
      rw [hpc] at h
      exact h
  | accepted => cases hrunning : c.isRunning <;> simp
  | _ => simp

/-- A thread that is ready in `ControlThreads` is ready here; the system
may let an `accept` fail. -/
theorem control_ready {thread : ServerThread}
    (hready : ControlThreads.Ready clientIp host thread s.control)
    (hpc : s.main = .stoppingControl false)
    (hcalled : s.control.stop ≠ .idle) :
    Ready clientIp host thread.process s := by
  obtain ⟨hblocked, a, hthread, henabled⟩ := hready
  refine ⟨?_, ?_⟩
  · cases thread with
    | stop =>
        intro hreading
        exact MainPc.noConfusion (hpc.symm.trans hreading)
    | accept => exact hblocked
    | worker n => exact hblocked
  · have hmay : ∀ b, s.MayTake b := fun b _ =>
      ⟨Or.inl hpc, fun hidle => absurd hidle hcalled⟩
    have htake : ∀ b : ThreadAction, b.thread = thread →
        s.control.Accepts s.sockets invalidSocket b →
        (s.control.step clientIp host b).isSome = true →
        (system clientIp host).Enabled
          (fun b => b.thread = thread.process) s := by
      intro b hb haccepts hstep
      refine ⟨.control b invalidSocket 0,
        congrArg ServerThread.process hb, ?_⟩
      show (s.controlStep clientIp host b invalidSocket 0).isSome = true
      unfold controlStep
      rw [if_pos ⟨hmay b, haccepts⟩, Option.isSome_map]
      exact hstep
    cases a with
    | accept connection =>
        refine htake (.accept false) hthread (fun _ => ?_)
          (accept_false_enabled henabled)
        exact ⟨Or.inl rfl, fun _ => rfl, by simp⟩
    | _ => exact htake _ hthread trivial henabled

theorem Kept.helper_ready (h : s.Kept) (hwork : s.AtWork) :
    Ready clientIp host s.helper s := by
  unfold helper
  split
  · rename_i hpc
    have hs := h.serving (by rw [hpc]; rfl)
    split
    · rename_i hstop
      rcases hstop with hidle | hreturned
      · -- `Stop` clears the flag
        have hrunning := hs.called hidle
        refine ⟨hwork.1, .control .stop invalidSocket 0, rfl, ?_⟩
        show (s.controlStep clientIp host .stop invalidSocket 0).isSome = true
        unfold ServerProcess.controlStep
        rw [if_pos ⟨fun _ => ⟨Or.inl hpc, fun _ => hrunning⟩, trivial⟩]
        simp [ControlThreads.step, ControlThreads.stopStep, hidle]
      · refine mainStep_enabled hwork (fun _ _ => ?_) ?_ ?_
        · refine ⟨?_, Or.inr hreturned⟩
          by_contra hrunning
          have hidle := hs.orderly.flagged (by simpa using hrunning)
          rw [hreturned] at hidle
          cases hidle
        · intro l hl
          rw [hpc] at hl
          cases hl
        · intro l hl
          rw [hpc] at hl
          cases hl
    · rename_i hstop
      obtain ⟨hidle, hback⟩ := not_or.mp hstop
      exact control_ready (ControlThreads.helper_ready hs.orderly hs.winding
        ⟨hidle, hback⟩) hpc hidle
  · rename_i leaving hpc
    split
    · rename_i hended
      refine mainStep_enabled hwork ?_ (fun _ _ => hended) ?_
      · intro l hl
        rw [hpc] at hl
        cases hl
      · intro l hl
        rw [hpc] at hl
        cases hl
    · rename_i hgoing
      refine ⟨id, .controlInput, rfl, ?_⟩
      show s.controlInputStep.isSome = true
      unfold ServerProcess.controlInputStep
      cases hworker : s.controlInput.worker <;>
        simp_all [ServiceWorkerPc.rank]
  · rename_i leaving hpc
    split
    · rename_i hended
      refine mainStep_enabled hwork ?_ ?_ (fun _ _ => hended)
      · intro l hl
        rw [hpc] at hl
        cases hl
      · intro l hl
        rw [hpc] at hl
        cases hl
    · rename_i hgoing
      refine ⟨id, .streaming 0, rfl, ?_⟩
      show (s.streamingStep 0).isSome = true
      unfold ServerProcess.streamingStep
      cases hworker : s.streaming.worker <;>
        simp_all [ServiceWorkerPc.rank]
  · rename_i hstopping hinput hstreaming
    refine mainStep_enabled hwork ?_ (fun l hl => absurd hl (hinput l))
      (fun l hl => absurd hl (hstreaming l))
    intro l hl
    cases l with
    | false => exact absurd hl hstopping
    | true =>
        have hquiet := h.quiet (by rw [hl]; rfl)
        exact ⟨hquiet.cleared, hquiet.stopped⟩

/-! ## The end of main -/

theorem Kept.step_helps (h : s.Kept) (hwork : s.AtWork) {a : ProcessAction}
    (hstep : s.step clientIp host a = some t) :
    Lts.Behavior.Helps (fun thread a => ProcessAction.thread a = thread)
      AtWork rank helper s a t := by
  refine Or.inr ?_
  cases a with
  | main r => exact Or.inl (mainStep_nearer hwork.1 hstep)
  | control a result pieces =>
      exact (h.controlStep_helps hwork hstep).imp_right
        fun hsame => ⟨hsame.1, hsame.2.1, hsame.2.2.symm⟩
  | streaming datagrams =>
      exact (h.streamingStep_helps hstep).imp_right
        fun hsame => ⟨hsame.1, hsame.2.1, hsame.2.2.symm⟩
  | controlInput =>
      exact (h.controlInputStep_helps hstep).imp_right
        fun hsame => ⟨hsame.1, hsame.2.1, hsame.2.2.symm⟩

/-- Past the console `main` does not come back to it. -/
theorem leaving_kept {a : ProcessAction}
    (hleaving : s.main.rank < MainPc.reading.rank)
    (hstep : s.step clientIp host a = some t) :
    t.main.rank < MainPc.reading.rank := by
  cases a with
  | main r =>
      have hpc : s.main ≠ .reading := by
        intro hreading
        rw [hreading] at hleaving
        exact Nat.lt_irrefl _ hleaving
      exact (MainPc.next_rank hpc (mainStep_next hstep)).1.trans hleaving
  | control a result pieces =>
      change s.controlStep clientIp host a result pieces = some t at hstep
      unfold ServerProcess.controlStep at hstep
      split at hstep
      · obtain ⟨control, -, rfl⟩ := Option.map_eq_some_iff.mp hstep
        exact hleaving
      · cases hstep
  | streaming datagrams =>
      obtain ⟨sockets, streaming, rfl, -⟩ := streamingStep_goes hstep
      exact hleaving
  | controlInput =>
      obtain ⟨sockets, controlInput, rfl, -⟩ := controlInputStep_goes hstep
      exact hleaving

/-- Along every infinite run that is fair to `main` and its threads, `main`
gets to the console or returns, and once the console is done it returns:
fair to a thread while it does not wait for a client, or for the console. -/
theorem main_returns {r : (system (F := F) clientIp host).Behavior}
    (hfair : ∀ thread, r.FairTo (Ready clientIp host thread)
      fun a => a.thread = thread) :
    (∃ j, (r.state j).main = .reading ∨ (r.state j).main = .returned)
      ∧ ∀ i, (r.state i).main.leaving = true →
        ∃ j, i ≤ j ∧ (r.state j).main = .returned := by
  have hends : ∀ i, ∃ j, i ≤ j ∧ ¬ (r.state j).AtWork :=
    Lts.Behavior.responds hfair
      (fun s hs hwork => (kept_reachable hs).helper_ready hwork)
      (fun s a t hs hwork hstep => (kept_reachable hs).step_helps hwork hstep)
  constructor
  · obtain ⟨j, -, hend⟩ := hends 0
    exact ⟨j, by simpa only [AtWork, not_and_or, not_not] using hend⟩
  · intro i hleaving
    obtain ⟨j, hj, hend⟩ := hends i
    have hpassed : (r.state i).main.rank < MainPc.reading.rank := by
      have hboth := Bool.and_eq_true_iff.mp hleaving
      exact of_decide_eq_true hboth.1
    refine ⟨j, hj, ?_⟩
    have hpast : (r.state j).main.rank < MainPc.reading.rank := by
      by_contra hback
      obtain ⟨k, a, -, hk, hstep, hafter⟩ :=
        r.exit (p := fun s => s.main.rank < MainPc.reading.rank)
          hpassed hj hback
      exact hafter (leaving_kept hk hstep)
    by_contra hout
    refine hend ⟨fun hreading => ?_, hout⟩
    rw [hreading] at hpast
    exact Nat.lt_irrefl _ hpast

end

/-- The console is done while client 1 is served, who never says
anything. -/
theorem main_returns_silent :
    ∃ r : (system (F := Float32) (fun _ => "127.0.0.1") .little).Behavior,
      (r.state 15).main = .stoppingControl false
      ∧ (r.state 15).control.socketOpen 1 = true
      ∧ ∃ j, 15 ≤ j ∧ (r.state j).main = .returned := by
  obtain ⟨t, hrun, hreturned⟩ : ∃ t, (system (F := Float32)
      (fun _ => "127.0.0.1") .little).run begun (startUp ++ shutDown) = some t
        ∧ t.main = .returned := by
    have hend : (((system (F := Float32) (fun _ => "127.0.0.1")
        .little).run begun (startUp ++ shutDown)).any
          fun t => t.main == .returned) = true := by decide +kernel
    obtain ⟨t, ht, hreturned⟩ := (Option.any_eq_true _ _).mp hend
    exact ⟨t, ht, by simpa using hreturned⟩
  have hfifteen : (((system (F := Float32) (fun _ => "127.0.0.1")
      .little).run begun ((startUp ++ shutDown).take 15)).any fun s =>
        s.main == .stoppingControl false && s.control.socketOpen 1) = true := by
    decide +kernel
  rw [Lts.Behavior.run_take hrun 15] at hfifteen
  simp only [Option.any_some, Bool.and_eq_true, beq_iff_eq] at hfifteen
  have hs : t.Kept := kept_reachable (Lts.Reachable.run (.init rfl) hrun)
  have hstuck : ∀ thread, ¬ Ready (fun _ => "127.0.0.1") .little thread t := by
    rintro thread ⟨-, a, -, henabled⟩
    change (t.step (fun _ => "127.0.0.1") .little a).isSome = true at henabled
    rw [hs.stuck hreturned a] at henabled
    cases henabled
  refine ⟨.ofRun rfl hrun, hfifteen.1, hfifteen.2, ?_⟩
  refine (main_returns fun thread => Lts.Behavior.ofRun_fairTo rfl hrun
    (hstuck thread)).2 15 ?_
  exact congrArg MainPc.leaving hfifteen.1

end ServerProcess

end NetworkControl
