import NetworkControl.ServerSockets

/-!
# Lifetimes in the server

Wherever the start-up fails, and however the threads interleave: what a
thread works with is there as long as the thread is (`Sheltered`), and
behind the end of `main` no object holds a handle. `ServerRaces` has what
follows for the calls the threads make.

`Kept` has the lifetimes as tables over the places of `main`: what is
there (`has`), what may run (`streams`, `receives`, `serving`), and what
is being joined.
-/

namespace NetworkControl

open Ownership

/-! ## The course of main -/

namespace MainPc

/-- From the start of `TcpControlServer` to the end of its `Stop`. -/
def serving : MainPc → Bool
  | reading => true
  | stoppingControl false => true
  | _ => false

/-- The session map is there. -/
def hasSessions : MainPc → Bool
  | startingUp => false
  | constructing => false
  | cleaningUp => false
  | returned => false
  | _ => true

def hasStreaming : MainPc → Bool
  | startingUp => false
  | constructing => false
  | closingAll => false
  | cleaningUp => false
  | returned => false
  | _ => true

def hasControlInput : MainPc → Bool
  | exchangingStreaming leaving => !leaving
  | joiningStreaming leaving => !leaving
  | closingStreaming leaving => !leaving
  | destroyingStreaming => false
  | pc => pc.hasStreaming

def hasListener : MainPc → Bool
  | clearingControlInput leaving => !leaving
  | joiningControlInput leaving => !leaving
  | closingControlInput leaving => !leaving
  | destroyingControlInput => false
  | pc => pc.hasControlInput

/-- Which of the services' socket objects are there: the last made is the
first to go. -/
def has (pc : MainPc) : SocketOwner → Bool
  | .streaming => pc.hasStreaming
  | .controlInput => pc.hasControlInput
  | .listener => pc.hasListener
  | _ => true

/-- `UdpStreamingService` may be running. -/
def streams : MainPc → Bool
  | startingUp => false
  | constructing => false
  | startingStreaming => false
  | joiningStreaming _ => false
  | closingStreaming _ => false
  | destroyingStreaming => false
  | closingAll => false
  | cleaningUp => false
  | returned => false
  | _ => true

def joinsStreaming : MainPc → Bool
  | joiningStreaming _ => true
  | _ => false

/-- `UdpControlInputReceiver` may be running. -/
def receives : MainPc → Bool
  | startingControl => true
  | reading => true
  | stoppingControl _ => true
  | destroyingControl => true
  | clearingControlInput _ => true
  | _ => false

def joinsControlInput : MainPc → Bool
  | joiningControlInput _ => true
  | _ => false

/-- The calls are between `WSAStartup` and `WSACleanup`. -/
def Bracketed (pc : MainPc) (calls : List WinsockCall) : Prop :=
  match pc with
  | startingUp => calls = []
  | returned => calls = [] ∨ ∃ inner, calls = .wsaCleanup :: inner
      ∧ [.wsaStartup] <:+ inner
  | _ => [.wsaStartup] <:+ calls

variable {pc : MainPc}

theorem streaming_there (h : pc.streams = true ∨ pc.joinsStreaming = true) :
    pc.hasStreaming = true ∧ pc.hasSessions = true := by
  cases pc <;> first
    | exact ⟨rfl, rfl⟩
    | exact absurd h (by simp [streams, joinsStreaming])

theorem controlInput_there
    (h : pc.receives = true ∨ pc.joinsControlInput = true) :
    pc.hasControlInput = true ∧ pc.hasSessions = true := by
  cases pc <;> first
    | exact ⟨rfl, rfl⟩
    | exact absurd h (by simp [receives, joinsControlInput])

theorem serving_there (h : pc.serving = true) :
    pc.hasListener = true ∧ pc.hasSessions = true := by
  cases pc <;> first
    | exact ⟨rfl, rfl⟩
    | exact absurd h (by simp [serving])

theorem Bracketed.grow {calls calls' : List WinsockCall}
    (h : pc.Bracketed calls) (hcalls : calls <:+ calls')
    (hpc : pc.hasSessions = true) : pc.Bracketed calls' := by
  cases pc <;> first
    | exact List.IsSuffix.trans h hcalls
    | cases hpc

end MainPc

/-- A service runs while it may, and is joined after that. -/
structure Service.Fits (s : Service) (mayRun joining : Bool) : Prop where
  running : s.isRunning = true → mayRun = true
  worker : s.worker ≠ .absent → s.isRunning = true ∨ joining = true

namespace Service

variable {s t : Service}

theorem Fits.mono {mayRun joining mayRun' joining' : Bool}
    (h : s.Fits mayRun joining) (hrun : mayRun = true → mayRun' = true)
    (hjoin : joining = true → joining' = true) : s.Fits mayRun' joining' :=
  ⟨fun hrunning => hrun (h.running hrunning),
    fun hworker => (h.worker hworker).imp id hjoin⟩

theorem fits_started (joining : Bool) : started.Fits true joining :=
  ⟨fun _ => rfl, fun _ => Or.inl rfl⟩

theorem fits_cleared (s : Service) (mayRun : Bool) :
    { s with isRunning := false }.Fits mayRun true :=
  ⟨fun hrunning => (nomatch hrunning), fun _ => Or.inr rfl⟩

theorem Fits.join (h : s.Fits false true) (hjoin : s.join = some t) :
    t.Fits false false := by
  unfold Service.join at hjoin
  split at hjoin
  · rename_i hworker
    obtain rfl := Option.some.inj hjoin
    exact ⟨h.running, fun habsent => absurd hworker habsent⟩
  · obtain rfl := Option.some.inj hjoin
    exact ⟨h.running, fun habsent => absurd rfl habsent⟩
  · cases hjoin

/-- Its flag cleared and nobody joining it, a service has no thread. -/
theorem Fits.of_cleared {mayRun : Bool} (h : s.Fits mayRun false)
    (hcleared : s.isRunning = false) (mayRun' joining' : Bool) :
    s.Fits mayRun' joining' := by
  refine ⟨fun hrunning => ?_, fun hworker => ?_⟩
  · rw [hcleared] at hrunning
    cases hrunning
  · rcases h.worker hworker with hrunning | hjoining
    · rw [hcleared] at hrunning
      cases hrunning
    · cases hjoining

theorem Fits.absent (h : s.Fits false false) : s.worker = .absent := by
  by_contra hworker
  rcases h.worker hworker with hrunning | hjoining
  · exact Bool.false_ne_true (h.running hrunning)
  · cases hjoining

end Service

theorem UdpControlInputReceiver.start_works {s : SocketHeap SocketOwner}
    {r : CallResults}
    (hreturns : (s.close .controlInput).Returns r.handle) :
    SocketHeap.Works .controlInput s (start s r).2 := by
  have hcreate := SocketHeap.works_create hreturns
  have hclose : ∀ u, SocketHeap.Works .controlInput s u →
      SocketHeap.Works .controlInput s (u.close .controlInput) :=
    fun u hu => hu.trans (SocketHeap.works_close u _)
  have hbind := hcreate.trans
    (SocketHeap.works_callOn (s.create .controlInput r.handle) _ .bind 1)
  have htimeout := hbind.trans
    (SocketHeap.works_callOn ((s.create .controlInput r.handle).bind
      .controlInput) _ .setsockopt 1)
  unfold start
  dsimp only
  split
  · exact hclose _ hcreate
  · split
    · exact hclose _ hbind
    · split
      · exact hclose _ htimeout
      · exact htimeout

theorem TcpControlServer.startListener_works {s : SocketHeap SocketOwner}
    {r : CallResults} (hreturns : (s.close .listener).Returns r.handle) :
    SocketHeap.Works .listener s (startListener s r).2 := by
  have hcreate := SocketHeap.works_create hreturns
  have hbind := hcreate.trans
    (SocketHeap.works_callOn (s.create .listener r.handle) _ .bind 1)
  unfold startListener
  dsimp only
  split
  · exact hcreate
  · split
    · exact hbind
    · exact hbind.trans (SocketHeap.works_callOn _ _ .listen 1)

namespace ServerProcess

section

variable {F : Type}

structure Kept (s : ServerProcess F) : Prop where
  owned : s.sockets.Owned
  calls : s.main.Bracketed s.sockets.calls
  alive : ∀ i, i ≠ .accepted → (∀ n, i ≠ .session n) →
    (s.sockets.object i = none ↔ s.main.has i = false)
  linked : s.control.Linked s.sockets
  serving : s.main.serving = true → s.control.Serving
  quiet : s.main.serving = false → s.control.Quiet
  streaming : s.streaming.Fits s.main.streams s.main.joinsStreaming
  controlInput : s.controlInput.Fits s.main.receives s.main.joinsControlInput

variable {s t : ServerProcess F}

/-! ### One step of main -/

/-- A step that works on one of the services' own objects. -/
theorem Kept.go (h : s.Kept) {pc : MainPc}
    {sockets : SocketHeap SocketOwner} {streaming controlInput : Service}
    {i : SocketOwner} (hworks : SocketHeap.Works i s.sockets sockets)
    (hi : i ≠ .accepted) (hi' : ∀ n, i ≠ .session n)
    (hcalls : pc.Bracketed sockets.calls)
    (hhas : ∀ j, pc.has j = s.main.has j)
    (hserving : pc.serving = s.main.serving)
    (hstreaming : streaming.Fits pc.streams pc.joinsStreaming)
    (hinput : controlInput.Fits pc.receives pc.joinsControlInput) :
    Kept { main := pc, sockets, streaming, controlInput,
           control := s.control } where
  owned := hworks.owned h.owned
  calls := hcalls
  alive j hj hj' := by
    show sockets.object j = none ↔ pc.has j = false
    rw [hworks.alive j, hhas j]
    exact h.alive j hj hj'
  linked := by
    refine ⟨fun haccept => ?_, fun n hn => ?_⟩
    · rw [hworks.held (Ne.symm hi)]
      exact h.linked.accepted haccept
    · rw [hworks.held (Ne.symm (hi' n))]
      exact h.linked.session n hn
  serving hpc := h.serving (hserving ▸ hpc)
  quiet hpc := h.quiet (hserving ▸ hpc)
  streaming := hstreaming
  controlInput := hinput

/-- The destructor of one of them. -/
theorem Kept.destroy (h : s.Kept) {pc : MainPc} {i : SocketOwner}
    (hi : i ≠ .accepted) (hi' : ∀ n, i ≠ .session n)
    (hbracket : ∀ calls, s.main.Bracketed calls ↔ [.wsaStartup] <:+ calls)
    (hbracket' : ∀ calls, pc.Bracketed calls ↔ [.wsaStartup] <:+ calls)
    (hgone : pc.has i = false) (hhas : ∀ j, j ≠ i → pc.has j = s.main.has j)
    (hserving : pc.serving = s.main.serving)
    (hstreaming : s.streaming.Fits pc.streams pc.joinsStreaming)
    (hinput : s.controlInput.Fits pc.receives pc.joinsControlInput) :
    Kept { s with sockets := s.sockets.destroy i, main := pc } where
  owned := h.owned.destroy i
  calls := (hbracket' _).mpr
    (((hbracket _).mp h.calls).trans SocketHeap.destroy_calls)
  alive j hj hj' := by
    show (s.sockets.destroy i).object j = none ↔ pc.has j = false
    by_cases hji : j = i
    · rw [hji, hgone]
      exact iff_of_true SocketHeap.destroy_object rfl
    · rw [SocketHeap.destroy_object_of_ne hji, hhas j hji]
      exact h.alive j hj hj'
  linked := by
    refine ⟨fun haccept => ?_, fun n hn => ?_⟩
    · rw [SocketHeap.held, SocketHeap.destroy_object_of_ne (Ne.symm hi)]
      exact h.linked.accepted haccept
    · rw [SocketHeap.held, SocketHeap.destroy_object_of_ne (Ne.symm (hi' n))]
      exact h.linked.session n hn
  serving hpc := h.serving (hserving ▸ hpc)
  quiet hpc := h.quiet (hserving ▸ hpc)
  streaming := hstreaming
  controlInput := hinput

/-- The services' objects, made. -/
theorem Kept.construct (h : s.Kept) (hpc : s.main = .constructing) :
    Kept { s with
      sockets := ((s.sockets.construct .streaming .datagram).construct
        .controlInput .datagram).construct .listener .stream
      main := .startingStreaming } := by
  obtain ⟨main, sockets, streaming, controlInput, control⟩ := s
  obtain rfl : main = .constructing := hpc
  have hstreaming : sockets.held .streaming = none := SocketHeap.held_of_none
    ((h.alive .streaming (by simp) (by simp)).mpr rfl)
  have hinput : sockets.held .controlInput = none := SocketHeap.held_of_none
    ((h.alive .controlInput (by simp) (by simp)).mpr rfl)
  have hlistener : sockets.held .listener = none := SocketHeap.held_of_none
    ((h.alive .listener (by simp) (by simp)).mpr rfl)
  have hfirst := SocketHeap.construct_held hstreaming .datagram
  rw [← hfirst] at hinput
  have hsecond := SocketHeap.construct_held hinput .datagram
  rw [← hfirst, ← hsecond] at hlistener
  have hthird := SocketHeap.construct_held hlistener .stream
  have hall := hthird.trans (hsecond.trans hfirst)
  refine ⟨?_, h.calls, ?_, ⟨fun haccept => ?_, fun n hn => ?_⟩,
    fun hserving => (nomatch hserving), fun _ => h.quiet rfl, h.streaming,
    h.controlInput⟩
  · exact ((h.owned.put hstreaming rfl).put hinput rfl).put hlistener rfl
  · intro i hi hi'
    cases i with
    | accepted => exact absurd rfl hi
    | session n => exact absurd rfl (hi' n)
    | streaming => simp [SocketHeap.construct, MainPc.has, MainPc.hasStreaming]
    | controlInput =>
        simp [SocketHeap.construct, MainPc.has, MainPc.hasControlInput,
          MainPc.hasStreaming]
    | listener =>
        simp [SocketHeap.construct, MainPc.has, MainPc.hasListener,
          MainPc.hasControlInput, MainPc.hasStreaming]
  · exact (congrFun hall _).trans (h.linked.accepted haccept)
  · exact (congrFun hall _).trans (h.linked.session n hn)

theorem Kept.streamingStep (h : s.Kept) {datagrams : Nat}
    (hstep : s.streamingStep datagrams = some t) : t.Kept := by
  unfold ServerProcess.streamingStep at hstep
  split at hstep
  · rename_i hworker
    obtain rfl := Option.some.inj hstep
    have hactive := h.streaming.worker (by simp [hworker])
    exact h.go (.refl .streaming _) (by simp) (by simp) h.calls
      (fun _ => rfl) rfl ⟨h.streaming.running, fun _ => hactive⟩
      h.controlInput
  · rename_i hworker
    obtain rfl := Option.some.inj hstep
    have hactive := h.streaming.worker (by simp [hworker])
    have hworks := SocketHeap.works_callOn s.sockets .streaming .sendto
      datagrams
    have hthere := MainPc.streaming_there
      (hactive.imp h.streaming.running id)
    exact h.go hworks (by simp) (by simp) (h.calls.grow hworks.calls hthere.2)
      (fun _ => rfl) rfl ⟨h.streaming.running, fun _ => hactive⟩
      h.controlInput
  · cases hstep

theorem Kept.controlInputStep (h : s.Kept)
    (hstep : s.controlInputStep = some t) : t.Kept := by
  unfold ServerProcess.controlInputStep at hstep
  split at hstep
  · rename_i hworker
    obtain rfl := Option.some.inj hstep
    have hactive := h.controlInput.worker (by simp [hworker])
    exact h.go (.refl .controlInput _) (by simp) (by simp) h.calls
      (fun _ => rfl) rfl h.streaming
      ⟨h.controlInput.running, fun _ => hactive⟩
  · rename_i hworker
    obtain rfl := Option.some.inj hstep
    have hactive := h.controlInput.worker (by simp [hworker])
    have hworks := SocketHeap.works_callOn s.sockets .controlInput .recvfrom 1
    have hthere := MainPc.controlInput_there
      (hactive.imp h.controlInput.running id)
    exact h.go hworks (by simp) (by simp) (h.calls.grow hworks.calls hthere.2)
      (fun _ => rfl) rfl h.streaming
      ⟨h.controlInput.running, fun _ => hactive⟩
  · cases hstep

/-! ### What is there -/

/-- Wherever a thread is, what it works with is there. -/
structure Sheltered (s : ServerProcess F) : Prop where
  streaming : s.streaming.worker ≠ .absent →
    s.sockets.object .streaming ≠ none ∧ s.main.hasSessions = true
  controlInput : s.controlInput.worker ≠ .absent →
    s.sockets.object .controlInput ≠ none ∧ s.main.hasSessions = true
  control : (s.control.accept ≠ .ended
      ∨ ∃ n, (s.control.worker n).isActive = true) →
    s.sockets.object .listener ≠ none ∧ s.main.hasSessions = true

theorem Kept.there (h : s.Kept) {i : SocketOwner} (hi : i ≠ .accepted)
    (hi' : ∀ n, i ≠ .session n) (hhas : s.main.has i = true) :
    s.sockets.object i ≠ none := by
  intro hgone
  rw [(h.alive i hi hi').mp hgone] at hhas
  cases hhas

theorem Kept.sheltered (h : s.Kept) : s.Sheltered where
  streaming hworker := by
    have hthere := MainPc.streaming_there
      ((h.streaming.worker hworker).imp h.streaming.running id)
    exact ⟨h.there (by simp) (by simp) hthere.1, hthere.2⟩
  controlInput hworker := by
    have hthere := MainPc.controlInput_there
      ((h.controlInput.worker hworker).imp h.controlInput.running id)
    exact ⟨h.there (by simp) (by simp) hthere.1, hthere.2⟩
  control hthread := by
    have hserving : s.main.serving = true := by
      by_contra hout
      have hquiet := h.quiet (Bool.eq_false_iff.mpr hout)
      rcases hthread with haccept | ⟨n, hactive⟩
      · exact haccept hquiet.ended
      · rw [hquiet.inactive n] at hactive
        cases hactive
    have hthere := MainPc.serving_there hserving
    exact ⟨h.there (by simp) (by simp) hthere.1, hthere.2⟩

/-- Behind the end of `main` nothing holds a handle. -/
theorem Kept.held_of_returned (h : s.Kept) (hpc : s.main = .returned)
    (i : SocketOwner) : s.sockets.held i = none := by
  have hquiet := h.quiet (by rw [hpc]; rfl)
  cases i with
  | accepted => exact h.linked.accepted (by rw [hquiet.ended]; simp)
  | session n => exact h.linked.session n (hquiet.shut n)
  | _ =>
      refine SocketHeap.held_of_none ((h.alive _ (by simp) (by simp)).mpr ?_)
      rw [hpc]
      rfl

/-! ### One step of any thread -/

variable [FloatArith F]

/-- `TcpControlServer` starts its thread. -/
theorem Kept.start (h : s.Kept) {pc : MainPc}
    {sockets : SocketHeap SocketOwner} {i : SocketOwner}
    (hworks : SocketHeap.Works i s.sockets sockets)
    (hi : i ≠ .accepted) (hi' : ∀ n, i ≠ .session n)
    (hcalls : pc.Bracketed sockets.calls)
    (hhas : ∀ j, pc.has j = s.main.has j) (hserving : pc.serving = true)
    (hquiet : s.main.serving = false)
    (hstreaming : s.streaming.Fits pc.streams pc.joinsStreaming)
    (hinput : s.controlInput.Fits pc.receives pc.joinsControlInput) :
    Kept { s with
      sockets
      control := (ControlThreads.started : ControlThreads F)
      main := pc } := by
  have hq := h.quiet hquiet
  refine ⟨hworks.owned h.owned, hcalls, fun j hj hj' => ?_, ⟨fun _ => ?_,
    fun n _ => ?_⟩, fun _ => ControlThreads.started_serving, fun hpc => ?_,
    hstreaming, hinput⟩
  · show sockets.object j = none ↔ pc.has j = false
    rw [hworks.alive j, hhas j]
    exact h.alive j hj hj'
  · show sockets.held .accepted = none
    rw [hworks.held (Ne.symm hi)]
    exact h.linked.accepted (by rw [hq.ended]; simp)
  · show sockets.held (.session n) = none
    rw [hworks.held (Ne.symm (hi' n))]
    exact h.linked.session n (hq.shut n)
  · rw [hserving] at hpc
    cases hpc

theorem Kept.mainStep (h : s.Kept) {r : CallResults}
    (hstep : s.mainStep r = some t) : t.Kept := by
  obtain ⟨main, sockets, streaming, controlInput, control⟩ := s
  cases main with
  | startingUp =>
      have hnone : sockets.calls = [] := h.calls
      cases hok : r.first with
      | false =>
          simp only [ServerProcess.mainStep, hok] at hstep
          obtain rfl := Option.some.inj hstep
          exact h.go (.refl .listener _) (by simp) (by simp) (Or.inl hnone)
            (fun _ => rfl) rfl h.streaming h.controlInput
      | true =>
          simp only [ServerProcess.mainStep, hok] at hstep
          obtain rfl := Option.some.inj hstep
          have hcalls : [.wsaStartup]
              <:+ (sockets.made [.wsaStartup]).calls := by
            rw [SocketHeap.made, hnone]
            exact List.suffix_rfl
          exact h.go (SocketHeap.works_mark _ .listener rfl) (by simp)
            (by simp) hcalls (fun _ => rfl) rfl h.streaming h.controlInput
  | constructing =>
      obtain rfl := Option.some.inj hstep
      exact h.construct rfl
  | startingStreaming =>
      unfold ServerProcess.mainStep at hstep
      dsimp only at hstep
      split at hstep
      · rename_i hreturns
        have hworks := SocketHeap.works_create hreturns
        have hcalls := h.calls.trans hworks.calls
        split at hstep
        · obtain rfl := Option.some.inj hstep
          exact h.go hworks (by simp) (by simp) hcalls (fun _ => rfl) rfl
            (Service.fits_started _) h.controlInput
        · obtain rfl := Option.some.inj hstep
          exact h.go hworks (by simp) (by simp) hcalls (fun _ => rfl) rfl
            (h.streaming.mono (fun h => nomatch h) id)
            (h.controlInput.mono (fun h => nomatch h) id)
      · cases hstep
  | startingControlInput =>
      unfold ServerProcess.mainStep at hstep
      dsimp only at hstep
      split at hstep
      · rename_i hreturns
        have hworks := UdpControlInputReceiver.start_works (r := r) hreturns
        have hcalls := h.calls.trans hworks.calls
        split at hstep
        · obtain rfl := Option.some.inj hstep
          exact h.go hworks (by simp) (by simp) hcalls (fun _ => rfl) rfl
            h.streaming (Service.fits_started _)
        · obtain rfl := Option.some.inj hstep
          exact h.go hworks (by simp) (by simp) hcalls (fun _ => rfl) rfl
            h.streaming (h.controlInput.mono (fun h => nomatch h) id)
      · cases hstep
  | startingControl =>
      unfold ServerProcess.mainStep at hstep
      dsimp only at hstep
      split at hstep
      · rename_i hreturns
        have hworks := TcpControlServer.startListener_works (r := r) hreturns
        have hcalls := h.calls.trans hworks.calls
        split at hstep
        · obtain rfl := Option.some.inj hstep
          exact h.start hworks (by simp) (by simp) hcalls
            (fun _ => rfl) rfl rfl h.streaming h.controlInput
        · obtain rfl := Option.some.inj hstep
          exact h.go hworks (by simp) (by simp) hcalls (fun _ => rfl) rfl
            h.streaming h.controlInput
      · cases hstep
  | reading =>
      obtain rfl := Option.some.inj hstep
      exact h.go (.refl .listener _) (by simp) (by simp) h.calls
        (fun _ => rfl) rfl h.streaming h.controlInput
  | stoppingControl leaving =>
      unfold ServerProcess.mainStep at hstep
      dsimp only at hstep
      split at hstep
      · rename_i hstopped
        obtain rfl := Option.some.inj hstep
        cases leaving with
        | false =>
            have hquiet := (h.serving rfl).quiet hstopped.1 hstopped.2
            exact ⟨h.owned, h.calls, h.alive, h.linked,
              fun hserving => (nomatch hserving), fun _ => hquiet,
              h.streaming, h.controlInput⟩
        | true =>
            exact h.go (.refl .listener _) (by simp) (by simp) h.calls
              (fun _ => rfl) rfl h.streaming h.controlInput
      · cases hstep
  | destroyingControl =>
      obtain rfl := Option.some.inj hstep
      refine h.destroy (by simp) (by simp) (fun _ => Iff.rfl)
        (fun _ => Iff.rfl) rfl ?_ rfl h.streaming h.controlInput
      intro j hj
      cases j <;> first | rfl | exact absurd rfl hj
  | clearingControlInput leaving =>
      obtain rfl := Option.some.inj hstep
      exact h.go (.refl .listener _) (by simp) (by simp) h.calls
        (fun _ => rfl) rfl h.streaming
        (Service.fits_cleared _ _)
  | joiningControlInput leaving =>
      obtain ⟨joined, hjoin, rfl⟩ := Option.map_eq_some_iff.mp hstep
      exact h.go (.refl .listener _) (by simp) (by simp) h.calls
        (fun _ => rfl) rfl h.streaming
        (h.controlInput.join hjoin)
  | closingControlInput leaving =>
      obtain rfl := Option.some.inj hstep
      have hworks := SocketHeap.works_close sockets .controlInput
      have hcalls := h.calls.trans hworks.calls
      cases leaving with
      | false =>
          exact h.go hworks (by simp) (by simp) hcalls (fun _ => rfl) rfl
            h.streaming h.controlInput
      | true =>
          exact h.go hworks (by simp) (by simp) hcalls
            (fun _ => rfl) rfl h.streaming h.controlInput
  | destroyingControlInput =>
      obtain rfl := Option.some.inj hstep
      refine h.destroy (by simp) (by simp) (fun _ => Iff.rfl)
        (fun _ => Iff.rfl) rfl ?_ rfl h.streaming h.controlInput
      intro j hj
      cases j <;> first | rfl | exact absurd rfl hj
  | exchangingStreaming leaving =>
      unfold ServerProcess.mainStep at hstep
      dsimp only at hstep
      split at hstep
      · obtain rfl := Option.some.inj hstep
        exact h.go (.refl .listener _) (by simp) (by simp) h.calls
          (fun _ => rfl) rfl
          (Service.fits_cleared _ _) h.controlInput
      · rename_i hcleared
        obtain rfl := Option.some.inj hstep
        have hfits := h.streaming.of_cleared (Bool.eq_false_iff.mpr hcleared)
        cases leaving with
        | false =>
            exact h.go (.refl .listener _) (by simp) (by simp) h.calls
              (fun _ => rfl) rfl (hfits _ _)
              (h.controlInput.mono (fun h => nomatch h) id)
        | true =>
            exact h.go (.refl .listener _) (by simp) (by simp) h.calls
              (fun _ => rfl) rfl (hfits _ _) h.controlInput
  | joiningStreaming leaving =>
      obtain ⟨joined, hjoin, rfl⟩ := Option.map_eq_some_iff.mp hstep
      exact h.go (.refl .listener _) (by simp) (by simp) h.calls
        (fun _ => rfl) rfl
        (h.streaming.join hjoin) h.controlInput
  | closingStreaming leaving =>
      obtain rfl := Option.some.inj hstep
      have hworks := SocketHeap.works_close sockets .streaming
      have hcalls := h.calls.trans hworks.calls
      cases leaving with
      | false =>
          exact h.go hworks (by simp) (by simp) hcalls (fun _ => rfl) rfl
            (h.streaming.mono (fun h => nomatch h) id)
            (h.controlInput.mono (fun h => nomatch h) id)
      | true =>
          exact h.go hworks (by simp) (by simp) hcalls
            (fun _ => rfl) rfl h.streaming h.controlInput
  | destroyingStreaming =>
      obtain rfl := Option.some.inj hstep
      refine h.destroy (by simp) (by simp) (fun _ => Iff.rfl)
        (fun _ => Iff.rfl) rfl ?_ rfl h.streaming h.controlInput
      intro j hj
      cases j <;> first | rfl | exact absurd rfl hj
  | closingAll =>
      obtain rfl := Option.some.inj hstep
      have hsettled : ControlThreads.Settled (control, sockets) :=
        ⟨h.quiet rfl, h.linked, h.owned⟩
      obtain ⟨hall, hcalls, halive⟩ := hsettled.closeAll
      exact ⟨hall.owned, h.calls.trans hcalls,
        fun j hj hj' => (halive j).trans (h.alive j hj hj'), hall.linked,
        fun hserving => (nomatch hserving), fun _ => hall.quiet, h.streaming,
        h.controlInput⟩
  | cleaningUp =>
      obtain rfl := Option.some.inj hstep
      exact h.go (SocketHeap.works_mark _ .listener rfl) (by simp) (by simp)
        (Or.inr ⟨sockets.calls, rfl, h.calls⟩) (fun _ => rfl) rfl h.streaming
        h.controlInput
  | returned => cases hstep

variable {clientIp : Nat → String} {host : Endian.ByteOrder}

/-- `TcpControlServer`'s threads move between its start and the end of
`Stop`. -/
theorem Kept.serving_of_step (h : s.Kept) {a : ThreadAction}
    {control : ControlThreads F} (hmay : s.MayTake a)
    (hstep : s.control.step clientIp host a = some control) :
    s.main.serving = true := by
  by_contra hout
  have hquiet := h.quiet (Bool.eq_false_iff.mpr hout)
  obtain ⟨hthread, hidle⟩ := hquiet.of_step hstep
  have hrunning := (hmay hthread).2 hidle
  rw [hquiet.cleared] at hrunning
  cases hrunning

theorem Kept.controlStep (h : s.Kept) {a : ThreadAction} {result : Socket}
    {pieces : Nat}
    (hstep : s.controlStep clientIp host a result pieces = some t) :
    t.Kept := by
  unfold ServerProcess.controlStep at hstep
  split at hstep
  · rename_i hmay
    obtain ⟨control, hcontrol, rfl⟩ := Option.map_eq_some_iff.mp hstep
    have hserving := h.serving_of_step hmay.1 hcontrol
    have htouches : s.control.Touches control s.sockets result
        (s.control.socketsAfter s.sockets result pieces a) :=
      ControlThreads.touches_of_step h.linked hmay.2 hcontrol
    have hs := h.serving hserving
    refine ⟨htouches.owned h.linked hs.next_shut h.owned,
      h.calls.grow htouches.calls (MainPc.serving_there hserving).2,
      fun i hi hi' => (htouches.alive hi hi').trans (h.alive i hi hi'),
      htouches.linked h.linked, fun _ => hs.step hcontrol, fun hout => ?_,
      h.streaming, h.controlInput⟩
    rw [hserving] at hout
    cases hout
  · cases hstep

theorem Kept.step (h : s.Kept) {a : ProcessAction}
    (hstep : s.step clientIp host a = some t) : t.Kept := by
  cases a with
  | main r => exact h.mainStep hstep
  | control a result pieces => exact h.controlStep hstep
  | streaming datagrams => exact h.streamingStep hstep
  | controlInput => exact h.controlInputStep hstep

theorem kept_begun : (begun : ServerProcess F).Kept where
  owned := SocketHeap.owned_empty
  calls := rfl
  alive i hi hi' := by
    cases i with
    | accepted => exact absurd rfl hi
    | session n => exact absurd rfl (hi' n)
    | _ => exact iff_of_true rfl rfl
  linked := ⟨fun _ => rfl, fun _ _ => rfl⟩
  serving hserving := nomatch hserving
  quiet _ := ControlThreads.constructed_quiet
  streaming := ⟨fun h => (nomatch h), fun h => absurd rfl h⟩
  controlInput := ⟨fun h => (nomatch h), fun h => absurd rfl h⟩

theorem kept_reachable (h : (system clientIp host).Reachable s) : s.Kept := by
  refine h.invariant ?_ fun _ _ _ hs _ hstep => hs.step hstep
  rintro _ rfl
  exact kept_begun

/-! ## Every run -/

theorem Kept.stuck (h : s.Kept) (hpc : s.main = .returned)
    (a : ProcessAction) : s.step clientIp host a = none := by
  cases a with
  | main r =>
      show s.mainStep r = none
      unfold ServerProcess.mainStep
      rw [hpc]
  | control a result pieces =>
      show s.controlStep clientIp host a result pieces = none
      unfold ServerProcess.controlStep
      split
      · rename_i hmay
        rw [Option.map_eq_none_iff, Option.eq_none_iff_forall_not_mem]
        intro control hstep
        have hserving := h.serving_of_step hmay.1 hstep
        rw [hpc] at hserving
        cases hserving
      · rfl
  | streaming datagrams =>
      have hfits := h.streaming
      rw [hpc] at hfits
      show s.streamingStep datagrams = none
      unfold ServerProcess.streamingStep
      rw [hfits.absent]
  | controlInput =>
      have hfits := h.controlInput
      rw [hpc] at hfits
      show s.controlInputStep = none
      unfold ServerProcess.controlInputStep
      rw [hfits.absent]

end

/-! ## A concrete run -/

/-- A step of `main` that opens no socket. -/
def mainGoes : ProcessAction := .main ⟨invalidSocket, true, true⟩

def controlGoes (a : ThreadAction) : ProcessAction :=
  .control a invalidSocket 1

/-- All services start, and a client connects. -/
def startUp : List ProcessAction :=
  [mainGoes, mainGoes, .main ⟨40, true, true⟩, .main ⟨44, true, true⟩,
    .main ⟨48, true, true⟩, controlGoes (.accept false),
    .control (.accept true) 52 0]
    ++ List.replicate 4 (controlGoes (.accept false))

/-- The console is done; the client never said anything. -/
def shutDown : List ProcessAction :=
  [controlGoes (.worker 1), .streaming 3, .controlInput, mainGoes,
    controlGoes .stop, controlGoes .stop, controlGoes (.stopSnapshot [1]),
    controlGoes .stop, controlGoes .stop, controlGoes .stop,
    controlGoes (.accept false), controlGoes (.receive 1 none)]
    ++ List.replicate 4 (controlGoes (.worker 1))
    ++ [controlGoes .stop, controlGoes .stop, mainGoes, mainGoes,
      .controlInput, .controlInput, mainGoes, mainGoes, mainGoes,
      .streaming 0, .streaming 0] ++ List.replicate 12 mainGoes

end ServerProcess

end NetworkControl
