import NetworkControl.ServerProcess

/-!
# The sockets of TcpControlServer's threads

`ControlThreads` knows of a socket whether it is open. Here its threads
own socket objects, and a step is one of the `Touches`: what it does with
them, next to what it changes in `socketOpen`. The two stay `Linked`.

To `main` the server is `Serving` from its start to the end of `Stop`,
which is when it may step, and `Quiet` otherwise.
-/

namespace NetworkControl

open Ownership

/-! ## Before the start and behind Stop -/

theorem ControlWorkerPc.absent_of_isLate {pc : ControlWorkerPc}
    (hlate : pc.isLate = true) (hidle : pc.isActive = false) :
    pc = .absent := by
  cases pc with
  | absent => rfl
  | done => cases hlate
  | _ => cases hidle

namespace ControlThreads

section

variable {F : Type} {s t : ControlThreads F}

/-- Nobody runs, and no connection is left. -/
structure Quiet (s : ControlThreads F) : Prop where
  cleared : s.isRunning = false
  stopped : s.stop = .idle ∨ s.stop = .returned
  ended : s.accept = .ended
  inactive : ∀ n, (s.worker n).isActive = false
  shut : ∀ n, s.socketOpen n = false

/-- From the start to the end of `Stop`. -/
structure Serving (s : ControlThreads F) : Prop where
  orderly : s.Orderly
  winding : s.Winding
  called : s.stop = .idle → s.isRunning = true

/-- Behind `Stop` the connections are closed: of an open one somebody would
still have to do with. -/
theorem Serving.quiet (h : s.Serving) (hcleared : s.isRunning = false)
    (hstop : s.stop = .idle ∨ s.stop = .returned) : s.Quiet := by
  have hreturned : s.stop = .returned := by
    refine hstop.resolve_left fun hidle => ?_
    rw [h.called hidle] at hcleared
    cases hcleared
  have hended := h.orderly.joined (Or.inr hreturned)
  have hinactive := h.orderly.finished hreturned
  refine ⟨hcleared, hstop, hended, hinactive, fun n => ?_⟩
  rw [← Bool.not_eq_true]
  intro hopen
  have habsent : s.worker n = .absent := by
    have hidle := hinactive n
    rcases h.winding.late n hopen with hcovers | hlate
    · rw [hreturned] at hcovers
      cases hcovers
    · rcases hlate with hpc | hpc | ⟨hpc, -⟩
      · rw [hpc] at hidle
        cases hidle
      · rw [hpc] at hidle
        cases hidle
      · exact ControlWorkerPc.absent_of_isLate hpc hidle
  have hnew := h.winding.started n hopen habsent
  rw [hended] at hnew
  cases hnew

variable [FloatArith F] {clientIp : Nat → String}
  {host : Endian.ByteOrder} {a : ThreadAction}

theorem constructed_quiet : (constructed : ControlThreads F).Quiet :=
  ⟨rfl, Or.inl rfl, rfl, fun _ => rfl, fun _ => rfl⟩

theorem started_serving : (started : ControlThreads F).Serving := by
  have hreachable : (system (F := F) (fun _ => "") .little).Reachable started :=
    .init rfl
  exact ⟨orderly_started, winding_reachable hreachable, fun _ => rfl⟩

theorem Steps.keeps_called {thread : ServerThread}
    (h : Steps clientIp host s thread t)
    (hs : s.stop = .idle → s.isRunning = true) :
    t.stop = .idle → t.isRunning = true := by
  cases h with
  | clear hpc => exact fun hidle => nomatch hidle
  | closeListener hpc => exact fun hidle => nomatch hidle
  | stopSnapshot hpc horder => exact fun hidle => nomatch hidle
  | stopSession hpc => exact fun hidle => nomatch hidle
  | skipSession hpc hclosed => exact fun hidle => nomatch hidle
  | stopped hpc => exact fun hidle => nomatch hidle
  | stopSocket hpc => exact fun hidle => nomatch hidle
  | join hpc hended => exact fun hidle => nomatch hidle
  | pass hpc hcount => exact fun hidle => nomatch hidle
  | _ => exact hs

theorem Serving.step (h : s.Serving)
    (hstep : s.step clientIp host a = some t) : t.Serving where
  orderly := (moves_of_step hstep).orderly h.orderly
  winding := winding_step (steps_of_step hstep) h.orderly h.winding
  called := (steps_of_step hstep).keeps_called h.called

/-- Nobody but a caller of `Stop` has a step to take. -/
theorem Quiet.of_step (h : s.Quiet)
    (hstep : s.step clientIp host a = some t) :
    a.thread = .stop ∧ s.stop = .idle := by
  have hsteps := steps_of_step hstep
  have hended := h.ended
  have hstopped := h.stopped
  have hworker : ∀ n, (s.worker n).isActive ≠ true := fun n => by
    rw [h.inactive n]
    decide
  generalize a.thread = thread at hsteps
  cases hsteps with
  | clear hpc => exact ⟨rfl, hpc⟩
  | closeListener hpc => simp [hpc] at hstopped
  | stopSnapshot hpc horder => simp [hpc] at hstopped
  | stopSession hpc => simp [hpc] at hstopped
  | skipSession hpc hclosed => simp [hpc] at hstopped
  | stopped hpc => simp [hpc] at hstopped
  | stopSocket hpc => simp [hpc] at hstopped
  | join hpc hjoined => simp [hpc] at hstopped
  | sleep hpc hcount => simp [hpc] at hstopped
  | pass hpc hcount => simp [hpc] at hstopped
  | test hpc => simp [hpc] at hended
  | fail hpc => simp [hpc] at hended
  | connect hpc hlistener => simp [hpc] at hended
  | refuse hpc hcleared => simp [hpc] at hended
  | number hpc hrunning => simp [hpc] at hended
  | add hpc => simp [hpc] at hended
  | count hpc => simp [hpc] at hended
  | start hpc => simp [hpc] at hended
  | go hgoes => exact absurd hgoes.active.1 (hworker _)
  | handle type payloadBytes hreceiving =>
      exact absurd (ControlWorkerPc.isActive_of_isReceiving hreceiving)
        (hworker _)
  | erase hpc hmapped => exact absurd (by rw [hpc]; rfl) (hworker _)
  | exchange hpc => exact absurd (by rw [hpc]; rfl) (hworker _)
  | yield hpc hclosed => exact absurd (by rw [hpc]; rfl) (hworker _)
  | close hpc => exact absurd (by rw [hpc]; rfl) (hworker _)
  | finish hpc => exact absurd (by rw [hpc]; rfl) (hworker _)

end

/-! ## The sockets of these threads -/

section

variable {F : Type}

/-- What the objects of the accept thread and of the sessions hold. -/
structure Linked (s : ControlThreads F) (sockets : SocketHeap SocketOwner) :
    Prop where
  accepted : s.accept ≠ .accepted → sockets.held .accepted = none
  session : ∀ n, s.socketOpen n = false → sockets.held (.session n) = none

/-- What the threads do with the sockets, one constructor for each effect
that a step has on them. -/
inductive Touches (s t : ControlThreads F) (sockets : SocketHeap SocketOwner)
    (result : Socket) : SocketHeap SocketOwner → Prop where
  | nothing : t.socketOpen = s.socketOpen →
      (s.accept = .accepted → t.accept = .accepted) →
      Touches s t sockets result sockets
  | listener : t.socketOpen = s.socketOpen → t.accept = s.accept →
      Touches s t sockets result (sockets.close .listener)
  | session (n : Nat) : t.socketOpen = Function.update s.socketOpen n false →
      t.accept = s.accept →
      Touches s t sockets result (sockets.close (.session n))
  | transfer (n : Nat) (call : SocketCall) (pieces : Nat) :
      t.socketOpen = s.socketOpen → t.accept = s.accept →
      Touches s t sockets result (sockets.callOn (.session n) call pieces)
  | connection : t.socketOpen = s.socketOpen → s.accept = .accepting →
      t.accept = .accepted → sockets.Returns result →
      Touches s t sockets result (sockets.accept .listener .accepted result)
  | failure : t.socketOpen = s.socketOpen → s.accept = .accepting →
      sockets.Returns result →
      Touches s t sockets result
        ((sockets.accept .listener .accepted result).destroy .accepted)
  | number : t.socketOpen
        = Function.update s.socketOpen s.nextSessionId true →
      s.accept = .accepted →
      Touches s t sockets result
        (sockets.moveConstruct (.session s.nextSessionId) .accepted)
  | refusal : t.socketOpen = s.socketOpen →
      Touches s t sockets result
        ((sockets.close .accepted).destroy .accepted)
  | drop : t.socketOpen = s.socketOpen → t.accept = .testing →
      Touches s t sockets result (sockets.destroy .accepted)

variable {s t : ControlThreads F} {sockets sockets' : SocketHeap SocketOwner}
  {result : Socket} {pieces : Nat}

theorem touches_of_stopStep (hstep : s.stopStep = some t) :
    Touches s t sockets result
      (s.socketsAfter sockets result pieces .stop) := by
  unfold stopStep at hstep
  unfold socketsAfter
  split at hstep
  · rename_i hpc
    obtain rfl := Option.some.inj hstep
    rw [hpc]
    exact .nothing rfl id
  · rename_i hpc
    obtain rfl := Option.some.inj hstep
    rw [hpc]
    exact .listener rfl rfl
  · rename_i hpc
    obtain rfl := Option.some.inj hstep
    rw [hpc]
    exact .nothing rfl id
  · rename_i hpc
    obtain rfl := Option.some.inj hstep
    rw [hpc]
    exact .nothing rfl id
  · rename_i n rest hpc
    obtain rfl := Option.some.inj hstep
    rw [hpc]
    exact .session n rfl rfl
  · rename_i hpc
    split at hstep
    · obtain rfl := Option.some.inj hstep
      rw [hpc]
      exact .nothing rfl id
    · cases hstep
  · rename_i hpc
    rw [hpc]
    split at hstep <;> obtain rfl := Option.some.inj hstep <;>
      exact .nothing rfl id
  · cases hstep

theorem touches_of_acceptStep {connection : Bool} (hs : s.Linked sockets)
    (haccepts : s.Accepts sockets result (.accept connection))
    (hstep : s.acceptStep connection = some t) :
    Touches s t sockets result
      (s.socketsAfter sockets result pieces (.accept connection)) := by
  unfold acceptStep at hstep
  unfold socketsAfter
  split at hstep
  · rename_i hpc
    obtain rfl := Option.some.inj hstep
    simp only [hpc]
    exact .nothing rfl fun h => by simp [hpc] at h
  · rename_i hpc
    obtain ⟨hreturns, -, hconnection⟩ := haccepts hpc
    simp only [hpc]
    cases connection with
    | false =>
        obtain rfl := Option.some.inj hstep
        have hinvalid : result = invalidSocket := by
          by_contra hvalid
          exact absurd (hconnection.mpr hvalid) Bool.false_ne_true
        have hheld := SocketHeap.accept_invalid (i := .listener)
          (hs.accepted (by simp [hpc]))
        rw [if_neg (by rw [SocketHeap.isValid, hinvalid, hheld]; decide)]
        exact .failure rfl hpc hreturns
    | true =>
        have hlistener : t = { s with accept := .accepted } := by
          rw [Bool.not_true, if_neg Bool.false_ne_true] at hstep
          split at hstep
          · exact (Option.some.inj hstep).symm
          · cases hstep
        subst hlistener
        split
        · exact .connection rfl hpc rfl hreturns
        · exact .failure rfl hpc hreturns
  · rename_i hpc
    simp only [hpc]
    split at hstep
    · rename_i hcleared
      obtain rfl := Option.some.inj hstep
      rw [if_neg (by simpa using hcleared)]
      exact .refusal rfl
    · rename_i hrunning
      obtain rfl := Option.some.inj hstep
      rw [if_pos (by simpa using hrunning)]
      exact .number rfl hpc
  · rename_i hpc
    obtain rfl := Option.some.inj hstep
    simp only [hpc]
    exact .nothing rfl fun h => by simp [hpc] at h
  · rename_i hpc
    obtain rfl := Option.some.inj hstep
    simp only [hpc]
    exact .nothing rfl fun h => by simp [hpc] at h
  · rename_i hpc
    obtain rfl := Option.some.inj hstep
    simp only [hpc]
    exact .drop rfl rfl
  · cases hstep

theorem touches_of_workerStep {n : Nat} (hstep : s.workerStep n = some t) :
    Touches s t sockets result
      (s.socketsAfter sockets result pieces (.worker n)) := by
  unfold workerStep at hstep
  unfold socketsAfter
  split at hstep
  · rename_i hpc
    obtain rfl := Option.some.inj hstep
    simp only [hpc]
    exact .nothing rfl id
  · rename_i send sends hpc
    obtain rfl := Option.some.inj hstep
    simp only [hpc]
    exact .transfer send.1 .send pieces rfl rfl
  · rename_i hpc
    obtain rfl := Option.some.inj hstep
    simp only [hpc]
    exact .nothing rfl id
  · rename_i hpc
    obtain rfl := Option.some.inj hstep
    simp only [hpc]
    exact .nothing rfl id
  · rename_i recipient recipients hpc
    obtain rfl := Option.some.inj hstep
    simp only [hpc]
    exact .transfer recipient .send pieces rfl rfl
  · rename_i hpc
    obtain rfl := Option.some.inj hstep
    simp only [hpc]
    exact .nothing rfl id
  · rename_i hpc
    simp only [hpc]
    split at hstep <;> obtain rfl := Option.some.inj hstep <;>
      exact .nothing rfl id
  · rename_i hpc
    obtain rfl := Option.some.inj hstep
    simp only [hpc]
    exact .nothing rfl id
  · rename_i hpc
    obtain rfl := Option.some.inj hstep
    simp only [hpc]
    exact .session n rfl rfl
  · rename_i hpc
    obtain rfl := Option.some.inj hstep
    simp only [hpc]
    exact .nothing rfl id
  · cases hstep

theorem Touches.owned (h : Touches s t sockets result sockets')
    (hs : s.Linked sockets) (hnew : s.socketOpen s.nextSessionId = false)
    (howned : sockets.Owned) : sockets'.Owned := by
  cases h with
  | nothing hopen haccept => exact howned
  | listener hopen haccept => exact howned.close _
  | session n hopen haccept => exact howned.close _
  | transfer n call pieces hopen haccept => exact howned.callOn ..
  | connection hopen hpc haccept hreturns =>
      exact howned.accept (hs.accepted (by simp [hpc])) hreturns
  | failure hopen hpc hreturns =>
      have hheld := hs.accepted (by simp [hpc])
      exact (howned.accept hheld hreturns).destroy _
  | number hopen hpc => exact howned.moveConstruct (hs.session _ hnew)
  | refusal hopen => exact (howned.close _).destroy _
  | drop hopen hpc => exact howned.destroy _

theorem Touches.calls (h : Touches s t sockets result sockets') :
    sockets.calls <:+ sockets'.calls := by
  cases h with
  | nothing hopen haccept => exact List.suffix_rfl
  | listener hopen haccept => exact (SocketHeap.works_close ..).calls
  | session n hopen haccept => exact (SocketHeap.works_close ..).calls
  | transfer n call pieces hopen haccept =>
      exact (SocketHeap.works_callOn ..).calls
  | connection hopen hpc haccept hreturns => exact SocketHeap.accept_calls
  | failure hopen hpc hreturns =>
      exact SocketHeap.accept_calls.trans SocketHeap.destroy_calls
  | number hopen hpc =>
      rw [SocketHeap.moveConstruct_calls]
  | refusal hopen =>
      exact (SocketHeap.works_close ..).calls.trans SocketHeap.destroy_calls
  | drop hopen hpc => exact SocketHeap.destroy_calls

/-- The services' own objects stay. -/
theorem Touches.alive (h : Touches s t sockets result sockets')
    {i : SocketOwner} (haccepted : i ≠ .accepted)
    (hsession : ∀ n, i ≠ .session n) :
    sockets'.object i = none ↔ sockets.object i = none := by
  cases h with
  | nothing hopen haccept => rfl
  | listener hopen haccept => exact (SocketHeap.works_close ..).alive i
  | session n hopen haccept => exact (SocketHeap.works_close ..).alive i
  | transfer n call pieces hopen haccept =>
      exact (SocketHeap.works_callOn ..).alive i
  | connection hopen hpc haccept hreturns =>
      rw [SocketHeap.accept_object_of_ne haccepted]
  | failure hopen hpc hreturns =>
      rw [SocketHeap.destroy_object_of_ne haccepted,
        SocketHeap.accept_object_of_ne haccepted]
  | number hopen hpc =>
      rw [SocketHeap.moveConstruct_object_of_ne (hsession _) haccepted]
  | refusal hopen =>
      rw [SocketHeap.destroy_object_of_ne haccepted]
      exact SocketHeap.close_object_none
  | drop hopen hpc => rw [SocketHeap.destroy_object_of_ne haccepted]

theorem Touches.linked (h : Touches s t sockets result sockets')
    (hs : s.Linked sockets) : t.Linked sockets' := by
  cases h with
  | nothing hopen haccept =>
      exact ⟨fun h => hs.accepted (mt haccept h),
        fun n hn => hs.session n (hopen ▸ hn)⟩
  | listener hopen haccept =>
      have hworks := SocketHeap.works_close sockets .listener
      constructor
      · intro h
        rw [hworks.held (by simp)]
        exact hs.accepted (haccept ▸ h)
      · intro n hn
        rw [hworks.held (by simp)]
        exact hs.session n (hopen ▸ hn)
  | session n hopen haccept =>
      constructor
      · intro h
        rw [(SocketHeap.works_close sockets (.session n)).held (by simp)]
        exact hs.accepted (haccept ▸ h)
      · intro m hm
        rw [SocketHeap.close_held]
        by_cases hmn : m = n
        · rw [hmn, Function.update_self]
        · rw [Function.update_of_ne (by simpa using hmn)]
          rw [hopen, Function.update_of_ne hmn] at hm
          exact hs.session m hm
  | transfer n call pieces hopen haccept =>
      have hheld : (sockets.callOn (.session n) call pieces).held
          = sockets.held := by
        unfold SocketHeap.held
        rw [SocketHeap.callOn_object]
      exact ⟨fun h => hheld ▸ hs.accepted (haccept ▸ h),
        fun m hm => hheld ▸ hs.session m (hopen ▸ hm)⟩
  | connection hopen hpc haccept hreturns =>
      refine ⟨fun h => absurd haccept h, fun m hm => ?_⟩
      rw [SocketHeap.held, SocketHeap.accept_object_of_ne (by simp)]
      exact hs.session m (hopen ▸ hm)
  | failure hopen hpc hreturns =>
      refine ⟨fun _ => SocketHeap.held_of_none SocketHeap.destroy_object,
        fun m hm => ?_⟩
      rw [SocketHeap.held, SocketHeap.destroy_object_of_ne (by simp),
        SocketHeap.accept_object_of_ne (by simp)]
      exact hs.session m (hopen ▸ hm)
  | number hopen hpc =>
      refine ⟨fun _ => SocketHeap.moveConstruct_source, fun m hm => ?_⟩
      have hmn : m ≠ s.nextSessionId := by
        rintro rfl
        rw [hopen, Function.update_self] at hm
        cases hm
      rw [hopen, Function.update_of_ne hmn] at hm
      rw [SocketHeap.held, SocketHeap.moveConstruct_object_of_ne
        (by simpa using hmn) (by simp)]
      exact hs.session m hm
  | refusal hopen =>
      refine ⟨fun _ => SocketHeap.held_of_none SocketHeap.destroy_object,
        fun m hm => ?_⟩
      rw [SocketHeap.held, SocketHeap.destroy_object_of_ne (by simp),
        SocketHeap.close_object_of_ne (by simp)]
      exact hs.session m (hopen ▸ hm)
  | drop hopen hpc =>
      refine ⟨fun _ => SocketHeap.held_of_none SocketHeap.destroy_object,
        fun m hm => ?_⟩
      rw [SocketHeap.held, SocketHeap.destroy_object_of_ne (by simp)]
      exact hs.session m (hopen ▸ hm)

/-- A number not given out yet has no open connection. -/
theorem Serving.next_shut (h : s.Serving) :
    s.socketOpen s.nextSessionId = false := by
  rw [← Bool.not_eq_true]
  intro hopen
  have habsent := h.orderly.fresh.absent s.nextSessionId (Or.inr le_rfl)
  have hnew := h.winding.started _ hopen habsent
  exact absurd (h.orderly.fresh.bound _ hnew) (Nat.lt_irrefl _)

variable [FloatArith F] {clientIp : Nat → String}
  {host : Endian.ByteOrder} {a : ThreadAction}

theorem receive_frame {n : Nat} {received : Option (List UInt8)}
    (hstep : s.receive clientIp host n received = some t) :
    t.socketOpen = s.socketOpen ∧ t.accept = s.accept := by
  unfold receive at hstep
  split at hstep
  · obtain rfl := Option.some.inj hstep
    exact ⟨rfl, rfl⟩
  · obtain rfl := Option.some.inj hstep
    exact ⟨rfl, rfl⟩
  · split at hstep
    · dsimp only at hstep
      split at hstep <;> obtain rfl := Option.some.inj hstep <;>
        exact ⟨rfl, rfl⟩
    · cases hstep
  · split at hstep
    · obtain rfl := Option.some.inj hstep
      exact ⟨rfl, rfl⟩
    · cases hstep
  · cases hstep

theorem touches_of_step (hs : s.Linked sockets)
    (haccepts : s.Accepts sockets result a)
    (hstep : s.step clientIp host a = some t) :
    Touches s t sockets result (s.socketsAfter sockets result pieces a) := by
  cases a with
  | stop => exact touches_of_stopStep hstep
  | stopSnapshot order =>
      rw [step] at hstep
      split at hstep
      · obtain rfl := Option.some.inj hstep
        exact .nothing rfl id
      · cases hstep
  | accept connection => exact touches_of_acceptStep hs haccepts hstep
  | worker n => exact touches_of_workerStep hstep
  | receive n received =>
      have hsame := receive_frame hstep
      exact .transfer n .recv pieces hsame.1 hsame.2
  | snapshot n order =>
      rw [step] at hstep
      split at hstep
      · unfold workerSnapshot at hstep
        dsimp only at hstep
        split at hstep
        · obtain rfl := Option.some.inj hstep
          exact .nothing rfl id
        · obtain rfl := Option.some.inj hstep
          exact .nothing rfl id
        · cases hstep
      · cases hstep

end

/-! ## CloseAll -/

section

variable {F : Type} {s : ControlThreads F × SocketHeap SocketOwner}

/-- What `CloseAll` finds and leaves. -/
structure Settled (s : ControlThreads F × SocketHeap SocketOwner) : Prop where
  quiet : s.1.Quiet
  linked : s.1.Linked s.2
  owned : s.2.Owned

theorem Settled.stopOne (h : Settled s) (n : Nat) :
    Settled (stopOne s n)
      ∧ SocketHeap.Works (.session n) s.2 (ControlThreads.stopOne s n).2 := by
  unfold ControlThreads.stopOne
  dsimp only
  split
  · have hworks := SocketHeap.works_close s.2 (.session n)
    refine ⟨⟨⟨h.quiet.cleared, h.quiet.stopped, h.quiet.ended, h.quiet.inactive,
      fun m => closeSocket_of_closed (h.quiet.shut m)⟩, ⟨?_, ?_⟩,
      h.owned.close _⟩, hworks⟩
    · intro haccept
      rw [hworks.held (by simp)]
      exact h.linked.accepted haccept
    · intro m _
      rw [SocketHeap.close_held, Function.update_apply]
      split
      · rfl
      · exact h.linked.session m (h.quiet.shut m)
  · exact ⟨⟨⟨h.quiet.cleared, h.quiet.stopped, h.quiet.ended,
      h.quiet.inactive, h.quiet.shut⟩,
      ⟨h.linked.accepted, h.linked.session⟩, h.owned⟩, .refl _ _⟩

theorem Settled.closeAll {c : ControlThreads F}
    {sockets : SocketHeap SocketOwner} (h : Settled (c, sockets)) :
    Settled (c.closeAll sockets)
      ∧ sockets.calls <:+ (c.closeAll sockets).2.calls
      ∧ ∀ i, (c.closeAll sockets).2.object i = none
        ↔ sockets.object i = none := by
  have hrun : ∀ (ns : List Nat) (s : ControlThreads F × SocketHeap SocketOwner),
      Settled s → Settled (ns.foldl ControlThreads.stopOne s)
        ∧ s.2.calls <:+ (ns.foldl ControlThreads.stopOne s).2.calls
        ∧ ∀ i, (ns.foldl ControlThreads.stopOne s).2.object i = none
          ↔ s.2.object i = none := by
    intro ns
    induction ns with
    | nil => exact fun s hs => ⟨hs, List.suffix_rfl, fun _ => Iff.rfl⟩
    | cons n ns ih =>
        intro s hs
        obtain ⟨hone, hworks⟩ := hs.stopOne n
        obtain ⟨hall, hcalls, halive⟩ := ih _ hone
        exact ⟨hall, hworks.calls.trans hcalls,
          fun i => (halive i).trans (hworks.alive i)⟩
  have hq := h.quiet
  exact hrun c.sessions ({ c with sessions := [] }, sockets)
    ⟨⟨hq.cleared, hq.stopped, hq.ended, hq.inactive, hq.shut⟩,
      ⟨h.linked.accepted, h.linked.session⟩, h.owned⟩

end

end ControlThreads

end NetworkControl
