import Mathlib.Data.Finset.Card
import NetworkControl.ThreadMoves

/-!
# The order of the shared steps

Two orders in `Server/TcpControlServer.cpp` make a shutdown clean. A
session is in the map before its worker first tests the flag: either the
snapshot of `Stop` has it, or the test comes behind the clearing
(`Covered`). And the count is raised before the worker is started and
lowered by its last step, so it counts the workers under way, and the one
about to be (`Counted`). `Orderly` collects what every step keeps.
-/

namespace NetworkControl

namespace ControlThreads

/-! ## What every step keeps -/

section

variable {F : Type} {s t : ControlThreads F}

/-- The flag is cleared by `Stop`, once; nobody sets it again. -/
def Flagged (s : ControlThreads F) : Prop :=
  s.isRunning = true → s.stop = .idle

theorem Moves.flagged (h : Moves s t) (hs : s.Flagged) : t.Flagged := by
  cases h with
  | clear hpc => exact fun hrunning => nomatch hrunning
  | closeListener hpc => exact fun hrunning => by simp [hs hrunning] at hpc
  | stopSnapshot hpc horder =>
      exact fun hrunning => by simp [hs hrunning] at hpc
  | stopSession hpc => exact fun hrunning => by simp [hs hrunning] at hpc
  | skipSession hpc hclosed =>
      exact fun hrunning => by simp [hs hrunning] at hpc
  | stopped hpc => exact fun hrunning => by simp [hs hrunning] at hpc
  | stopSocket hpc => exact fun hrunning => by simp [hs hrunning] at hpc
  | join hpc hended => exact fun hrunning => by simp [hs hrunning] at hpc
  | pass hpc hcount => exact fun hrunning => by simp [hs hrunning] at hpc
  | _ => exact hs

/-- A session the accept thread has, or has yet to make, has no worker. -/
structure Fresh (s : ControlThreads F) : Prop where
  bound : ∀ n, s.accept.session = some n → n < s.nextSessionId
  absent : ∀ n, s.accept.session = some n ∨ s.nextSessionId ≤ n →
    s.worker n = .absent
  unclosed : s.isRunning = true →
    ∀ n, s.nextSessionId ≤ n → s.controlClosed n = false

/-- A worker's step is about no fresh session. -/
theorem Fresh.update (hs : s.Fresh) {n : Nat} (pc : ControlWorkerPc)
    (hn : s.worker n ≠ .absent) :
    (∀ m, s.accept.session = some m ∨ s.nextSessionId ≤ m →
        Function.update s.worker n pc m = .absent)
      ∧ ∀ m, s.nextSessionId ≤ m → m ≠ n := by
  refine ⟨fun m hm => ?_, fun m hm hmn => ?_⟩
  · have hne : m ≠ n := fun hmn => hn (hmn ▸ hs.absent m hm)
    rw [Function.update_of_ne hne]
    exact hs.absent m hm
  · exact hn (hmn ▸ hs.absent m (Or.inr hm))

theorem Moves.fresh (h : Moves s t) (hflag : s.Flagged) (hs : s.Fresh) :
    t.Fresh := by
  cases h with
  | clear hpc =>
      exact ⟨hs.bound, hs.absent, fun hrunning => nomatch hrunning⟩
  | stopSession hpc =>
      exact ⟨hs.bound, hs.absent, fun hrunning => by
        simp [hflag hrunning] at hpc⟩
  | skipSession hpc hclosed =>
      exact ⟨hs.bound, hs.absent, fun hrunning => by
        simp [hflag hrunning] at hpc⟩
  | accept hended hnone hpc =>
      refine ⟨fun n hn => ?_, fun n hn => ?_, hs.unclosed⟩
      · rw [hpc] at hn
        cases hn
      · rcases hn with hn | hn
        · rw [hpc] at hn
          cases hn
        · exact hs.absent n (Or.inr hn)
  | number hpc hrunning =>
      refine ⟨fun n hn => ?_, fun n hn => ?_, fun _ n hn => ?_⟩
      · obtain rfl := Option.some.inj hn
        exact Nat.lt_succ_self _
      · refine hs.absent n (Or.inr ?_)
        rcases hn with hn | hn
        · exact (Option.some.inj hn).le
        · exact Nat.le_of_succ_le hn
      · exact hs.unclosed hrunning n (Nat.le_of_succ_le hn)
  | @add n hpc =>
      have hsession : s.accept.session = some n := by rw [hpc]; rfl
      exact ⟨fun m hm => hs.bound m (hsession.trans hm),
        fun m hm => hs.absent m (hm.imp_left hsession.trans), hs.unclosed⟩
  | @count n hpc =>
      have hsession : s.accept.session = some n := by rw [hpc]; rfl
      exact ⟨fun m hm => hs.bound m (hsession.trans hm),
        fun m hm => hs.absent m (hm.imp_left hsession.trans), hs.unclosed⟩
  | @start n hpc =>
      have hbound := hs.bound n (by rw [hpc]; rfl)
      refine ⟨fun m hm => (nomatch hm), fun m hm => ?_, hs.unclosed⟩
      rcases hm with hm | hm
      · cases hm
      · have hne : m ≠ n := by
          intro hmn
          subst hmn
          exact absurd hbound (Nat.not_lt.mpr hm)
        exact (Function.update_of_ne hne ..).trans (hs.absent m (Or.inr hm))
  | @receive n hpc hrunning =>
      have hupdate := hs.update (n := n) .receivingHeader (by simp [hpc])
      exact ⟨hs.bound, hupdate.1, hs.unclosed⟩
  | @quiet n pc control hactive hpc hreceiving hlisted hclosing hclosed =>
      have hupdate := hs.update (n := n) pc
        (fun h => by rw [h] at hactive; cases hactive)
      exact ⟨hs.bound, hupdate.1, fun hrunning m hm =>
        (hclosed m).trans (hs.unclosed hrunning m hm)⟩
  | @erase n hpc =>
      have hupdate := hs.update (n := n) .stopping (by simp [hpc])
      exact ⟨hs.bound, hupdate.1, hs.unclosed⟩
  | @exchange n hpc =>
      have hupdate := hs.update (n := n) .closing (by simp [hpc])
      refine ⟨hs.bound, hupdate.1, fun hrunning m hm => ?_⟩
      exact (setSession_controlClosed_of_ne (hupdate.2 m hm) _).trans
        (hs.unclosed hrunning m hm)
  | @close n hpc =>
      have hupdate := hs.update (n := n) .counting (by simp [hpc])
      exact ⟨hs.bound, hupdate.1, hs.unclosed⟩
  | @finish n hpc =>
      have hupdate := hs.update (n := n) .done (by simp [hpc])
      exact ⟨hs.bound, hupdate.1, hs.unclosed⟩
  | _ => exact ⟨hs.bound, hs.absent, hs.unclosed⟩

/-- A worker finds its session in the map until it removes it. -/
structure Listed (s : ControlThreads F) : Prop where
  workers : ∀ n, (s.worker n).isListed = true → n ∈ s.sessions
  accepted : ∀ n, s.accept = .counting n ∨ s.accept = .starting n →
    n ∈ s.sessions

theorem Listed.update (hs : s.Listed) {n : Nat} (pc : ControlWorkerPc)
    (hn : pc.isListed = true → n ∈ s.sessions) (m : Nat)
    (hm : (Function.update s.worker n pc m).isListed = true) :
    m ∈ s.sessions := by
  by_cases hmn : m = n
  · subst hmn
    rw [Function.update_self] at hm
    exact hn hm
  · rw [Function.update_of_ne hmn] at hm
    exact hs.workers m hm

theorem Moves.listed (h : Moves s t) (hfresh : s.Fresh) (hs : s.Listed) :
    t.Listed := by
  cases h with
  | @accept pc hended hnone hpc =>
      refine ⟨hs.workers, fun n hn => ?_⟩
      rcases hn with hn | hn
      · obtain rfl : pc = .counting n := hn
        cases hpc
      · obtain rfl : pc = .starting n := hn
        cases hpc
  | number hpc hrunning =>
      exact ⟨hs.workers, fun n hn => by rcases hn with hn | hn <;> cases hn⟩
  | @add n hpc =>
      refine ⟨fun m hm => List.mem_append_left _ (hs.workers m hm),
        fun m hm => ?_⟩
      rcases hm with hm | hm
      · obtain rfl := AcceptPc.counting.inj hm
        exact List.mem_append_right _ (List.mem_singleton.mpr rfl)
      · cases hm
  | @count n hpc =>
      refine ⟨hs.workers, fun m hm => ?_⟩
      rcases hm with hm | hm
      · cases hm
      · obtain rfl := AcceptPc.starting.inj hm
        exact hs.accepted n (Or.inl hpc)
  | @start n hpc =>
      refine ⟨hs.update .testing fun _ => hs.accepted n (Or.inr hpc),
        fun m hm => ?_⟩
      rcases hm with hm | hm <;> cases hm
  | @receive n hpc hrunning =>
      exact ⟨hs.update .receivingHeader fun _ =>
        hs.workers n (by rw [hpc]; rfl), hs.accepted⟩
  | @quiet n pc control hactive hpc hreceiving hlisted hclosing hclosed =>
      exact ⟨hs.update pc fun h => hs.workers n (hlisted h), hs.accepted⟩
  | @erase n hpc =>
      refine ⟨fun m hm => ?_, fun m hm => ?_⟩
      · have hm : (Function.update s.worker n .stopping m).isListed = true :=
          hm
        have hne : m ≠ n := by
          rintro rfl
          rw [Function.update_self] at hm
          cases hm
        exact List.mem_filter.mpr ⟨hs.update .stopping (fun h => nomatch h)
          m hm, decide_eq_true hne⟩
      · have hm : s.accept = .counting m ∨ s.accept = .starting m := hm
        have hsession : s.accept.session = some m := by
          rcases hm with hm | hm <;> rw [hm] <;> rfl
        have hne : m ≠ n := by
          rintro rfl
          rw [hfresh.absent m (Or.inl hsession)] at hpc
          cases hpc
        exact List.mem_filter.mpr ⟨hs.accepted m hm, decide_eq_true hne⟩
  | exchange hpc =>
      exact ⟨hs.update .closing fun h => (nomatch h), hs.accepted⟩
  | close hpc =>
      exact ⟨hs.update .counting fun h => (nomatch h), hs.accepted⟩
  | finish hpc => exact ⟨hs.update .done fun h => (nomatch h), hs.accepted⟩
  | _ => exact ⟨hs.workers, hs.accepted⟩

/-- Whoever wins the exchange in `StopSession` closes the socket next. -/
def Closes (s : ControlThreads F) : Prop :=
  ∀ n, s.controlClosed n = true → s.socketOpen n = false
    ∨ (∃ rest, s.stop = .closingSocket n rest) ∨ s.worker n = .closing

theorem Closes.stop (hs : s.Closes) {n : Nat} {stop : StopPc}
    (hstop : ∀ rest, s.stop ≠ .closingSocket n rest)
    (hclosed : s.controlClosed n = true) :
    s.socketOpen n = false ∨ (∃ rest, stop = .closingSocket n rest)
      ∨ s.worker n = .closing := by
  rcases hs n hclosed with hshut | ⟨rest, hrest⟩ | hworker
  · exact Or.inl hshut
  · exact absurd hrest (hstop rest)
  · exact Or.inr (Or.inr hworker)

theorem Closes.update (hs : s.Closes) {n : Nat} (pc : ControlWorkerPc)
    (hn : s.worker n ≠ .closing) (m : Nat)
    (hclosed : s.controlClosed m = true) :
    s.socketOpen m = false ∨ (∃ rest, s.stop = .closingSocket m rest)
      ∨ Function.update s.worker n pc m = .closing := by
  rcases hs m hclosed with hshut | hstop | hworker
  · exact Or.inl hshut
  · exact Or.inr (Or.inl hstop)
  · have hne : m ≠ n := fun hmn => hn (hmn ▸ hworker)
    rw [Function.update_of_ne hne]
    exact Or.inr (Or.inr hworker)

theorem closeSocket_of_closed {n m : Nat} (h : s.socketOpen m = false) :
    (s.closeSocket n).socketOpen m = false := by
  by_cases hm : m = n
  · subst hm
    exact Function.update_self ..
  · exact (Function.update_of_ne hm ..).trans h

theorem Moves.closes (h : Moves s t) (hfresh : s.Fresh) (hs : s.Closes) :
    t.Closes := by
  cases h with
  | clear hpc => exact fun n => hs.stop (by simp [hpc])
  | closeListener hpc => exact fun n => hs.stop (by simp [hpc])
  | stopSnapshot hpc horder => exact fun n => hs.stop (by simp [hpc])
  | @stopSession n rest hpc =>
      intro m hclosed
      by_cases hm : m = n
      · subst hm
        exact Or.inr (Or.inl ⟨rest, rfl⟩)
      · refine hs.stop (by simp [hpc]) ?_
        exact (setSession_controlClosed_of_ne hm _).symm.trans hclosed
  | skipSession hpc hsame =>
      intro m hclosed
      refine hs.stop (by simp [hpc]) ?_
      exact (stopSession_controlClosed hsame m).symm.trans hclosed
  | stopped hpc => exact fun n => hs.stop (by simp [hpc])
  | @stopSocket n rest hpc =>
      intro m hclosed
      by_cases hm : m = n
      · subst hm
        exact Or.inl (Function.update_self ..)
      · have hother : s.socketOpen m = false
            ∨ (∃ rest', StopPc.stopping rest = .closingSocket m rest')
            ∨ s.worker m = .closing :=
          hs.stop (by simp [hpc, Ne.symm hm]) hclosed
        exact hother.imp_left closeSocket_of_closed
  | join hpc hended => exact fun n => hs.stop (by simp [hpc])
  | pass hpc hcount => exact fun n => hs.stop (by simp [hpc])
  | number hpc hrunning =>
      intro m hclosed
      by_cases hm : m = s.nextSessionId
      · subst hm
        have hopen := hfresh.unclosed hrunning s.nextSessionId le_rfl
        exact absurd (hopen.symm.trans hclosed) (by decide)
      · have hkept : s.controlClosed m = true := hclosed
        exact (hs m hkept).imp_left fun hshut =>
          (Function.update_of_ne hm ..).trans hshut
  | @start n hpc =>
      have habsent := hfresh.absent n (Or.inl (by rw [hpc]; rfl))
      exact hs.update .testing (by simp [habsent])
  | @receive n hpc hrunning => exact hs.update .receivingHeader (by simp [hpc])
  | @quiet n pc control hactive hpc hreceiving hlisted hclosing hsame =>
      exact fun m hclosed => hs.update pc hclosing m
        ((hsame m).symm.trans hclosed)
  | @erase n hpc => exact hs.update .stopping (by simp [hpc])
  | @exchange n hpc =>
      intro m hclosed
      by_cases hm : m = n
      · subst hm
        exact Or.inr (Or.inr (Function.update_self ..))
      · refine hs.update .closing (by simp [hpc]) m ?_
        exact (setSession_controlClosed_of_ne hm _).symm.trans hclosed
  | @close n hpc =>
      intro m hclosed
      by_cases hm : m = n
      · subst hm
        exact Or.inl (Function.update_self ..)
      · have hkept : s.controlClosed m = true := hclosed
        rcases hs m hkept with hshut | hstop | hworker
        · exact Or.inl (closeSocket_of_closed hshut)
        · exact Or.inr (Or.inl hstop)
        · exact Or.inr (Or.inr
            ((Function.update_of_ne hm ..).trans hworker))
  | @finish n hpc => exact hs.update .done (by simp [hpc])
  | _ => exact hs

/-- A worker in `ReceiveAll` has a closed socket, or `Stop` will still come
to its session. -/
def Covered (s : ControlThreads F) : Prop :=
  ∀ n, (s.worker n).isReceiving = true →
    s.stop.Covers n ∨ s.socketOpen n = false

theorem Covered.update (hs : s.Covered) {n : Nat} (pc : ControlWorkerPc)
    (hn : pc.isReceiving = true → s.stop.Covers n ∨ s.socketOpen n = false)
    (m : Nat) (hm : (Function.update s.worker n pc m).isReceiving = true) :
    s.stop.Covers m ∨ s.socketOpen m = false := by
  by_cases hmn : m = n
  · subst hmn
    rw [Function.update_self] at hm
    exact hn hm
  · rw [Function.update_of_ne hmn] at hm
    exact hs m hm

theorem isListed_of_isReceiving {pc : ControlWorkerPc}
    (h : pc.isReceiving = true) : pc.isListed = true ∧ pc ≠ .closing := by
  cases pc with
  | receivingHeader => exact ⟨rfl, fun h => nomatch h⟩
  | receivingPayload type => exact ⟨rfl, fun h => nomatch h⟩
  | _ => cases h

theorem Moves.covered (h : Moves s t) (hflag : s.Flagged)
    (hlisted : s.Listed) (hcloses : s.Closes) (hs : s.Covered) :
    t.Covered := by
  cases h with
  | clear hpc => exact fun _ _ => Or.inl trivial
  | closeListener hpc => exact fun _ _ => Or.inl trivial
  | stopSnapshot hpc horder =>
      intro n hn
      have hmem := hlisted.workers n (isListed_of_isReceiving hn).1
      exact Or.inl (horder.mem_iff.mpr hmem)
  | @stopSession n rest hpc =>
      intro m hm
      have hcovered := hs m hm
      rw [hpc] at hcovered
      exact hcovered.imp_left List.mem_cons.mp
  | @skipSession n rest hpc hclosed =>
      intro m hm
      have hm : (s.worker m).isReceiving = true := hm
      have hcovered := hs m hm
      rw [hpc] at hcovered
      rcases hcovered with hcovers | hshut
      · rcases List.mem_cons.mp hcovers with rfl | hrest
        · rcases hcloses m hclosed with hshut | ⟨_, hstop⟩ | hworker
          · exact Or.inr hshut
          · rw [hpc] at hstop
            cases hstop
          · exact absurd hworker (isListed_of_isReceiving hm).2
        · exact Or.inl hrest
      · exact Or.inr hshut
  | stopped hpc =>
      intro m hm
      have hcovered := hs m hm
      rw [hpc] at hcovered
      rcases hcovered with hcovers | hshut
      · exact nomatch hcovers
      · exact Or.inr hshut
  | @stopSocket n rest hpc =>
      intro m hm
      have hcovered := hs m hm
      rw [hpc] at hcovered
      rcases hcovered with (rfl | hrest) | hshut
      · exact Or.inr (Function.update_self ..)
      · exact Or.inl hrest
      · exact Or.inr (closeSocket_of_closed hshut)
  | join hpc hended =>
      intro m hm
      have hcovered := hs m hm
      rw [hpc] at hcovered
      exact hcovered
  | pass hpc hcount =>
      intro m hm
      have hcovered := hs m hm
      rw [hpc] at hcovered
      exact hcovered
  | number hpc hrunning =>
      intro m hm
      have hidle := hflag hrunning
      left
      show s.stop.Covers m
      rw [hidle]
      trivial
  | start hpc => exact hs.update .testing fun h => nomatch h
  | @receive n hpc hrunning =>
      refine hs.update .receivingHeader fun _ => Or.inl ?_
      rw [hflag hrunning]
      trivial
  | @quiet n pc control hactive hpc hreceiving hlisted hclosing hsame =>
      exact hs.update pc fun h => hs n (hreceiving h)
  | erase hpc => exact hs.update .stopping fun h => nomatch h
  | exchange hpc => exact hs.update .closing fun h => nomatch h
  | @close n hpc =>
      intro m hm
      have hcovered := hs.update .counting (fun h => nomatch h) m hm
      exact hcovered.imp_right closeSocket_of_closed
  | finish hpc => exact hs.update .done fun h => nomatch h
  | _ => exact hs

/-! ## The count -/

def activeWorkers (s : ControlThreads F) : Finset Nat :=
  (Finset.range s.nextSessionId).filter fun n => (s.worker n).isActive = true

/-- The count is of the workers under way, and of the one about to be. -/
def Counted (s : ControlThreads F) : Prop :=
  s.activeControlWorkerCount
    = s.activeWorkers.card + s.accept.pending

theorem Fresh.mem_activeWorkers (hs : s.Fresh) {n : Nat} :
    n ∈ s.activeWorkers ↔ (s.worker n).isActive = true := by
  rw [activeWorkers, Finset.mem_filter, Finset.mem_range]
  refine and_iff_right_of_imp fun hactive => ?_
  by_contra hn
  rw [hs.absent n (Or.inr (Nat.not_lt.mp hn))] at hactive
  cases hactive

theorem activeWorkers_congr (hs : s.Fresh) (ht : t.Fresh)
    (h : ∀ n, (t.worker n).isActive = (s.worker n).isActive) :
    t.activeWorkers = s.activeWorkers := by
  ext n
  rw [hs.mem_activeWorkers, ht.mem_activeWorkers, h]

theorem isActive_update {n : Nat} {pc : ControlWorkerPc}
    (h : pc.isActive = (s.worker n).isActive) (m : Nat) :
    (Function.update s.worker n pc m).isActive = (s.worker m).isActive := by
  by_cases hm : m = n
  · subst hm
    rw [Function.update_self]
    exact h
  · rw [Function.update_of_ne hm]

theorem isActive_update_iff {n : Nat} {pc : ControlWorkerPc}
    (h : pc.isActive = true) (m : Nat) :
    (Function.update s.worker n pc m).isActive = true
      ↔ m = n ∨ (s.worker m).isActive = true := by
  by_cases hm : m = n
  · subst hm
    rw [Function.update_self]
    exact iff_of_true h (Or.inl rfl)
  · rw [Function.update_of_ne hm, or_iff_right hm]

theorem Moves.counted (h : Moves s t) (hfresh : s.Fresh) (hfresh' : t.Fresh)
    (hs : s.Counted) : t.Counted := by
  have hsame := activeWorkers_congr hfresh hfresh'
  unfold Counted at hs ⊢
  cases h with
  | accept hended hnone hpc =>
      rw [AcceptPc.pending_of_session hnone] at hs
      rw [AcceptPc.pending_of_session hpc]
      exact hs
  | number hpc hrunning =>
      rw [hsame fun _ => rfl, hs, hpc]
      rfl
  | add hpc =>
      rw [hpc] at hs
      exact hs
  | count hpc =>
      rw [hpc] at hs
      show s.activeControlWorkerCount + 1 = _ + 1
      rw [hs]
      exact congrArg (· + 1) (add_zero _)
  | @start n hpc =>
      have hnew : n ∉ s.activeWorkers := by
        have habsent := hfresh.absent n (Or.inl (by rw [hpc]; rfl))
        rw [hfresh.mem_activeWorkers, habsent]
        decide
      have hstart : activeWorkers { s.setWorker n .testing with
          accept := .testing } = insert n s.activeWorkers := by
        ext m
        rw [hfresh'.mem_activeWorkers, Finset.mem_insert,
          hfresh.mem_activeWorkers]
        exact isActive_update_iff (by rfl) m
      rw [hpc] at hs
      rw [hstart, Finset.card_insert_of_notMem hnew]
      push_cast
      exact hs.trans (add_zero _).symm
  | @receive n hpc hrunning =>
      rw [hsame (isActive_update (by rw [hpc]; rfl))]
      exact hs
  | @quiet n pc control hactive hpc hreceiving hlisted hclosing hkept =>
      rw [hsame (isActive_update (hpc.trans hactive.symm))]
      exact hs
  | @erase n hpc =>
      rw [hsame (isActive_update (by rw [hpc]; rfl))]
      exact hs
  | @exchange n hpc =>
      rw [hsame (isActive_update (s := s) (by rw [hpc]; rfl))]
      exact hs
  | @close n hpc =>
      rw [hsame (isActive_update (s := s) (by rw [hpc]; rfl))]
      exact hs
  | @finish n hpc =>
      have hold : n ∈ s.activeWorkers := by
        rw [hfresh.mem_activeWorkers, hpc]
        rfl
      have hfinish : activeWorkers { s.setWorker n .done with
          activeControlWorkerCount := s.activeControlWorkerCount - 1 }
          = s.activeWorkers.erase n := by
        ext m
        rw [hfresh'.mem_activeWorkers, Finset.mem_erase,
          hfresh.mem_activeWorkers]
        show (Function.update s.worker n .done m).isActive = true ↔ _
        by_cases hm : m = n
        · subst hm
          rw [Function.update_self]
          exact iff_of_false (by decide) fun h => h.1 rfl
        · rw [Function.update_of_ne hm]
          exact (and_iff_right hm).symm
      have hcard := Finset.card_erase_add_one hold
      rw [hfinish]
      show s.activeControlWorkerCount - 1 = _ + s.accept.pending
      omega
  | _ => exact hs

/-- Behind the join there is no accept thread. -/
def Joined (s : ControlThreads F) : Prop :=
  s.stop = .waiting ∨ s.stop = .returned → s.accept = .ended

theorem Moves.joined (h : Moves s t) (hs : s.Joined) : t.Joined := by
  cases h with
  | clear hpc => exact fun hwait => by rcases hwait with h | h <;> cases h
  | closeListener hpc =>
      exact fun hwait => by rcases hwait with h | h <;> cases h
  | stopSnapshot hpc horder =>
      exact fun hwait => by rcases hwait with h | h <;> cases h
  | stopSession hpc =>
      exact fun hwait => by rcases hwait with h | h <;> cases h
  | skipSession hpc hclosed =>
      exact fun hwait => by rcases hwait with h | h <;> cases h
  | stopped hpc => exact fun hwait => by rcases hwait with h | h <;> cases h
  | stopSocket hpc =>
      exact fun hwait => by rcases hwait with h | h <;> cases h
  | join hpc hended => exact fun _ => hended
  | pass hpc hcount => exact fun _ => hs (Or.inl hpc)
  | accept hended hnone hpc => exact fun hwait => absurd (hs hwait) hended
  | number hpc hrunning =>
      exact fun hwait => absurd (hs hwait) (by simp [hpc])
  | add hpc => exact fun hwait => absurd (hs hwait) (by simp [hpc])
  | count hpc => exact fun hwait => absurd (hs hwait) (by simp [hpc])
  | start hpc => exact fun hwait => absurd (hs hwait) (by simp [hpc])
  | _ => exact hs

/-- Behind the wait loop there is no worker. -/
def Finished (s : ControlThreads F) : Prop :=
  s.stop = .returned → ∀ n, (s.worker n).isActive = false

/-- A count of zero, with the accept thread gone. -/
theorem Counted.finished (hs : s.Counted) (hfresh : s.Fresh)
    (hended : s.accept = .ended) (hcount : s.activeControlWorkerCount ≤ 0)
    (n : Nat) : (s.worker n).isActive = false := by
  rw [Counted, hended] at hs
  have hcard : s.activeWorkers.card = 0 := by
    simp only [AcceptPc.pending] at hs
    omega
  have hnone := Finset.card_eq_zero.mp hcard
  rw [← Bool.not_eq_true, ← hfresh.mem_activeWorkers, hnone]
  exact Finset.notMem_empty n

theorem Finished.not_returned (hs : s.Finished) {n : Nat}
    (hactive : (s.worker n).isActive = true) : s.stop ≠ .returned := by
  intro hreturned
  rw [hs hreturned n] at hactive
  cases hactive

theorem Moves.finished (h : Moves s t) (hfresh : s.Fresh)
    (hcounted : s.Counted) (hjoined : s.Joined) (hs : s.Finished) :
    t.Finished := by
  cases h with
  | clear hpc => exact fun hreturned => nomatch hreturned
  | closeListener hpc => exact fun hreturned => nomatch hreturned
  | stopSnapshot hpc horder => exact fun hreturned => nomatch hreturned
  | stopSession hpc => exact fun hreturned => nomatch hreturned
  | skipSession hpc hclosed => exact fun hreturned => nomatch hreturned
  | stopped hpc => exact fun hreturned => nomatch hreturned
  | stopSocket hpc => exact fun hreturned => nomatch hreturned
  | join hpc hended => exact fun hreturned => nomatch hreturned
  | pass hpc hcount =>
      exact fun _ => hcounted.finished hfresh (hjoined (Or.inl hpc)) hcount
  | start hpc =>
      exact fun hreturned => absurd (hjoined (Or.inr hreturned))
        (by simp [hpc])
  | @receive n hpc hrunning =>
      have hstop := hs.not_returned (n := n) (by rw [hpc]; rfl)
      exact fun hreturned => absurd hreturned hstop
  | @quiet n pc control hactive hpc hreceiving hlisted hclosing hkept =>
      exact fun hreturned => absurd hreturned (hs.not_returned hactive)
  | @erase n hpc =>
      have hstop := hs.not_returned (n := n) (by rw [hpc]; rfl)
      exact fun hreturned => absurd hreturned hstop
  | @exchange n hpc =>
      have hstop := hs.not_returned (n := n) (by rw [hpc]; rfl)
      exact fun hreturned => absurd hreturned hstop
  | @close n hpc =>
      have hstop := hs.not_returned (n := n) (by rw [hpc]; rfl)
      exact fun hreturned => absurd hreturned hstop
  | @finish n hpc =>
      have hstop := hs.not_returned (n := n) (by rw [hpc]; rfl)
      exact fun hreturned => absurd hreturned hstop
  | _ => exact hs

end

/-! ## Every reachable state -/

section

variable {F : Type} {s t : ControlThreads F}

/-- What holds in every reachable state. -/
structure Orderly (s : ControlThreads F) : Prop where
  flagged : s.Flagged
  fresh : s.Fresh
  listed : s.Listed
  closes : s.Closes
  covered : s.Covered
  counted : s.Counted
  joined : s.Joined
  finished : s.Finished

theorem Moves.orderly (h : Moves s t) (hs : s.Orderly) : t.Orderly := by
  have hfresh := h.fresh hs.flagged hs.fresh
  exact ⟨h.flagged hs.flagged, hfresh, h.listed hs.fresh hs.listed,
    h.closes hs.fresh hs.closes,
    h.covered hs.flagged hs.listed hs.closes hs.covered,
    h.counted hs.fresh hfresh hs.counted, h.joined hs.joined,
    h.finished hs.fresh hs.counted hs.joined hs.finished⟩

variable [FloatArith F]

theorem orderly_started : (started : ControlThreads F).Orderly := by
  refine ⟨fun _ => rfl, ⟨?_, ?_, ?_⟩, ⟨?_, ?_⟩, ?_, ?_, rfl, ?_, ?_⟩
  · exact fun _ hn => nomatch hn
  · exact fun _ _ => rfl
  · exact fun _ _ _ => rfl
  · exact fun _ hn => nomatch hn
  · exact fun _ hn => by rcases hn with hn | hn <;> cases hn
  · exact fun _ hn => nomatch hn
  · exact fun _ hn => nomatch hn
  · exact fun hwait => by rcases hwait with h | h <;> cases h
  · exact fun hreturned => nomatch hreturned

variable {clientIp : Nat → String} {host : Endian.ByteOrder}

theorem orderly_reachable (h : (system clientIp host).Reachable s) :
    s.Orderly := by
  refine h.invariant ?_ fun _ _ _ hs _ hstep =>
    (moves_of_step hstep).orderly hs
  rintro _ rfl
  exact orderly_started

end

end ControlThreads

end NetworkControl
