import NetworkControl.ThreadOrder

/-!
# Shutting the server down

`Stop` clears `isRunning_`, stops the sessions of one snapshot, joins the
accept thread and waits for the worker count to reach zero. What the order
of these steps buys (`stop_clean`): nobody is left in a `ReceiveAll` that
nobody will end, and nobody is left when `Stop` returns.
-/

namespace NetworkControl

namespace ControlThreads

section

variable {F : Type} {s t : ControlThreads F} [FloatArith F]
  {clientIp : Nat → String} {host : Endian.ByteOrder}

/-- From `s` on, the worker's test of `isRunning_` reads false, and it is
in no `ReceiveAll` before it. -/
def SeesCleared (clientIp : Nat → String) (host : Endian.ByteOrder)
    (s : ControlThreads F) (n : Nat) : Prop :=
  ∀ as t, (system clientIp host).run s as = some t →
    t.isRunning = false ∧ (t.worker n).isReceiving = false

omit [FloatArith F] in
/-- Once the flag is cleared, nobody comes to a `ReceiveAll` from
outside. -/
theorem Moves.seesCleared (h : Moves s t) {n : Nat}
    (hs : s.isRunning = false ∧ (s.worker n).isReceiving = false) :
    t.isRunning = false ∧ (t.worker n).isReceiving = false := by
  obtain ⟨hcleared, hn⟩ := hs
  have hupdate : ∀ m (pc : ControlWorkerPc),
      (m = n → pc.isReceiving = false) →
      (Function.update s.worker m pc n).isReceiving = false := by
    intro m pc hpc
    by_cases hm : n = m
    · subst hm
      rw [Function.update_self]
      exact hpc rfl
    · rw [Function.update_of_ne hm]
      exact hn
  cases h with
  | clear hpc => exact ⟨rfl, hn⟩
  | start hpc => exact ⟨hcleared, hupdate _ .testing fun _ => rfl⟩
  | receive hpc hrunning =>
      rw [hcleared] at hrunning
      cases hrunning
  | @quiet m pc control hactive hpc hreceiving hlisted hclosing hkept =>
      refine ⟨hcleared, hupdate m pc fun hm => ?_⟩
      subst hm
      cases hnow : pc.isReceiving with
      | false => rfl
      | true => exact (hreceiving hnow).symm.trans hn
  | erase hpc => exact ⟨hcleared, hupdate _ .stopping fun _ => rfl⟩
  | exchange hpc => exact ⟨hcleared, hupdate _ .closing fun _ => rfl⟩
  | close hpc => exact ⟨hcleared, hupdate _ .counting fun _ => rfl⟩
  | finish hpc => exact ⟨hcleared, hupdate _ .done fun _ => rfl⟩
  | _ => exact ⟨hcleared, hn⟩

omit [FloatArith F] in
theorem Moves.hasStoppedSessions (h : Moves s t)
    (hs : s.stop.hasStoppedSessions = true) :
    t.stop.hasStoppedSessions = true := by
  cases h with
  | clear hpc =>
      rw [hpc] at hs
      cases hs
  | closeListener hpc =>
      rw [hpc] at hs
      cases hs
  | stopSnapshot hpc horder =>
      rw [hpc] at hs
      cases hs
  | stopSession hpc =>
      rw [hpc] at hs
      cases hs
  | skipSession hpc hclosed =>
      rw [hpc] at hs
      cases hs
  | stopped hpc => rfl
  | stopSocket hpc =>
      rw [hpc] at hs
      cases hs
  | join hpc hended => rfl
  | pass hpc hcount => rfl
  | _ => exact hs

omit [FloatArith F] in
/-- Behind the loop, a socket that is still open has no worker waiting. -/
theorem Orderly.quiet (hs : s.Orderly)
    (hstopped : s.stop.hasStoppedSessions = true) (n : Nat) :
    s.socketOpen n = false
      ∨ s.isRunning = false ∧ (s.worker n).isReceiving = false := by
  have hcleared : s.isRunning = false := by
    cases hrunning : s.isRunning with
    | false => rfl
    | true =>
        rw [hs.flagged hrunning] at hstopped
        cases hstopped
  cases hn : (s.worker n).isReceiving with
  | false => exact Or.inr ⟨hcleared, rfl⟩
  | true =>
      rcases hs.covered n hn with hcovers | hshut
      · cases hpc : s.stop with
        | joining =>
            rw [hpc] at hcovers
            cases hcovers
        | waiting =>
            rw [hpc] at hcovers
            cases hcovers
        | returned =>
            rw [hpc] at hcovers
            cases hcovers
        | _ =>
            rw [hpc] at hstopped
            cases hstopped
      · exact Or.inl hshut

omit [FloatArith F] in
/-- When `Stop` has returned, no thread moves any more. -/
theorem Moves.returned (h : Moves s t) (hs : s.Orderly)
    (hreturned : s.stop = .returned) : t = s := by
  have hidle := hs.finished hreturned
  have hended := hs.joined (Or.inr hreturned)
  have hworker : ∀ n, (s.worker n).isActive ≠ true := fun n => by
    rw [hidle n]
    decide
  cases h with
  | sleep => rfl
  | clear hpc => simp [hpc] at hreturned
  | closeListener hpc => simp [hpc] at hreturned
  | stopSnapshot hpc horder => simp [hpc] at hreturned
  | stopSession hpc => simp [hpc] at hreturned
  | skipSession hpc hclosed => simp [hpc] at hreturned
  | stopped hpc => simp [hpc] at hreturned
  | stopSocket hpc => simp [hpc] at hreturned
  | join hpc hjoined => simp [hpc] at hreturned
  | pass hpc hcount => simp [hpc] at hreturned
  | accept hrunning hnone hpc => exact absurd hended hrunning
  | number hpc hrunning => simp [hpc] at hended
  | add hpc => simp [hpc] at hended
  | count hpc => simp [hpc] at hended
  | start hpc => simp [hpc] at hended
  | receive hpc hrunning => exact absurd (by rw [hpc]; rfl) (hworker _)
  | quiet hactive => exact absurd hactive (hworker _)
  | erase hpc => exact absurd (by rw [hpc]; rfl) (hworker _)
  | exchange hpc => exact absurd (by rw [hpc]; rfl) (hworker _)
  | close hpc => exact absurd (by rw [hpc]; rfl) (hworker _)
  | finish hpc => exact absurd (by rw [hpc]; rfl) (hworker _)

/-- `Stop`, the accept thread and the workers, in any interleaving. Behind
the loop over the snapshot every worker of a later state has its socket
closed, or sees the cleared flag before its next `ReceiveAll`. Behind the
wait loop every worker ever started is done, and none starts. -/
theorem stop_clean (h : (system clientIp host).Reachable s) :
    (s.stop.hasStoppedSessions = true →
      ∀ as t, (system clientIp host).run s as = some t →
      ∀ n, (t.worker n).isActive = true →
        t.socketOpen n = false ∨ SeesCleared clientIp host t n)
    ∧ (s.stop = .returned →
      (∀ n, s.worker n ≠ .absent → s.worker n = .done)
      ∧ ∀ as t, (system clientIp host).run s as = some t →
        t.worker = s.worker) := by
  have hs := orderly_reachable h
  constructor
  · intro hstopped as t hrun n hactive
    have ht := orderly_reachable (Lts.Reachable.run h hrun)
    have hlater := Lts.run_invariant
      (I := fun s : ControlThreads F => s.stop.hasStoppedSessions = true)
      (fun s a t hs hstep => (moves_of_step hstep).hasStoppedSessions hs)
      hstopped hrun
    refine (ht.quiet hlater n).imp_right fun hquiet as u hrun => ?_
    exact Lts.run_invariant (I := fun s : ControlThreads F =>
        s.isRunning = false ∧ (s.worker n).isReceiving = false)
      (fun s a t hs hstep => (moves_of_step hstep).seesCleared hs)
      hquiet hrun
  · intro hreturned
    refine ⟨fun n hn => ?_, fun as t hrun => ?_⟩
    · have hidle := hs.finished hreturned n
      cases hpc : s.worker n with
      | absent => exact absurd hpc hn
      | done => rfl
      | _ =>
          rw [hpc] at hidle
          cases hidle
    · have hsame := Lts.run_invariant (I := fun t => t = s)
        (fun u a t hu hstep => by
          subst hu
          exact (moves_of_step hstep).returned hs hreturned) rfl hrun
      rw [hsame]

/-- `Stop` comes while client 1 is being announced and client 2 is being
accepted: session 2 is not in the snapshot. -/
def lateClient : List ThreadAction :=
  [.accept false, .accept true, .accept false, .accept false, .accept false,
    .accept false, .worker 1, .receive 1 (some [0]),
    .receive 1 (some [23, 112]), .snapshot 1 [1], .accept false, .accept true,
    .accept false, .stop, .stop, .stopSnapshot [1], .stop, .stop, .stop,
    .accept false, .accept false, .accept false]

/-- The workers find the flag cleared and leave. -/
def lateClientLeaves : List ThreadAction :=
  List.replicate 4 (.worker 1) ++ [.snapshot 1 [1, 2]]
    ++ List.replicate 5 (.worker 1) ++ List.replicate 6 (.worker 2)
    ++ [.accept false, .stop, .stop]

end

theorem stop_clean_late :
    ∃ s t : ControlThreads Float32, s.worker 2 = .testing
      ∧ s.socketOpen 1 = false ∧ s.socketOpen 2 = true
      ∧ SeesCleared (fun _ => "127.0.0.1") .little s 2
      ∧ t.worker 1 = .done ∧ t.worker 2 = .done := by
  obtain ⟨s, hs, hp⟩ := Lts.exists_reachable
    (system (F := Float32) (fun _ => "127.0.0.1") .little)
    (s := started) rfl lateClient
    (fun s => s.stop == .joining && s.worker 2 == .testing
      && !s.socketOpen 1 && s.socketOpen 2) (by decide +kernel)
  obtain ⟨t, ht, hq⟩ := Lts.exists_reachable
    (system (F := Float32) (fun _ => "127.0.0.1") .little)
    (s := started) rfl (lateClient ++ lateClientLeaves)
    (fun t => t.stop == .returned && t.worker 1 != .absent
      && t.worker 2 != .absent) (by decide +kernel)
  simp only [Bool.and_eq_true, beq_iff_eq, bne_iff_ne, ne_eq,
    Bool.not_eq_true'] at hp hq
  obtain ⟨⟨⟨hjoining, htesting⟩, hshut⟩, hopen⟩ := hp
  obtain ⟨⟨hreturned, hone⟩, htwo⟩ := hq
  obtain ⟨hdone, -⟩ := (stop_clean ht).2 hreturned
  have hquiet := (stop_clean hs).1 (by rw [hjoining]; rfl) [] s rfl 2
    (by rw [htesting]; rfl)
  exact ⟨s, t, htesting, hshut, hopen,
    hquiet.resolve_left (by rw [hopen]; decide), hdone 1 hone, hdone 2 htwo⟩

end ControlThreads

end NetworkControl
