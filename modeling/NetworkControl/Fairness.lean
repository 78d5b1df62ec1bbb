import Mathlib.Order.WellFounded
import NetworkControl.Lts

/-!
# Fair runs

Infinite runs of a labelled system and what happens along them sooner or
later. A part of the system is the set of the actions that are its own
moves; it is treated fairly if it does not stay ready for ever without
moving. Ready may be less than able: a thread in a blocking call is able
to return from it, but nothing says that it will.

`Behavior.responds` is the one rule: as long as `p` holds, a state names
the part that can help, no step raises the rank, a step of the helper
lowers it, and a step that leaves the rank alone leaves the helper alone.
Then every fair run leaves `p`.
-/

namespace Lts

variable {σ α : Type*} {L : Lts σ α}

/-! ## Infinite runs -/

/-- What may happen at one instant: an action, or nothing. -/
def StepOrStay (L : Lts σ α) (s : σ) (t : σ) : Option α → Prop
  | none => t = s
  | some a => L.step s a = some t

/-- An infinite run. -/
structure Behavior (L : Lts σ α) where
  state : Nat → σ
  action : Nat → Option α
  init : L.init (state 0)
  next : ∀ i, L.StepOrStay (state i) (state (i + 1)) (action i)

/-- One of the actions `mine` can be taken. -/
def Enabled (L : Lts σ α) (mine : α → Prop) (s : σ) : Prop :=
  ∃ a, mine a ∧ (L.step s a).isSome = true

namespace Behavior

variable {r : L.Behavior}

/-- Weak fairness: again and again the part moves or is not ready. -/
def FairTo (r : L.Behavior) (ready : σ → Prop) (mine : α → Prop) : Prop :=
  ∀ i, ∃ j, i ≤ j ∧ (¬ ready (r.state j)
    ∨ ∃ a, r.action j = some a ∧ mine a)

/-- Weak fairness to a part that is ready as soon as it can move. -/
def Fair (r : L.Behavior) (mine : α → Prop) : Prop :=
  r.FairTo (L.Enabled mine) mine

theorem reachable (r : L.Behavior) (i : Nat) : L.Reachable (r.state i) := by
  induction i with
  | zero => exact .init r.init
  | succ i ih =>
      have hnext := r.next i
      cases haction : r.action i with
      | none =>
          rw [haction] at hnext
          rw [show r.state (i + 1) = r.state i from hnext]
          exact ih
      | some a =>
          rw [haction] at hnext
          exact ih.step trivial hnext

/-! ## Response -/

section

variable {τ ι : Type*} [Preorder ι] {ready : τ → σ → Prop}
  {mine : τ → α → Prop} {p : σ → Prop} {rank : σ → ι} {helper : σ → τ}

/-- What a step out of a state with `p` may do: end `p`, lower the rank,
or be no move of the helper and change neither. -/
def Helps (mine : τ → α → Prop) (p : σ → Prop) (rank : σ → ι)
    (helper : σ → τ) (s : σ) (a : α) (t : σ) : Prop :=
  ¬ p t ∨ rank t < rank s
    ∨ (rank t = rank s ∧ helper t = helper s ∧ ¬ mine (helper s) a)

/-- Until `p` ends or the rank drops, nothing changes for the helper. -/
theorem waits
    (hstep : ∀ s a t, L.Reachable s → p s → L.step s a = some t →
      Helps mine p rank helper s a t)
    {i : Nat} (hnever : ∀ j, i ≤ j →
      p (r.state j) ∧ ¬ rank (r.state j) < rank (r.state i))
    (d : Nat) : rank (r.state (i + d)) = rank (r.state i)
      ∧ helper (r.state (i + d)) = helper (r.state i) := by
  induction d with
  | zero => exact ⟨rfl, rfl⟩
  | succ d ih =>
      obtain ⟨hrank, hhelper⟩ := ih
      have hnext := r.next (i + d)
      have hafter := hnever (i + (d + 1)) (by omega)
      cases haction : r.action (i + d) with
      | none =>
          rw [haction] at hnext
          have hstay : r.state (i + (d + 1)) = r.state (i + d) := hnext
          rw [hstay]
          exact ⟨hrank, hhelper⟩
      | some a =>
          rw [haction] at hnext
          rcases hstep _ a _ (r.reachable _)
              (hnever (i + d) (by omega)).1 hnext with
            hends | hdrops | ⟨hsame, hkept, -⟩
          · exact absurd hafter.1 hends
          · rw [hrank] at hdrops
            exact absurd hdrops hafter.2
          · exact ⟨hsame.trans hrank, hkept.trans hhelper⟩

/-- Sooner or later `p` ends or the rank drops: the helper moves. -/
theorem progresses (hfair : ∀ t, r.FairTo (ready t) (mine t))
    (hready : ∀ s, L.Reachable s → p s → ready (helper s) s)
    (hstep : ∀ s a t, L.Reachable s → p s → L.step s a = some t →
      Helps mine p rank helper s a t)
    (i : Nat) :
    ∃ j, i ≤ j ∧ (¬ p (r.state j) ∨ rank (r.state j) < rank (r.state i)) := by
  by_contra hnone
  have hnever : ∀ j, i ≤ j →
      p (r.state j) ∧ ¬ rank (r.state j) < rank (r.state i) := by
    intro j hj
    have hboth := not_exists.mp hnone j
    refine ⟨?_, fun hdrops => hboth ⟨hj, Or.inr hdrops⟩⟩
    by_contra hends
    exact hboth ⟨hj, Or.inl hends⟩
  have hwaits := waits hstep hnever
  obtain ⟨j, hj, hmoves⟩ := hfair (helper (r.state i)) i
  obtain ⟨d, rfl⟩ := Nat.exists_eq_add_of_le hj
  obtain ⟨hrank, hhelper⟩ := hwaits d
  have hpending := (hnever (i + d) hj).1
  rcases hmoves with hstuck | ⟨a, haction, hmine⟩
  · rw [← hhelper] at hstuck
    exact hstuck (hready _ (r.reachable _) hpending)
  · have hnext := r.next (i + d)
    rw [haction] at hnext
    have hafter := hnever (i + (d + 1)) (by omega)
    rcases hstep _ a _ (r.reachable _) hpending hnext with
      hends | hdrops | ⟨-, -, hother⟩
    · exact hends hafter.1
    · rw [hrank] at hdrops
      exact hafter.2 hdrops
    · rw [hhelper] at hother
      exact hother hmine

/-- The response rule. -/
theorem responds [WellFoundedLT ι]
    (hfair : ∀ t, r.FairTo (ready t) (mine t))
    (hready : ∀ s, L.Reachable s → p s → ready (helper s) s)
    (hstep : ∀ s a t, L.Reachable s → p s → L.step s a = some t →
      Helps mine p rank helper s a t) (i : Nat) :
    ∃ j, i ≤ j ∧ ¬ p (r.state j) := by
  induction hrank : rank (r.state i) using WellFoundedLT.induction
    generalizing i with
  | ind n ih =>
      obtain ⟨j, hj, hends | hdrops⟩ := progresses hfair hready hstep i
      · exact ⟨j, hj, hends⟩
      · rw [hrank] at hdrops
        obtain ⟨k, hk, hends⟩ := ih _ hdrops j rfl
        exact ⟨k, hj.trans hk, hends⟩

end

/-- Where `p` is left, a step leaves it. -/
theorem exit (r : L.Behavior) {p : σ → Prop} {i j : Nat}
    (hp : p (r.state i)) (hj : i ≤ j) (hend : ¬ p (r.state j)) :
    ∃ k a, i ≤ k ∧ p (r.state k)
      ∧ L.step (r.state k) a = some (r.state (k + 1))
      ∧ ¬ p (r.state (k + 1)) := by
  induction j, hj using Nat.le_induction with
  | base => exact absurd hp hend
  | succ j hj ih =>
      by_cases hhere : p (r.state j)
      · have hnext := r.next j
        cases haction : r.action j with
        | none =>
            rw [haction] at hnext
            rw [show r.state (j + 1) = r.state j from hnext] at hend
            exact absurd hhere hend
        | some a =>
            rw [haction] at hnext
            exact ⟨j, a, hj, hhere, hnext, hend⟩
      · exact ih hhere

/-! ## Finite runs -/

section

variable {s t : σ} {as : List α}

/-- The states a finite run goes through, and its last for ever. -/
def along (L : Lts σ α) (s t : σ) (as : List α) (i : Nat) : σ :=
  (L.run s (as.take i)).getD t

theorem run_take (hrun : L.run s as = some t) (i : Nat) :
    L.run s (as.take i) = some (along L s t as i) := by
  have hsplit : L.run s (as.take i ++ as.drop i) = some t := by
    rw [List.take_append_drop]
    exact hrun
  rw [run_append] at hsplit
  obtain ⟨u, hu, -⟩ := Option.bind_eq_some_iff.mp hsplit
  rw [along, hu]
  rfl

/-- A finite run that then stays where it is. -/
def ofRun (hinit : L.init s) (hrun : L.run s as = some t) :
    L.Behavior where
  state := along L s t as
  action i := as[i]?
  init := hinit
  next i := by
    have hhere := run_take hrun i
    have hthere := run_take hrun (i + 1)
    cases ha : as[i]? with
    | none =>
        have hlong : as.length ≤ i := List.getElem?_eq_none_iff.mp ha
        rw [List.take_of_length_le hlong] at hhere
        rw [List.take_of_length_le (by omega), hhere] at hthere
        exact (Option.some.inj hthere).symm
    | some a =>
        rw [List.take_add_one, ha, run_append, hhere] at hthere
        obtain ⟨u, hu, hend⟩ := Option.bind_eq_some_iff.mp hthere
        obtain rfl := Option.some.inj hu
        obtain ⟨v, hv, hlast⟩ := Option.bind_eq_some_iff.mp hend
        obtain rfl := Option.some.inj hlast
        exact hv

/-- It is fair to those who are not ready at its end. -/
theorem ofRun_fairTo {ready : σ → Prop} {mine : α → Prop} (hinit : L.init s)
    (hrun : L.run s as = some t) (hstuck : ¬ ready t) :
    (ofRun hinit hrun).FairTo ready mine := by
  intro i
  refine ⟨max i as.length, Nat.le_max_left _ _, Or.inl ?_⟩
  have hend := run_take hrun (max i as.length)
  rw [List.take_of_length_le (Nat.le_max_right _ _), hrun] at hend
  rw [show (ofRun hinit hrun).state _ = t from (Option.some.inj hend).symm]
  exact hstuck

theorem ofRun_fair {mine : α → Prop} (hinit : L.init s)
    (hrun : L.run s as = some t) (hstuck : ¬ L.Enabled mine t) :
    (ofRun hinit hrun).Fair mine :=
  ofRun_fairTo hinit hrun hstuck

end

end Behavior

end Lts
