import Mathlib.Logic.Basic
import Mathlib.Data.Option.Basic

/-!
# Labelled systems and their guarded runs

The run layer every concurrency model of this development sits on,
independent of any particular program:

> An action either is not enabled or leads to exactly one state, so
> nondeterminism (which thread moves, what the network does, what a
> clock reads) lives in the action and never in the step function.

`ReachableUnder ok` collects the states reached by the runs whose every
step meets `ok` in the state it is taken from; `Reachable` is the
unguarded case. The one induction is `ReachableUnder.invariant`: what
holds initially and is kept by every guarded step holds of every state
reached. `run`/`runUnder` are the executable side: a concrete list of
actions is evaluated and the state it yields is reachable.
-/

/-- States `σ`, actions `α`; `step s a` is the state after `a`, or
`none` when `a` is not enabled in `s`. -/
structure Lts (σ α : Type*) where
  init : σ → Prop
  step : σ → α → Option σ

namespace Lts

variable {σ α : Type*} {L : Lts σ α} {ok ok' : σ → α → Prop}

/-! ## Reachability -/

/-- The states reached by runs whose steps all meet `ok`. -/
inductive ReachableUnder (L : Lts σ α) (ok : σ → α → Prop) : σ → Prop where
  | init {s : σ} : L.init s → ReachableUnder L ok s
  | step {s t : σ} {a : α} : ReachableUnder L ok s → ok s a →
      L.step s a = some t → ReachableUnder L ok t

/-- The states reached by any run. -/
def Reachable (L : Lts σ α) : σ → Prop :=
  L.ReachableUnder fun _ _ => True

/-- The invariant rule. -/
theorem ReachableUnder.invariant {I : σ → Prop} {t : σ}
    (h : L.ReachableUnder ok t) (hinit : ∀ s, L.init s → I s)
    (hstep : ∀ s a u, I s → ok s a → L.step s a = some u → I u) : I t := by
  induction h with
  | init h0 => exact hinit _ h0
  | step _ hok hs ih => exact hstep _ _ _ ih hok hs

theorem ReachableUnder.mono {t : σ} (h : L.ReachableUnder ok t)
    (hok : ∀ s a, ok s a → ok' s a) : L.ReachableUnder ok' t :=
  h.invariant (fun _ => .init) fun _ _ _ hs hguard hstep =>
    hs.step (hok _ _ hguard) hstep

/-! ## History variables -/

section

variable {η : Type*} {record : σ → α → η → η} {start : η} {x y : σ × η}
  {a : α}

/-- `L` with a history variable: `record` reads the steps, no step reads
what it recorded. -/
def recording (L : Lts σ α) (record : σ → α → η → η) (start : η) :
    Lts (σ × η) α where
  init x := L.init x.1 ∧ x.2 = start
  step x a := (L.step x.1 a).map fun t => (t, record x.1 a x.2)

theorem recording_step (h : (L.recording record start).step x a = some y) :
    L.step x.1 a = some y.1 ∧ y.2 = record x.1 a x.2 := by
  obtain ⟨t, ht, rfl⟩ := Option.map_eq_some_iff.mp h
  exact ⟨ht, rfl⟩

/-- Recording adds no run. -/
theorem recording_reachable (h : (L.recording record start).Reachable x) :
    L.Reachable x.1 := by
  refine ReachableUnder.invariant (I := fun x => L.Reachable x.1) h ?_ ?_
  · exact fun x hx => ReachableUnder.init hx.1
  · exact fun x a y hx _ hstep => hx.step trivial (recording_step hstep).1

end

/-! ## Executable runs -/

/-- The state a list of actions leads to, if all of them are enabled. -/
def run (L : Lts σ α) : σ → List α → Option σ
  | s, [] => some s
  | s, a :: as => (L.step s a).bind fun t => L.run t as

theorem run_append (L : Lts σ α) (bs : List α) :
    ∀ (as : List α) (s : σ),
      L.run s (as ++ bs) = (L.run s as).bind fun t => L.run t bs
  | [], _ => rfl
  | a :: as, s => by
      rw [List.cons_append, run, run, Option.bind_assoc]
      exact congrArg _ (funext fun t => run_append L bs as t)

/-- As `run`, but also checking `ok` before every step. -/
def runUnder (L : Lts σ α) (ok : σ → α → Prop)
    [∀ s a, Decidable (ok s a)] : σ → List α → Option σ
  | s, [] => some s
  | s, a :: as =>
      if ok s a then (L.step s a).bind fun t => L.runUnder ok t as else none

/-- What every step keeps holds along a run. -/
theorem run_invariant {I : σ → Prop}
    (hstep : ∀ s a t, I s → L.step s a = some t → I t) {as : List α} :
    ∀ {s t : σ}, I s → L.run s as = some t → I t := by
  induction as with
  | nil =>
      intro s t hs h
      obtain rfl := Option.some.inj h
      exact hs
  | cons a as ih =>
      intro s t hs h
      obtain ⟨u, hu, hrun⟩ := Option.bind_eq_some_iff.mp h
      exact ih (hstep _ _ _ hs hu) hrun

/-- If a step spoils `P` exactly when it does not meet `ok`, a run keeps
`P` exactly when all its steps meet `ok`. -/
theorem run_iff_runUnder [∀ s a, Decidable (ok s a)] {I P : σ → Prop}
    (hI : ∀ s a t, I s → L.step s a = some t → I t)
    (hP : ∀ s a t, I s → L.step s a = some t → (P t ↔ P s ∧ ok s a))
    {as : List α} : ∀ {s t : σ}, I s → P s → L.run s as = some t →
      (P t ↔ L.runUnder ok s as = some t) := by
  induction as with
  | nil =>
      intro s t _ hs h
      obtain rfl := Option.some.inj h
      exact iff_of_true hs rfl
  | cons a as ih =>
      intro s t hI' hs h
      obtain ⟨u, hu, hrun⟩ := Option.bind_eq_some_iff.mp h
      have hspoil := hP s a u hI' hu
      rw [runUnder]
      by_cases hok : ok s a
      · rw [if_pos hok, hu, Option.bind_some]
        exact ih (hI _ _ _ hI' hu) (hspoil.mpr ⟨hs, hok⟩) hrun
      · rw [if_neg hok]
        refine iff_of_false (fun ht => ?_) (fun h => nomatch h)
        have hback : I u ∧ ¬ P u := ⟨hI _ _ _ hI' hu, fun hu => hok
          (hspoil.mp hu).2⟩
        have hkept := run_invariant (I := fun s => I s ∧ ¬ P s)
          (fun s a t hs hstep => ⟨hI _ _ _ hs.1 hstep,
            fun ht => hs.2 ((hP s a t hs.1 hstep).mp ht).1⟩) hback hrun
        exact hkept.2 ht

theorem run_of_runUnder [∀ s a, Decidable (ok s a)] {as : List α} :
    ∀ {s t : σ}, L.runUnder ok s as = some t → L.run s as = some t := by
  induction as with
  | nil => exact fun h => h
  | cons a as ih =>
      intro s t h
      rw [Lts.runUnder] at h
      split at h
      · obtain ⟨u, hu, hrun⟩ := Option.bind_eq_some_iff.mp h
        exact Option.bind_eq_some_iff.mpr ⟨u, hu, ih hrun⟩
      · cases h

theorem ReachableUnder.runUnder [∀ s a, Decidable (ok s a)] {as : List α} :
    ∀ {s t : σ}, L.ReachableUnder ok s → L.runUnder ok s as = some t →
      L.ReachableUnder ok t := by
  induction as with
  | nil =>
      intro s t hs h
      obtain rfl := Option.some.inj h
      exact hs
  | cons a as ih =>
      intro s t hs h
      rw [Lts.runUnder] at h
      split at h
      · rename_i hok
        obtain ⟨u, hu, hrun⟩ := Option.bind_eq_some_iff.mp h
        exact ih (hs.step hok hu) hrun
      · cases h

theorem Reachable.run {as : List α} :
    ∀ {s t : σ}, L.Reachable s → L.run s as = some t → L.Reachable t := by
  induction as with
  | nil =>
      intro s t hs h
      obtain rfl := Option.some.inj h
      exact hs
  | cons a as ih =>
      intro s t hs h
      obtain ⟨u, hu, hrun⟩ := Option.bind_eq_some_iff.mp h
      exact ih (ReachableUnder.step hs trivial hu) hrun

/-- A concrete guarded run that ends in a state with a decidable
property. -/
theorem exists_reachableUnder (L : Lts σ α) (ok : σ → α → Prop)
    [∀ s a, Decidable (ok s a)] {s : σ} (hs : L.init s) (as : List α)
    (p : σ → Bool)
    (h : (L.runUnder ok s as).any p = true) :
    ∃ t, L.ReachableUnder ok t ∧ p t = true := by
  cases hrun : L.runUnder ok s as with
  | none =>
      rw [hrun] at h
      cases h
  | some t =>
      rw [hrun] at h
      exact ⟨t, (ReachableUnder.init hs).runUnder hrun, h⟩

/-- Where a concrete run ends is decidable, and reachable. -/
theorem exists_run (L : Lts σ α) {s : σ} (hs : L.init s) (as : List α)
    (p : σ → Bool) (h : (L.run s as).any p = true) :
    ∃ t, L.run s as = some t ∧ L.Reachable t ∧ p t = true := by
  obtain ⟨t, hrun, hp⟩ := (Option.any_eq_true _ _).mp h
  exact ⟨t, hrun, Reachable.run (ReachableUnder.init hs) hrun, hp⟩

/-- A concrete run that ends in a state with a decidable property. -/
theorem exists_reachable (L : Lts σ α) {s : σ} (hs : L.init s)
    (as : List α) (p : σ → Bool) (h : (L.run s as).any p = true) :
    ∃ t, L.Reachable t ∧ p t = true := by
  obtain ⟨t, -, ht, hp⟩ := L.exists_run hs as p h
  exact ⟨t, ht, hp⟩

end Lts
