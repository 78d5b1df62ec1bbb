import Mathlib.Order.MinMax

/-!
# The latest write wins

A register that is written to over a network that delays, reorders and
repeats, independent of any particular program:

> Every write carries a stamp. The register keeps the greatest stamp it
> took, its mark, and drops a write at or below it. `clear` puts the
> default value back and leaves the mark, so that nothing older comes back
> through it.

What it holds in the end depends on which writes came since the last
clear and not on their order (`run_congr`): it is the value of the
greatest stamp, or still the default if that stamp was known before
(`run_of_latest`, `run_of_known`).
-/

namespace LatestWins

@[ext] structure Register (ι α : Type*) where
  mark : ι
  value : α

inductive Write (ι α : Type*) where
  | put (stamp : ι) (value : α)
  | clear

/-- `i` is the stamp of one of the writes. -/
def Stamped {ι α : Type*} (ws : List (Write ι α)) (i : ι) : Prop :=
  ∃ v, Write.put i v ∈ ws

/-- Two writes of one stamp are the same. -/
def Functional {ι α : Type*} (ws : List (Write ι α)) : Prop :=
  ∀ i v v', Write.put i v ∈ ws → Write.put i v' ∈ ws → v = v'

namespace Register

variable {ι α : Type*} [LinearOrder ι] {default : α}

def apply (default : α) (r : Register ι α) : Write ι α → Register ι α
  | .put stamp value => if stamp ≤ r.mark then r else ⟨stamp, value⟩
  | .clear => { r with value := default }

def run (default : α) (r : Register ι α) (ws : List (Write ι α)) :
    Register ι α :=
  ws.foldl (apply default) r

@[simp] theorem run_cons (r : Register ι α) (w : Write ι α)
    (ws : List (Write ι α)) :
    run default r (w :: ws) = run default (apply default r w) ws := rfl

theorem run_append (r : Register ι α) (ws ws' : List (Write ι α)) :
    run default r (ws ++ ws') = run default (run default r ws) ws' :=
  List.foldl_append

theorem apply_put_of_le {r : Register ι α} {stamp : ι} (h : stamp ≤ r.mark)
    (value : α) : apply default r (.put stamp value) = r :=
  if_pos h

theorem apply_put_of_lt {r : Register ι α} {stamp : ι} (h : r.mark < stamp)
    (value : α) : apply default r (.put stamp value) = ⟨stamp, value⟩ :=
  if_neg (not_le.mpr h)

theorem apply_put_mark (r : Register ι α) (stamp : ι) (value : α) :
    (apply default r (.put stamp value)).mark = max r.mark stamp := by
  rw [apply]
  split
  · rename_i h
    exact (max_eq_left h).symm
  · rename_i h
    exact (max_eq_right (not_le.mp h).le).symm

/-- A write changes the value only if it is news. -/
theorem apply_put_value_iff (r : Register ι α) (stamp : ι) (value : α) :
    (apply default r (.put stamp value)).value = r.value
      ↔ stamp ≤ r.mark ∨ value = r.value := by
  rw [apply]
  split
  · rename_i h
    exact iff_of_true rfl (Or.inl h)
  · rename_i h
    exact ⟨Or.inr, fun hor => hor.resolve_left h⟩

/-! ## The mark -/

theorem mark_le_apply (r : Register ι α) (w : Write ι α) :
    r.mark ≤ (apply default r w).mark := by
  cases w with
  | put stamp value =>
      rw [apply_put_mark]
      exact le_max_left _ _
  | clear => exact le_refl _

theorem mark_le_run (ws : List (Write ι α)) :
    ∀ r : Register ι α, r.mark ≤ (run default r ws).mark := by
  induction ws with
  | nil => exact fun r => le_refl _
  | cons w ws ih => exact fun r => (mark_le_apply r w).trans (ih _)

/-- The mark is at least every stamp that came. -/
theorem stamp_le_run {ws : List (Write ι α)} {i : ι} :
    ∀ r : Register ι α, Stamped ws i → i ≤ (run default r ws).mark := by
  induction ws with
  | nil => exact fun _ ⟨_, h⟩ => nomatch h
  | cons w ws ih =>
      rintro r ⟨v, h⟩
      rcases List.mem_cons.mp h with rfl | h
      · refine le_trans ?_ (mark_le_run ws _)
        rw [apply_put_mark]
        exact le_max_right _ _
      · exact ih _ ⟨v, h⟩

/-- And it is one of them, unless none was news. -/
theorem run_mark (default : α) (ws : List (Write ι α)) :
    ∀ r : Register ι α, (run default r ws).mark = r.mark
      ∨ Stamped ws (run default r ws).mark := by
  induction ws with
  | nil => exact fun r => Or.inl rfl
  | cons w ws ih =>
      intro r
      rcases ih (apply default r w) with hsame | ⟨v, h⟩
      · cases w with
        | clear => exact Or.inl hsame
        | put stamp value =>
            rw [run_cons, hsame, apply_put_mark]
            rcases max_choice r.mark stamp with hmax | hmax
            · exact Or.inl hmax
            · rw [hmax]
              exact Or.inr ⟨value, List.mem_cons_self⟩
      · exact Or.inr ⟨v, List.mem_cons_of_mem _ h⟩

theorem run_mark_le {ws ws' : List (Write ι α)}
    (h : ∀ i, Stamped ws i → Stamped ws' i) {r r' : Register ι α}
    (hmark : r.mark ≤ r'.mark) :
    (run default r ws).mark ≤ (run default r' ws').mark := by
  rcases run_mark default ws r with hsame | hstamped
  · rw [hsame]
    exact hmark.trans (mark_le_run _ _)
  · exact stamp_le_run r' (h _ hstamped)

/-! ## The value -/

/-- Between clears, the value is that of the mark. -/
theorem run_eq_or_mem (default : α) {ws : List (Write ι α)} :
    ∀ r : Register ι α, Write.clear ∉ ws → run default r ws = r
      ∨ r.mark < (run default r ws).mark
        ∧ Write.put (run default r ws).mark (run default r ws).value ∈ ws := by
  induction ws with
  | nil => exact fun r _ => Or.inl rfl
  | cons w ws ih =>
      intro r hclear
      obtain ⟨hw, hws⟩ := List.ne_and_not_mem_of_not_mem_cons hclear
      cases w with
      | clear => exact absurd rfl hw
      | put stamp value =>
          rw [run_cons]
          rcases le_or_gt stamp r.mark with hle | hlt
          · rw [apply_put_of_le hle]
            rcases ih r hws with hsame | ⟨hnews, hmem⟩
            · exact Or.inl hsame
            · exact Or.inr ⟨hnews, List.mem_cons_of_mem _ hmem⟩
          · rw [apply_put_of_lt hlt]
            rcases ih ⟨stamp, value⟩ hws with hsame | ⟨hnews, hmem⟩
            · rw [hsame]
              exact Or.inr ⟨hlt, List.mem_cons_self⟩
            · exact Or.inr ⟨hlt.trans hnews, List.mem_cons_of_mem _ hmem⟩

/-- Only known stamps came: nothing happened. -/
theorem run_of_known (default : α) {ws : List (Write ι α)}
    (hclear : Write.clear ∉ ws) {r : Register ι α}
    (hknown : ∀ i, Stamped ws i → i ≤ r.mark) :
    run default r ws = r := by
  rcases run_eq_or_mem default r hclear with hsame | ⟨hnews, hmem⟩
  · exact hsame
  · exact absurd (hknown _ ⟨_, hmem⟩) (not_le.mpr hnews)

/-- The greatest stamp that came is new: its value is there. -/
theorem run_of_latest (default : α) {ws : List (Write ι α)}
    (hclear : Write.clear ∉ ws) (hfun : Functional ws)
    {r : Register ι α} {i : ι} {v : α}
    (hmem : Write.put i v ∈ ws) (hmax : ∀ j, Stamped ws j → j ≤ i)
    (hnews : r.mark < i) : run default r ws = ⟨i, v⟩ := by
  have hle : i ≤ (run default r ws).mark := stamp_le_run r ⟨v, hmem⟩
  rcases run_eq_or_mem default r hclear with hsame | ⟨-, hlast⟩
  · rw [hsame] at hle
    exact absurd hle (not_le.mpr hnews)
  · have hmark : (run default r ws).mark = i :=
      le_antisymm (hmax _ ⟨_, hlast⟩) hle
    rw [hmark] at hlast
    have hvalue := hfun _ _ _ hlast hmem
    exact Register.ext hmark hvalue

/-- The order and the number of the copies are nothing to the result. -/
theorem run_congr {ws ws' : List (Write ι α)} (hclear : Write.clear ∉ ws)
    (hclear' : Write.clear ∉ ws') (hfun : Functional ws)
    (hsame : ∀ w, w ∈ ws ↔ w ∈ ws') (r : Register ι α) :
    run default r ws = run default r ws' := by
  have hmark : (run default r ws).mark = (run default r ws').mark :=
    le_antisymm
      (run_mark_le (fun i ⟨v, h⟩ => ⟨v, (hsame _).mp h⟩) (le_refl _))
      (run_mark_le (fun i ⟨v, h⟩ => ⟨v, (hsame _).mpr h⟩) (le_refl _))
  rcases run_eq_or_mem default r hclear with h | ⟨hlt, hmem⟩
  · rcases run_eq_or_mem default r hclear' with h' | ⟨hlt', -⟩
    · rw [h, h']
    · rw [h] at hmark
      exact absurd hlt' (not_lt.mpr hmark.ge)
  · rcases run_eq_or_mem default r hclear' with h' | ⟨-, hmem'⟩
    · rw [h'] at hmark
      exact absurd hlt (not_lt.mpr hmark.le)
    · rw [← hmark] at hmem'
      have hvalue := hfun _ _ _ hmem ((hsame _).mpr hmem')
      exact Register.ext hmark hvalue

end Register

end LatestWins
