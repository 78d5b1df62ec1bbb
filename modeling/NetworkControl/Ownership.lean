import Mathlib.Data.Finset.Basic

/-!
# Resources and who owns them

Resources that are opened, used and closed, independent of any particular
program:

> A log is *proper* when every resource in it is opened while it is not in
> use, and used and closed only while it is. A resource that was closed may
> be opened again, as the numbers of handles are.

A program that keeps its resources in cells has a proper log as long as
its cells are *exclusive*: each cell holds a resource in use, each
resource in use is in one cell, and in no other.
-/

namespace Ownership

variable {κ : Type*} [DecidableEq κ]

/-! ## Logs -/

inductive Use (κ : Type*) where
  | opens (k : κ)
  | uses (k : κ)
  | closes (k : κ)
deriving DecidableEq

/-- The resources in use behind a log, whose newest entry comes first. -/
def inUse : List (Use κ) → Finset κ
  | [] => ∅
  | .opens k :: log => insert k (inUse log)
  | .uses _ :: log => inUse log
  | .closes k :: log => (inUse log).erase k

def Proper : List (Use κ) → Prop
  | [] => True
  | .opens k :: log => k ∉ inUse log ∧ Proper log
  | .uses k :: log => k ∈ inUse log ∧ Proper log
  | .closes k :: log => k ∈ inUse log ∧ Proper log

/-- What is in use was opened. -/
theorem opens_of_inUse {log : List (Use κ)} {k : κ} (h : k ∈ inUse log) :
    .opens k ∈ log := by
  induction log with
  | nil => exact absurd h (Finset.notMem_empty k)
  | cons use log ih =>
      cases use with
      | opens j =>
          rcases Finset.mem_insert.mp h with rfl | hold
          · exact List.mem_cons_self ..
          · exact List.mem_cons_of_mem _ (ih hold)
      | uses j => exact List.mem_cons_of_mem _ (ih h)
      | closes j => exact List.mem_cons_of_mem _ (ih (Finset.mem_of_mem_erase h))

/-- Each opening is closed once, but for the resources in use. -/
theorem Proper.count_opens {log : List (Use κ)} (h : Proper log) (k : κ) :
    log.count (.opens k)
      = log.count (.closes k) + if k ∈ inUse log then 1 else 0 := by
  induction log with
  | nil => simp [inUse]
  | cons use log ih =>
      cases use with
      | opens j =>
          obtain ⟨hfresh, hlog⟩ := h
          have hcount := ih hlog
          by_cases hjk : j = k
          · subst hjk
            rw [if_neg hfresh] at hcount
            simp [inUse, hcount]
          · simp [inUse, hcount, hjk, Ne.symm hjk]
      | uses j =>
          rw [List.count_cons_of_ne (by simp), List.count_cons_of_ne (by simp)]
          exact ih h.2
      | closes j =>
          obtain ⟨hlive, hlog⟩ := h
          have hcount := ih hlog
          by_cases hjk : j = k
          · subst hjk
            rw [if_pos hlive] at hcount
            simp [inUse, hcount]
          · simp [inUse, hcount, hjk, Ne.symm hjk]

theorem inUse_replicate_uses (n : Nat) (k : κ) (log : List (Use κ)) :
    inUse (List.replicate n (.uses k) ++ log) = inUse log := by
  induction n with
  | zero => rfl
  | succ n ih => exact ih

theorem Proper.replicate_uses {log : List (Use κ)} (h : Proper log) {k : κ}
    (hk : k ∈ inUse log) (n : Nat) :
    Proper (List.replicate n (.uses k) ++ log) := by
  induction n with
  | zero => exact h
  | succ n ih => exact ⟨inUse_replicate_uses n k log ▸ hk, ih⟩

/-! ## Exclusive cells -/

variable {ι : Type*} [DecidableEq ι]

structure Exclusive (cell : ι → Option κ) (live : Finset κ) : Prop where
  live_of_held : ∀ {i k}, cell i = some k → k ∈ live
  held_of_live : ∀ {k}, k ∈ live → ∃ i, cell i = some k
  once : ∀ {i j k}, cell i = some k → cell j = some k → i = j

namespace Exclusive

variable {cell : ι → Option κ} {live : Finset κ} {i j : ι} {k : κ}

omit [DecidableEq κ] [DecidableEq ι] in
theorem empty : Exclusive (fun _ : ι => none) (∅ : Finset κ) where
  live_of_held h := nomatch h
  held_of_live h := absurd h (Finset.notMem_empty _)
  once h := nomatch h

omit [DecidableEq κ] [DecidableEq ι] in
/-- Nothing held, nothing in use. -/
theorem eq_empty (h : Exclusive cell live) (hcell : ∀ i, cell i = none) :
    live = ∅ := by
  refine Finset.eq_empty_of_forall_notMem fun k hk => ?_
  obtain ⟨i, hi⟩ := h.held_of_live hk
  rw [hcell i] at hi
  cases hi

/-- An empty cell takes a resource that was not in use. -/
theorem gain (h : Exclusive cell live) (hempty : cell i = none)
    (hfresh : k ∉ live) :
    Exclusive (Function.update cell i (some k)) (insert k live) where
  live_of_held {j m} hj := by
    by_cases hji : j = i
    · subst hji
      rw [Function.update_self] at hj
      rw [Option.some.inj hj]
      exact Finset.mem_insert_self _ _
    · rw [Function.update_of_ne hji] at hj
      exact Finset.mem_insert_of_mem (h.live_of_held hj)
  held_of_live {m} hm := by
    rcases Finset.mem_insert.mp hm with rfl | hm
    · exact ⟨i, Function.update_self ..⟩
    · obtain ⟨j, hj⟩ := h.held_of_live hm
      have hji : j ≠ i := by
        rintro rfl
        rw [hempty] at hj
        cases hj
      exact ⟨j, by rw [Function.update_of_ne hji]; exact hj⟩
  once {a b m} ha hb := by
    have hold : ∀ c, c ≠ i → Function.update cell i (some k) c = some m →
        m ≠ k := by
      intro c hc hcell hmk
      rw [Function.update_of_ne hc] at hcell
      exact hfresh (hmk ▸ h.live_of_held hcell)
    have hnew : Function.update cell i (some k) i = some m → m = k := by
      intro hcell
      rw [Function.update_self] at hcell
      exact (Option.some.inj hcell).symm
    by_cases hai : a = i
    · subst hai
      by_cases hba : b = a
      · exact hba.symm
      · exact absurd (hnew ha) (hold b hba hb)
    · by_cases hbi : b = i
      · subst hbi
        exact absurd (hnew hb) (hold a hai ha)
      · rw [Function.update_of_ne hai] at ha
        rw [Function.update_of_ne hbi] at hb
        exact h.once ha hb

/-- A cell gives its resource up. -/
theorem lose (h : Exclusive cell live) (hcell : cell i = some k) :
    Exclusive (Function.update cell i none) (live.erase k) where
  live_of_held {j m} hj := by
    have hji : j ≠ i := by
      rintro rfl
      rw [Function.update_self] at hj
      cases hj
    rw [Function.update_of_ne hji] at hj
    refine Finset.mem_erase.mpr ⟨?_, h.live_of_held hj⟩
    rintro rfl
    exact hji (h.once hj hcell)
  held_of_live {m} hm := by
    obtain ⟨hmk, hm⟩ := Finset.mem_erase.mp hm
    obtain ⟨j, hj⟩ := h.held_of_live hm
    have hji : j ≠ i := by
      rintro rfl
      rw [hcell] at hj
      exact hmk (Option.some.inj hj).symm
    exact ⟨j, by rw [Function.update_of_ne hji]; exact hj⟩
  once {a b m} ha hb := by
    have hold : ∀ c, Function.update cell i none c = some m →
        cell c = some m := by
      intro c hc
      by_cases hci : c = i
      · subst hci
        rw [Function.update_self] at hc
        cases hc
      · rw [Function.update_of_ne hci] at hc
        exact hc
    exact h.once (hold a ha) (hold b hb)

/-- An empty cell takes over what another one holds. -/
theorem move (h : Exclusive cell live) (hempty : cell j = none) :
    Exclusive (Function.update (Function.update cell j (cell i)) i none)
      live := by
  -- a move is a loss and a gain, unless there was nothing to move
  cases hcell : cell i with
  | none =>
      have hsame : Function.update (Function.update cell j none) i none
          = cell := by
        rw [← hempty, Function.update_eq_self, hempty, ← hcell,
          Function.update_eq_self]
      rw [hsame]
      exact h
  | some k =>
      have hij : j ≠ i := by
        rintro rfl
        rw [hcell] at hempty
        cases hempty
      rw [Function.update_comm hij]
      have hgain := (h.lose hcell).gain (i := j) (k := k)
        (by rw [Function.update_of_ne hij]; exact hempty)
        (Finset.notMem_erase k live)
      rwa [Finset.insert_erase (h.live_of_held hcell)] at hgain

end Exclusive

end Ownership
