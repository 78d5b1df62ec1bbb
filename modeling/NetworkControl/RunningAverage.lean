import Mathlib.Algebra.Order.Field.Basic
import Mathlib.Tactic.Ring

/-!
# Averages kept as a count and a sum

A sum of samples and their number, with bounds that every sample lies in.
What a new sample does to it (`add`), and what it says of the average
(`le_average`, `average_le`).
-/

variable {K : Type} [Field K] [LinearOrder K]

/-- `total` is a sum of `count` samples between `low` and `high`. -/
structure RunningAverage (count : Nat) (total low high : K) : Prop where
  lower : count * low ≤ total
  upper : total ≤ count * high

namespace RunningAverage

variable {count : Nat} {total low high sample : K}

theorem empty (low high : K) : RunningAverage 0 0 low high where
  lower := by rw [Nat.cast_zero, zero_mul]
  upper := by rw [Nat.cast_zero, zero_mul]

/-- No samples, no sum. -/
theorem eq_zero (h : RunningAverage 0 total low high) : total = 0 := by
  have hlower : (0 : K) * low ≤ total := by simpa using h.lower
  have hupper : total ≤ (0 : K) * high := by simpa using h.upper
  rw [zero_mul] at hlower hupper
  exact le_antisymm hupper hlower

theorem single (sample : K) : RunningAverage 1 sample sample sample where
  lower := by rw [Nat.cast_one, one_mul]
  upper := by rw [Nat.cast_one, one_mul]

variable [IsStrictOrderedRing K]

theorem widen (h : RunningAverage count total low high) {low' high' : K}
    (hlow : low' ≤ low) (hhigh : high ≤ high') :
    RunningAverage count total low' high' where
  lower := (mul_le_mul_of_nonneg_left hlow (Nat.cast_nonneg _)).trans h.lower
  upper := h.upper.trans (mul_le_mul_of_nonneg_left hhigh (Nat.cast_nonneg _))

theorem add_mem (h : RunningAverage count total low high)
    (hlow : low ≤ sample) (hhigh : sample ≤ high) :
    RunningAverage (count + 1) (total + sample) low high where
  lower := by
    rw [Nat.cast_succ, add_mul, one_mul]
    exact add_le_add h.lower hlow
  upper := by
    rw [Nat.cast_succ, add_mul, one_mul]
    exact add_le_add h.upper hhigh

/-- The bounds move only as far as the new sample. -/
theorem add (h : RunningAverage count total low high) (sample : K) :
    RunningAverage (count + 1) (total + sample) (min low sample)
      (max high sample) :=
  (h.widen (min_le_left _ _) (le_max_left _ _)).add_mem (min_le_right _ _)
    (le_max_right _ _)

theorem le_average (h : RunningAverage count total low high)
    (hcount : count ≠ 0) : low ≤ total / count := by
  have hpos : (0 : K) < count := Nat.cast_pos.mpr (Nat.pos_of_ne_zero hcount)
  rw [le_div_iff₀ hpos, mul_comm]
  exact h.lower

theorem average_le (h : RunningAverage count total low high)
    (hcount : count ≠ 0) : total / count ≤ high := by
  have hpos : (0 : K) < count := Nat.cast_pos.mpr (Nat.pos_of_ne_zero hcount)
  rw [div_le_iff₀ hpos, mul_comm]
  exact h.upper

end RunningAverage
