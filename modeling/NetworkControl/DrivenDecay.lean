import Mathlib.Algebra.Order.Field.Basic
import Mathlib.Tactic.FieldSimp
import Mathlib.Tactic.Ring

/-!
# Driven decay

A number that is pushed by `a * u` and then shrinks by the factor `r`, step
after step: `x ↦ r * (x + a * u)`.

- While `u` stays within `[-1, 1]`, so does `x` within the fixed point of
  the full push, `r * a / (1 - r)`.
- Two numbers under the same pushes come together by `r` in every step.
-/

namespace DrivenDecay

variable {K : Type} [Field K]

def step (r a x u : K) : K := r * (x + a * u)

def run (r a x : K) (us : List K) : K := us.foldl (step r a) x

/-- Where the full push stands still. -/
def limit (r a : K) : K := r * a / (1 - r)

variable {r a x y u : K}

theorem step_limit (h : r ≠ 1) : step r a (limit r a) 1 = limit r a := by
  have hne : 1 - r ≠ 0 := sub_ne_zero.mpr h.symm
  unfold step limit
  field_simp
  ring

theorem step_sub : step r a x u - step r a y u = r * (x - y) := by
  unfold step
  ring

theorem run_sub (us : List K) : ∀ x y : K,
    run r a x us - run r a y us = r ^ us.length * (x - y) := by
  induction us with
  | nil =>
      intro x y
      rw [List.length_nil, pow_zero, one_mul]
      rfl
  | cons u us ih =>
      intro x y
      calc run r a (step r a x u) us - run r a (step r a y u) us
          = r ^ us.length * (step r a x u - step r a y u) := ih _ _
        _ = r ^ us.length * (r * (x - y)) := by rw [step_sub]
        _ = r ^ (u :: us).length * (x - y) := by
            rw [List.length_cons, pow_succ]
            ring

variable [LinearOrder K] [IsStrictOrderedRing K]

/-- No push moves further than the full one does from the limit. -/
theorem abs_step_le (hr : 0 ≤ r) (hr' : r < 1) (ha : 0 ≤ a)
    (hx : |x| ≤ limit r a) (hu : |u| ≤ 1) : |step r a x u| ≤ limit r a := by
  have hpush : |a * u| ≤ a * 1 := by
    rw [abs_mul, abs_of_nonneg ha]
    exact mul_le_mul_of_nonneg_left hu ha
  calc |step r a x u| = r * |x + a * u| := by
        rw [step, abs_mul, abs_of_nonneg hr]
    _ ≤ r * (|x| + |a * u|) :=
        mul_le_mul_of_nonneg_left (abs_add_le _ _) hr
    _ ≤ r * (limit r a + a * 1) :=
        mul_le_mul_of_nonneg_left (add_le_add hx hpush) hr
    _ = limit r a := step_limit hr'.ne

end DrivenDecay
