import Mathlib.Algebra.Order.Field.Rat
import Mathlib.Data.UInt

/-!
# Floats without rounding

What an IEEE 754 number stands for when rounding is left out: a rational, an
infinity or NaN. Arithmetic is exact on the rationals, as IEEE 754 has it
on the rest, and NaN goes through it; every ordered comparison with NaN is
false.
-/

inductive ExtendedRat where
  | nan
  | infinity (negative : Bool)
  | finite (q : ℚ)
deriving DecidableEq

namespace ExtendedRat

/-! ## Arithmetic -/

def neg : ExtendedRat → ExtendedRat
  | nan => nan
  | infinity negative => infinity !negative
  | finite q => finite (-q)

/-- Infinities of different signs have no sum. -/
def add : ExtendedRat → ExtendedRat → ExtendedRat
  | finite p, finite q => finite (p + q)
  | infinity s, infinity t => if s = t then infinity s else nan
  | infinity s, finite _ => infinity s
  | finite _, infinity t => infinity t
  | nan, _ => nan
  | _, nan => nan

def sub (x y : ExtendedRat) : ExtendedRat := add x y.neg

/-- `infinity s` times `q`; there is no product with 0. -/
def scaleInfinity (s : Bool) (q : ℚ) : ExtendedRat :=
  if q = 0 then nan else infinity (s != decide (q < 0))

def mul : ExtendedRat → ExtendedRat → ExtendedRat
  | finite p, finite q => finite (p * q)
  | infinity s, infinity t => infinity (s != t)
  | infinity s, finite q => scaleInfinity s q
  | finite p, infinity t => scaleInfinity t p
  | nan, _ => nan
  | _, nan => nan

def lt : ExtendedRat → ExtendedRat → Bool
  | finite p, finite q => decide (p < q)
  | infinity s, infinity t => s && !t
  | infinity s, finite _ => s
  | finite _, infinity t => !t
  | nan, _ => false
  | _, nan => false

@[simp] theorem add_finite (p q : ℚ) :
    add (finite p) (finite q) = finite (p + q) := rfl

@[simp] theorem sub_finite (p q : ℚ) :
    sub (finite p) (finite q) = finite (p - q) := by
  rw [sub_eq_add_neg]
  rfl

@[simp] theorem mul_finite (p q : ℚ) :
    mul (finite p) (finite q) = finite (p * q) := rfl

@[simp] theorem neg_finite (q : ℚ) : neg (finite q) = finite (-q) := rfl

@[simp] theorem lt_finite (p q : ℚ) :
    lt (finite p) (finite q) = decide (p < q) := rfl

@[simp] theorem nan_add (x : ExtendedRat) : add nan x = nan := by
  cases x <;> rfl

@[simp] theorem add_nan (x : ExtendedRat) : add x nan = nan := by
  cases x <;> rfl

@[simp] theorem nan_mul (x : ExtendedRat) : mul nan x = nan := by
  cases x <;> rfl

@[simp] theorem mul_nan (x : ExtendedRat) : mul x nan = nan := by
  cases x <;> rfl

@[simp] theorem nan_lt (x : ExtendedRat) : lt nan x = false := by
  cases x <;> rfl

@[simp] theorem lt_nan (x : ExtendedRat) : lt x nan = false := by
  cases x <;> rfl

/-! ## Ordinary numbers in an interval -/

/-- A rational between `low` and `high`. -/
def Within (low high : ℚ) (x : ExtendedRat) : Prop :=
  ∃ q, x = finite q ∧ low ≤ q ∧ q ≤ high

theorem within_finite {low high q : ℚ} (hlow : low ≤ q) (hhigh : q ≤ high) :
    Within low high (finite q) :=
  ⟨q, rfl, hlow, hhigh⟩

theorem not_within_nan (low high : ℚ) : ¬ Within low high nan :=
  fun ⟨_, h, _⟩ => nomatch h

/-! ## The 32-bit format -/

def mantissa (bits : UInt32) : Nat := bits.toNat % 2 ^ 23

def exponent (bits : UInt32) : Nat := bits.toNat / 2 ^ 23 % 2 ^ 8

def isNegative (bits : UInt32) : Bool := bits.toNat / 2 ^ 31 == 1

/-- The bit patterns that are not a number. -/
def IsNan (bits : UInt32) : Prop := exponent bits = 255 ∧ mantissa bits ≠ 0

instance (bits : UInt32) : Decidable (IsNan bits) :=
  inferInstanceAs (Decidable (_ ∧ _))

/-- The magnitude of a pattern whose exponent is not the highest. -/
def magnitude (bits : UInt32) : ℚ :=
  if exponent bits = 0 then mantissa bits / 2 ^ 149
  else (2 ^ 23 + mantissa bits) * 2 ^ exponent bits / 2 ^ 150

def ofBits (bits : UInt32) : ExtendedRat :=
  if exponent bits = 255 then
    if mantissa bits = 0 then infinity (isNegative bits) else nan
  else
    finite (if isNegative bits then -magnitude bits else magnitude bits)

theorem ofBits_eq_nan_iff (bits : UInt32) : ofBits bits = nan ↔ IsNan bits := by
  unfold ofBits IsNan
  split
  · rename_i hexponent
    split
    · rename_i hmantissa
      exact iff_of_false (fun h => nomatch h) fun h => h.2 hmantissa
    · rename_i hmantissa
      exact iff_of_true rfl ⟨hexponent, hmantissa⟩
  · rename_i hexponent
    exact iff_of_false (fun h => nomatch h) fun h => hexponent h.1

end ExtendedRat
