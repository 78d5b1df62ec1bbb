import Mathlib.Data.UInt
import Mathlib.Tactic.Ring
import Mathlib.Tactic.NormNum

/-!
# Words in memory

The bytes of a fixed-width word, independent of any particular program:
`littleBytes w n` are the `w` low bytes of `n`, least significant first,
and `ofLittleBytes` is their value. `store`/`load` are what a host of a
given byte order sees when it reads a word's memory byte by byte, or
fills it byte by byte; `swapBytes` is the byte reversal that turns one
order's picture into the other's (`store_swapBytes`, `swapBytes_load`).
-/

namespace Endian

/-! ## Little-endian digits -/

def littleBytes : Nat → Nat → List UInt8
  | 0, _ => []
  | w + 1, n => UInt8.ofNat n :: littleBytes w (n / 256)

def ofLittleBytes : List UInt8 → Nat
  | [] => 0
  | b :: bs => b.toNat + 256 * ofLittleBytes bs

@[simp] theorem littleBytes_length :
    ∀ (w n : Nat), (littleBytes w n).length = w
  | 0, _ => rfl
  | w + 1, n => by rw [littleBytes, List.length_cons, littleBytes_length w]

theorem ofLittleBytes_littleBytes :
    ∀ (w n : Nat), ofLittleBytes (littleBytes w n) = n % 256 ^ w
  | 0, n => by rw [littleBytes, ofLittleBytes, pow_zero, Nat.mod_one]
  | w + 1, n => by
      have hb : (UInt8.ofNat n).toNat = n % 256 := UInt8.toNat_ofNat'
      rw [littleBytes, ofLittleBytes, hb, ofLittleBytes_littleBytes w,
        pow_succ', Nat.mod_mul]

theorem littleBytes_ofLittleBytes :
    ∀ bs : List UInt8, littleBytes bs.length (ofLittleBytes bs) = bs
  | [] => rfl
  | b :: bs => by
      have hb : b.toNat < 256 := b.toNat_lt
      have hhead : UInt8.ofNat (b.toNat + 256 * ofLittleBytes bs) = b := by
        apply UInt8.toNat_inj.mp
        rw [UInt8.toNat_ofNat']
        omega
      have htail : (b.toNat + 256 * ofLittleBytes bs) / 256
          = ofLittleBytes bs := by omega
      rw [List.length_cons, ofLittleBytes, littleBytes, hhead, htail,
        littleBytes_ofLittleBytes bs]

theorem ofLittleBytes_lt :
    ∀ bs : List UInt8, ofLittleBytes bs < 256 ^ bs.length
  | [] => by simp [ofLittleBytes]
  | b :: bs => by
      have hb : b.toNat < 256 := b.toNat_lt
      have ih := ofLittleBytes_lt bs
      rw [ofLittleBytes, List.length_cons, pow_succ]
      omega

/-! ## Host memory -/

/-- The two byte orders a host can have. -/
inductive ByteOrder where
  | little
  | big
deriving DecidableEq, Repr

/-- The `w` bytes at the address of a word of value `n`. -/
def store : ByteOrder → Nat → Nat → List UInt8
  | .little, w, n => littleBytes w n
  | .big, w, n => (littleBytes w n).reverse

/-- The value of a word whose memory was filled with `bs`. -/
def load : ByteOrder → List UInt8 → Nat
  | .little, bs => ofLittleBytes bs
  | .big, bs => ofLittleBytes bs.reverse

@[simp] theorem store_length (o : ByteOrder) (w n : Nat) :
    (store o w n).length = w := by
  cases o <;> simp [store]

theorem load_store (o : ByteOrder) (w n : Nat) :
    load o (store o w n) = n % 256 ^ w := by
  cases o <;> simp [store, load, ofLittleBytes_littleBytes]

theorem store_load (o : ByteOrder) (bs : List UInt8) :
    store o bs.length (load o bs) = bs := by
  cases o with
  | little => exact littleBytes_ofLittleBytes bs
  | big =>
      have h := littleBytes_ofLittleBytes bs.reverse
      rw [List.length_reverse] at h
      rw [store, load, h, List.reverse_reverse]

/-! ## Byte reversal -/

/-- The `w`-byte word `n` with its bytes in the opposite order. -/
def swapBytes (w n : Nat) : Nat :=
  ofLittleBytes (littleBytes w n).reverse

/-- A little-endian host that swaps before storing leaves the bytes a
big-endian host stores. -/
theorem store_swapBytes (w n : Nat) :
    store .little w (swapBytes w n) = store .big w n := by
  have h := littleBytes_ofLittleBytes (littleBytes w n).reverse
  rw [List.length_reverse, littleBytes_length] at h
  exact h

theorem swapBytes_load (bs : List UInt8) :
    swapBytes bs.length (load .little bs) = load .big bs := by
  rw [swapBytes, load, load, littleBytes_ofLittleBytes]

theorem swapBytes_lt (w n : Nat) : swapBytes w n < 256 ^ w := by
  have h := ofLittleBytes_lt (littleBytes w n).reverse
  rwa [List.length_reverse, littleBytes_length] at h

/-! ## Bit by bit

What connects `swapBytes` to a reversal written with masks and shifts. -/

theorem littleBytes_getElem? : ∀ (w n k : Nat),
    (littleBytes w n)[k]?
      = if k < w then some (UInt8.ofNat (n / 256 ^ k)) else none
  | 0, n, k => by simp [littleBytes]
  | w + 1, n, 0 => by simp [littleBytes]
  | w + 1, n, k + 1 => by
      rw [littleBytes, List.getElem?_cons_succ, littleBytes_getElem? w,
        Nat.div_div_eq_div_mul, pow_succ']
      simp

theorem testBit_ofLittleBytes : ∀ (bs : List UInt8) (i : Nat),
    (ofLittleBytes bs).testBit i
      = ((bs[i / 8]?).getD 0).toNat.testBit (i % 8)
  | [], i => by simp [ofLittleBytes]
  | b :: bs, i => by
      have hb : b.toNat < 2 ^ 8 := b.toNat_lt
      have hsum : ofLittleBytes (b :: bs)
          = 2 ^ 8 * ofLittleBytes bs + b.toNat := by
        rw [ofLittleBytes]; omega
      rw [hsum, Nat.testBit_two_pow_mul_add _ hb]
      by_cases hi : i < 8
      · simp [hi, Nat.div_eq_of_lt hi, Nat.mod_eq_of_lt hi]
      · have hdiv : i / 8 = (i - 8) / 8 + 1 := by omega
        have hmod : i % 8 = (i - 8) % 8 := by omega
        rw [if_neg hi, testBit_ofLittleBytes bs, hdiv, hmod,
          List.getElem?_cons_succ]

theorem testBit_swapBytes {w i : Nat} (n : Nat) (hi : i < 8 * w) :
    (swapBytes w n).testBit i
      = n.testBit (8 * (w - 1 - i / 8) + i % 8) := by
  have hk : i / 8 < w := by omega
  have hj : w - 1 - i / 8 < w := by omega
  have hpow : (256 : Nat) ^ (w - 1 - i / 8) = 2 ^ (8 * (w - 1 - i / 8)) := by
    rw [pow_mul]; norm_num
  rw [swapBytes, testBit_ofLittleBytes,
    List.getElem?_reverse (by simpa using hk), littleBytes_length,
    littleBytes_getElem?, if_pos hj, Option.getD_some, UInt8.toNat_ofNat',
    hpow, Nat.testBit_mod_two_pow, Nat.testBit_div_two_pow]
  simp [Nat.mod_lt, Nat.add_comm]

end Endian
