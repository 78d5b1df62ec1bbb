import Mathlib.Algebra.Group.Nat.Defs
import Mathlib.Data.Int.Order.Basic
import Mathlib.Data.List.TakeWhile

/-!
# Numerals

A decimal integer at the head of a text, as C and .NET read one: blanks,
at most one sign, digits. A `Numeral` is one as it is written; `scan`
finds the longest one a text begins with, and `denotesBefore_iff` says the
two agree. On it stand the three readers, which differ in what they make
of the rest of the text and of a number that is too large.
-/

namespace Numerals

/-! ## What is written -/

/-- `isspace` in the C locale; .NET skips the same characters. -/
def isSpace (c : Char) : Bool := c = ' ' || ('\t' ≤ c && c ≤ '\r')

inductive Sign where
  | none
  | plus
  | minus
deriving DecidableEq, Repr

def Sign.text : Sign → List Char
  | .none => []
  | .plus => ['+']
  | .minus => ['-']

structure Numeral where
  blanks : List Char
  sign : Sign
  digits : List Char
  blanks_isSpace : ∀ c ∈ blanks, isSpace c = true
  digits_ne_nil : digits ≠ []
  digits_isDigit : ∀ c ∈ digits, c.isDigit = true

def signed (isNegative : Bool) (digits : List Char) : ℤ :=
  if isNegative then -(Nat.ofDigitChars 10 digits 0 : ℤ)
  else Nat.ofDigitChars 10 digits 0

namespace Numeral

def text (n : Numeral) : List Char := n.blanks ++ (n.sign.text ++ n.digits)

def value (n : Numeral) : ℤ := signed (n.sign = .minus) n.digits

end Numeral

/-- `text` is a numeral for `value`, and what follows it is an `After`. -/
def DenotesBefore (After : List Char → Prop) (text : List Char) (value : ℤ) :
    Prop :=
  ∃ (n : Numeral) (rest : List Char),
    text = n.text ++ rest ∧ After rest ∧ n.value = value

/-- Blanks, and the NULs that end a C string. -/
def IsPadding (rest : List Char) : Prop :=
  ∀ c ∈ rest.dropWhile isSpace, c = '\x00'

instance (rest : List Char) : Decidable (IsPadding rest) :=
  List.decidableBAll (· = '\x00') (rest.dropWhile isSpace)

/-- The text is a numeral and nothing else. -/
def Denotes : List Char → ℤ → Prop := DenotesBefore IsPadding

/-! ## Scanning -/

structure Scan where
  isNegative : Bool
  digits : List Char
  rest : List Char
deriving DecidableEq, Repr

namespace Scan

def magnitude (s : Scan) : ℕ := Nat.ofDigitChars 10 s.digits 0

def value (s : Scan) : ℤ := signed s.isNegative s.digits

end Scan

def takeSign : List Char → Bool × List Char
  | '-' :: text => (true, text)
  | '+' :: text => (false, text)
  | text => (false, text)

/-- The longest numeral at the head of `text`; `digits` is empty where
there is none. -/
def scan (text : List Char) : Scan :=
  let (isNegative, text) := takeSign (text.dropWhile isSpace)
  { isNegative
    digits := text.takeWhile Char.isDigit
    rest := text.dropWhile Char.isDigit }

theorem not_isSpace_of_isDigit {c : Char} (h : c.isDigit = true) :
    isSpace c = false := by
  rw [Char.isDigit_iff_toNat] at h
  unfold isSpace
  rw [Bool.or_eq_false_iff, Bool.and_eq_false_iff]
  refine ⟨?_, Or.inr ?_⟩
  · rw [decide_eq_false_iff_not]
    rintro rfl
    exact absurd h.1 (by decide)
  · rw [decide_eq_false_iff_not, Char.le_def, UInt32.le_iff_toNat_le]
    intro hle
    exact absurd (le_trans h.1 hle) (by decide)

/-- Where the first character stops a scan, nothing is taken. -/
theorem takeWhile_of_head {p : Char → Bool} {text : List Char}
    (h : ∀ c ∈ text.head?, p c = false) :
    text.takeWhile p = [] ∧ text.dropWhile p = text := by
  cases text with
  | nil => exact ⟨rfl, rfl⟩
  | cons c text =>
      have hc : p c = false := h c rfl
      rw [List.takeWhile_cons, List.dropWhile_cons, hc]
      exact ⟨rfl, rfl⟩

/-- A sign is taken off, and a text that begins with none is left alone. -/
theorem takeSign_append (sign : Sign) {text : List Char}
    (h : ∀ c ∈ text.head?, c ≠ '-' ∧ c ≠ '+') :
    takeSign (sign.text ++ text) = (decide (sign = .minus), text) := by
  cases sign with
  | minus => rfl
  | plus => rfl
  | none =>
      cases text with
      | nil => rfl
      | cons c text =>
          have hc := h c rfl
          unfold takeSign
          split
          · rename_i heq
            exact absurd (List.cons.inj heq).1 hc.1
          · rename_i heq
            exact absurd (List.cons.inj heq).1 hc.2
          · rfl

theorem exists_sign (text : List Char) :
    ∃ sign : Sign, text = sign.text ++ (takeSign text).2 ∧
      (takeSign text).1 = decide (sign = .minus) := by
  unfold takeSign
  split
  · exact ⟨.minus, rfl, rfl⟩
  · exact ⟨.plus, rfl, rfl⟩
  · exact ⟨.none, rfl, rfl⟩

theorem scan_text (n : Numeral) {rest : List Char}
    (h : ∀ c ∈ rest.head?, c.isDigit = false) :
    scan (n.text ++ rest)
      = { isNegative := n.sign = .minus, digits := n.digits, rest } := by
  obtain ⟨d, ds, hdigits⟩ := List.exists_cons_of_ne_nil n.digits_ne_nil
  have hd : d.isDigit = true :=
    n.digits_isDigit d (hdigits ▸ List.mem_cons_self)
  have hne : ∀ c ∈ (n.digits ++ rest).head?, c ≠ '-' ∧ c ≠ '+' := by
    intro c hc
    rw [hdigits] at hc
    obtain rfl : d = c := by simpa using hc
    constructor <;> rintro rfl <;> exact absurd hd (by decide)
  have hblank : ∀ c ∈ (n.sign.text ++ (n.digits ++ rest)).head?,
      isSpace c = false := by
    intro c hc
    cases hs : n.sign with
    | none =>
        rw [hs, hdigits] at hc
        obtain rfl : d = c := by simpa [Sign.text] using hc
        exact not_isSpace_of_isDigit hd
    | plus =>
        rw [hs] at hc
        obtain rfl : '+' = c := by simpa [Sign.text] using hc
        rfl
    | minus =>
        rw [hs] at hc
        obtain rfl : '-' = c := by simpa [Sign.text] using hc
        rfl
  have hdrop : (n.text ++ rest).dropWhile isSpace
      = n.sign.text ++ (n.digits ++ rest) := by
    unfold Numeral.text
    rw [List.append_assoc, List.append_assoc,
      List.dropWhile_append_of_pos n.blanks_isSpace,
      (takeWhile_of_head hblank).2]
  unfold scan
  rw [hdrop, takeSign_append n.sign hne]
  dsimp only
  rw [List.takeWhile_append_of_pos n.digits_isDigit,
    List.dropWhile_append_of_pos n.digits_isDigit, (takeWhile_of_head h).1,
    (takeWhile_of_head h).2, List.append_nil]

/-- The digits a scan finds belong to a numeral the text begins with. -/
theorem exists_numeral {text : List Char} (h : (scan text).digits ≠ []) :
    ∃ n : Numeral, text = n.text ++ (scan text).rest ∧
      n.value = (scan text).value := by
  obtain ⟨sign, hsign, hneg⟩ := exists_sign (text.dropWhile isSpace)
  refine ⟨{ blanks := text.takeWhile isSpace
            sign
            digits := (scan text).digits
            blanks_isSpace := fun c hc => List.mem_takeWhile_imp hc
            digits_ne_nil := h
            digits_isDigit := fun c hc => List.mem_takeWhile_imp hc }, ?_, ?_⟩
  · calc text
        = text.takeWhile isSpace ++ text.dropWhile isSpace :=
          List.takeWhile_append_dropWhile.symm
      _ = text.takeWhile isSpace
            ++ (sign.text ++ ((scan text).digits ++ (scan text).rest)) := by
          conv_lhs => rw [hsign]
          unfold scan
          dsimp only
          rw [List.takeWhile_append_dropWhile]
      _ = _ := by
          unfold Numeral.text
          rw [List.append_assoc, List.append_assoc]
  · unfold Numeral.value Scan.value
    rw [← hneg]
    rfl

/-- What a text denotes is what is scanned, as long as what may follow the
numeral does not go on with digits. -/
theorem denotesBefore_iff {After : List Char → Prop}
    (h : ∀ rest, After rest → ∀ c ∈ rest.head?, c.isDigit = false)
    {text : List Char} {value : ℤ} :
    DenotesBefore After text value ↔
      (scan text).digits ≠ [] ∧ After (scan text).rest ∧
        (scan text).value = value := by
  constructor
  · rintro ⟨n, rest, rfl, hafter, rfl⟩
    rw [scan_text n (h rest hafter)]
    exact ⟨n.digits_ne_nil, hafter, rfl⟩
  · rintro ⟨hdigits, hafter, rfl⟩
    obtain ⟨n, htext, hvalue⟩ := exists_numeral hdigits
    exact ⟨n, (scan text).rest, htext, hafter, hvalue⟩

theorem IsPadding.head {rest : List Char} (h : IsPadding rest) :
    ∀ c ∈ rest.head?, c.isDigit = false := by
  cases rest with
  | nil => nofun
  | cons c rest =>
      intro d hd
      obtain rfl : c = d := by simpa using hd
      by_contra hdigit
      have hc : c.isDigit = true := by simpa using hdigit
      unfold IsPadding at h
      rw [List.dropWhile_cons, not_isSpace_of_isDigit hc] at h
      obtain rfl := h c List.mem_cons_self
      exact absurd hc (by decide)

theorem denotes_iff {text : List Char} {value : ℤ} :
    Denotes text value ↔
      (scan text).digits ≠ [] ∧ IsPadding (scan text).rest ∧
        (scan text).value = value :=
  denotesBefore_iff fun _ h => h.head

/-- A text denotes one number at most. -/
theorem Denotes.unique {text : List Char} {m n : ℤ} (hm : Denotes text m)
    (hn : Denotes text n) : m = n := by
  rw [← (denotes_iff.mp hm).2.2, (denotes_iff.mp hn).2.2]

/-! ## The three readers -/

/-- A value as an `int`, where it fits. -/
def toInt32? (value : ℤ) : Option Int32 :=
  if -2147483648 ≤ value ∧ value ≤ 2147483647 then some (Int32.ofInt value)
  else none

theorem toInt32?_eq_some_iff {value : ℤ} {i : Int32} :
    toInt32? value = some i ↔ value = i.toInt := by
  unfold toInt32?
  constructor
  · intro h
    split at h
    · rename_i hfits
      obtain rfl := Option.some.inj h
      exact (Int32.toInt_ofInt_of_le hfits.1 (by omega)).symm
    · cases h
  · rintro rfl
    have hlow := i.le_toInt
    have hhigh := i.toInt_lt
    rw [if_pos ⟨by omega, by omega⟩, Int32.ofInt_toInt]

section

variable (text : List Char)

/-- `std::stoi`, `none` where it throws. -/
def stoi : Option Int32 :=
  let s := scan text
  if s.digits = [] then none else toInt32? s.value

/-- `std::strtoul` in base 10, for an `unsigned long` of 32 bits. A minus
sign negates the result; only a magnitude that is too large saturates. -/
def strtoul : UInt32 :=
  let s := scan text
  if 2 ^ 32 ≤ s.magnitude then UInt32.ofNat (2 ^ 32 - 1)
  else if s.isNegative then -UInt32.ofNat s.magnitude
  else UInt32.ofNat s.magnitude

/-- `int.TryParse`. -/
def tryParse : Option Int32 :=
  let s := scan text
  if s.digits = [] ∨ ¬ IsPadding s.rest then none else toInt32? s.value

end

/-- `stoi` takes the numeral at the head whatever comes after it. -/
theorem stoi_eq_some_iff {text : List Char} {i : Int32} :
    stoi text = some i ↔
      (scan text).digits ≠ [] ∧ (scan text).value = i.toInt := by
  unfold stoi
  dsimp only
  split
  · rename_i hnil
    exact ⟨nofun, fun h => absurd hnil h.1⟩
  · rename_i hdigits
    rw [toInt32?_eq_some_iff]
    exact (and_iff_right hdigits).symm

/-- `TryParse` takes what the whole text denotes. -/
theorem tryParse_eq_some_iff {text : List Char} {i : Int32} :
    tryParse text = some i ↔ Denotes text i.toInt := by
  rw [denotes_iff]
  unfold tryParse
  dsimp only
  split
  · rename_i hbad
    refine ⟨nofun, fun h => ?_⟩
    rcases hbad with hnil | hrest
    · exact absurd hnil h.1
    · exact absurd h.2.1 hrest
  · rename_i hgood
    obtain ⟨hdigits, hrest⟩ := not_or.mp hgood
    rw [toInt32?_eq_some_iff]
    exact ⟨fun h => ⟨hdigits, not_not.mp hrest, h⟩, fun h => h.2.2⟩

theorem Scan.value_of_nil {s : Scan} (h : s.digits = []) : s.value = 0 := by
  unfold Scan.value signed
  rw [h]
  split <;> rfl

theorem Scan.value_of_isNegative {s : Scan} (h : s.isNegative = true) :
    s.value = -(s.magnitude : ℤ) := by
  unfold Scan.value signed
  rw [h]
  rfl

theorem Scan.value_of_not_isNegative {s : Scan} (h : s.isNegative = false) :
    s.value = s.magnitude := by
  unfold Scan.value signed
  rw [h]
  rfl

/-- Without a minus sign `strtoul` gives the magnitude, or the largest
value. -/
theorem strtoul_toNat {text : List Char}
    (h : (scan text).isNegative = false) :
    (strtoul text).toNat = min (scan text).magnitude (2 ^ 32 - 1) := by
  unfold strtoul
  dsimp only
  rw [h]
  split
  · rename_i hlarge
    rw [min_eq_right (by omega)]
    rfl
  · rename_i hsmall
    rw [min_eq_left (by omega)]
    exact UInt32.toNat_ofNat_of_lt' (Nat.not_le.mp hsmall)

/-- With one it wraps around from 2^32. -/
theorem strtoul_toNat_neg {text : List Char}
    (h : (scan text).isNegative = true)
    (hfits : (scan text).magnitude < 2 ^ 32) :
    (strtoul text).toNat = (2 ^ 32 - (scan text).magnitude) % 2 ^ 32 := by
  unfold strtoul
  dsimp only
  rw [h, if_neg (Nat.not_le.mpr hfits), if_pos rfl, UInt32.toNat_neg,
    UInt32.toNat_ofNat_of_lt' hfits, show UInt32.size = 2 ^ 32 from rfl]

/-- A magnitude past 32 bits gives the largest value, whatever the sign. -/
theorem strtoul_toNat_large {text : List Char}
    (h : 2 ^ 32 ≤ (scan text).magnitude) :
    (strtoul text).toNat = 2 ^ 32 - 1 := by
  unfold strtoul
  dsimp only
  rw [if_pos h]
  rfl

end Numerals
