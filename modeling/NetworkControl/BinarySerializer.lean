import Mathlib.Data.Nat.Bitwise
import Mathlib.Tactic.IntervalCases
import NetworkControl.Endian

/-!
# Byte order conversions, BinaryWriter and BinaryReader

`Common/ByteOrder.h` and `Common/BinarySerializer.cpp`. Every function
that touches a word's memory takes the byte order of the host it runs
on: the C++ code reads and writes that memory through `memcpy` and
`reinterpret_cast`, so the conversion and the store only agree on what
goes on the wire because each host converts for its own order.

`writeUInt*_data` and `tryReadUInt*_reads` are the only facts the rest of
the development uses: whatever the host, a write appends the big-endian
bytes of the value and a read takes them back.
-/

namespace NetworkControl

open Endian

/-- A `float`, as the bit pattern `memcpy` moves. -/
abbrev FloatBits := UInt32

/-- A `double`, as the bit pattern `memcpy` moves. -/
abbrev DoubleBits := UInt64

/-! ## ByteOrder.h -/

def byteSwap64 (v : UInt64) : UInt64 :=
  ((v &&& 0x00000000000000FF) <<< 56) |||
  ((v &&& 0x000000000000FF00) <<< 40) |||
  ((v &&& 0x0000000000FF0000) <<< 24) |||
  ((v &&& 0x00000000FF000000) <<< 8) |||
  ((v &&& 0x000000FF00000000) >>> 8) |||
  ((v &&& 0x0000FF0000000000) >>> 24) |||
  ((v &&& 0x00FF000000000000) >>> 40) |||
  ((v &&& 0xFF00000000000000) >>> 56)

def isLittleEndian (host : ByteOrder) : Bool :=
  host == .little

def hostToNetwork64 (host : ByteOrder) (v : UInt64) : UInt64 :=
  if isLittleEndian host then byteSwap64 v else v

def networkToHost64 (host : ByteOrder) (v : UInt64) : UInt64 :=
  if isLittleEndian host then byteSwap64 v else v

/-- Winsock's `htonl`, which is also its `ntohl`. -/
def htonl (host : ByteOrder) (v : UInt32) : UInt32 :=
  match host with
  | .little => UInt32.ofNat (swapBytes 4 v.toNat)
  | .big => v

/-- Winsock's `htons`, which is also its `ntohs`. -/
def htons (host : ByteOrder) (v : UInt16) : UInt16 :=
  match host with
  | .little => UInt16.ofNat (swapBytes 2 v.toNat)
  | .big => v

def hostToNetwork32 (host : ByteOrder) (v : UInt32) : UInt32 := htonl host v

def networkToHost32 (host : ByteOrder) (v : UInt32) : UInt32 := htonl host v

def hostToNetwork16 (host : ByteOrder) (v : UInt16) : UInt16 := htons host v

def networkToHost16 (host : ByteOrder) (v : UInt16) : UInt16 := htons host v

theorem testBit_byteSwap64 (v : UInt64) {i : Nat} (hi : i < 64) :
    (byteSwap64 v).toNat.testBit i
      = v.toNat.testBit (8 * (7 - i / 8) + i % 8) := by
  show (byteSwap64 v).toBitVec.getLsbD i = v.toBitVec.getLsbD _
  simp only [byteSwap64, UInt64.toBitVec_or, UInt64.toBitVec_and,
    UInt64.toBitVec_shiftLeft, UInt64.toBitVec_shiftRight]
  interval_cases i <;> simp

/-- The masks and shifts of `ByteSwap64` reverse the eight bytes. -/
theorem byteSwap64_toNat (v : UInt64) :
    (byteSwap64 v).toNat = swapBytes 8 v.toNat := by
  apply Nat.eq_of_testBit_eq
  intro i
  by_cases hi : i < 64
  · rw [testBit_byteSwap64 v hi, testBit_swapBytes v.toNat (by omega)]
  · have hle : (2 : Nat) ^ 64 ≤ 2 ^ i :=
      Nat.pow_le_pow_right (by decide) (by omega)
    rw [Nat.testBit_eq_false_of_lt (lt_of_lt_of_le (byteSwap64 v).toNat_lt hle),
      Nat.testBit_eq_false_of_lt (lt_of_lt_of_le (swapBytes_lt 8 _) hle)]

/-! ## What a host stores and loads -/

/-- The bytes a `w`-byte word of value `n` has on the wire. -/
abbrev networkBytes (w n : Nat) : List UInt8 := store .big w n

theorem store_hostToNetwork64 (host : ByteOrder) (v : UInt64) :
    store host 8 (hostToNetwork64 host v).toNat = networkBytes 8 v.toNat := by
  cases host with
  | little =>
      rw [hostToNetwork64, isLittleEndian, if_pos (by rfl), byteSwap64_toNat,
        store_swapBytes]
  | big => rfl

theorem store_hostToNetwork32 (host : ByteOrder) (v : UInt32) :
    store host 4 (hostToNetwork32 host v).toNat = networkBytes 4 v.toNat := by
  cases host with
  | little =>
      have hlt : swapBytes 4 v.toNat < 2 ^ 32 := swapBytes_lt 4 v.toNat
      rw [hostToNetwork32, htonl, UInt32.toNat_ofNat',
        Nat.mod_eq_of_lt hlt, store_swapBytes]
  | big => rfl

theorem store_hostToNetwork16 (host : ByteOrder) (v : UInt16) :
    store host 2 (hostToNetwork16 host v).toNat = networkBytes 2 v.toNat := by
  cases host with
  | little =>
      have hlt : swapBytes 2 v.toNat < 2 ^ 16 := swapBytes_lt 2 v.toNat
      rw [hostToNetwork16, htons, UInt16.toNat_ofNat',
        Nat.mod_eq_of_lt hlt, store_swapBytes]
  | big => rfl

theorem networkToHost64_load (host : ByteOrder) {bs : List UInt8}
    (hlen : bs.length = 8) :
    networkToHost64 host (UInt64.ofNat (load host bs))
      = UInt64.ofNat (load .big bs) := by
  cases host with
  | little =>
      have hlt : load .little bs < 2 ^ 64 :=
        lt_of_lt_of_eq (ofLittleBytes_lt bs) (by rw [hlen]; norm_num)
      apply UInt64.toNat_inj.mp
      rw [networkToHost64, isLittleEndian, if_pos (by rfl), byteSwap64_toNat,
        UInt64.toNat_ofNat', Nat.mod_eq_of_lt hlt, ← hlen, swapBytes_load,
        UInt64.toNat_ofNat', Nat.mod_eq_of_lt]
      exact lt_of_lt_of_eq (ofLittleBytes_lt bs.reverse)
        (by rw [List.length_reverse, hlen]; norm_num)
  | big => rfl

theorem networkToHost32_load (host : ByteOrder) {bs : List UInt8}
    (hlen : bs.length = 4) :
    networkToHost32 host (UInt32.ofNat (load host bs))
      = UInt32.ofNat (load .big bs) := by
  cases host with
  | little =>
      have hlt : load .little bs < 2 ^ 32 :=
        lt_of_lt_of_eq (ofLittleBytes_lt bs) (by rw [hlen]; norm_num)
      rw [networkToHost32, htonl, UInt32.toNat_ofNat', Nat.mod_eq_of_lt hlt,
        ← hlen, swapBytes_load]
  | big => rfl

theorem networkToHost16_load (host : ByteOrder) {bs : List UInt8}
    (hlen : bs.length = 2) :
    networkToHost16 host (UInt16.ofNat (load host bs))
      = UInt16.ofNat (load .big bs) := by
  cases host with
  | little =>
      have hlt : load .little bs < 2 ^ 16 :=
        lt_of_lt_of_eq (ofLittleBytes_lt bs) (by rw [hlen]; norm_num)
      rw [networkToHost16, htons, UInt16.toNat_ofNat', Nat.mod_eq_of_lt hlt,
        ← hlen, swapBytes_load]
  | big => rfl

/-! ## BinaryWriter -/

structure BinaryWriter where
  buffer : List UInt8 := []
deriving DecidableEq, Repr

namespace BinaryWriter

def writeUInt8 (w : BinaryWriter) (value : UInt8) : BinaryWriter :=
  ⟨w.buffer ++ [value]⟩

def writeUInt16 (host : ByteOrder) (w : BinaryWriter) (value : UInt16) :
    BinaryWriter :=
  ⟨w.buffer ++ store host 2 (hostToNetwork16 host value).toNat⟩

def writeUInt32 (host : ByteOrder) (w : BinaryWriter) (value : UInt32) :
    BinaryWriter :=
  ⟨w.buffer ++ store host 4 (hostToNetwork32 host value).toNat⟩

def writeUInt64 (host : ByteOrder) (w : BinaryWriter) (value : UInt64) :
    BinaryWriter :=
  ⟨w.buffer ++ store host 8 (hostToNetwork64 host value).toNat⟩

def writeFloat (host : ByteOrder) (w : BinaryWriter) (value : FloatBits) :
    BinaryWriter :=
  w.writeUInt32 host value

def writeDouble (host : ByteOrder) (w : BinaryWriter) (value : DoubleBits) :
    BinaryWriter :=
  w.writeUInt64 host value

def data (w : BinaryWriter) : List UInt8 := w.buffer

@[simp] theorem data_empty : (⟨[]⟩ : BinaryWriter).data = [] := rfl

@[simp] theorem writeUInt8_data (w : BinaryWriter) (value : UInt8) :
    (w.writeUInt8 value).data = w.data ++ [value] := rfl

@[simp] theorem writeUInt16_data (host : ByteOrder) (w : BinaryWriter)
    (value : UInt16) :
    (w.writeUInt16 host value).data = w.data ++ networkBytes 2 value.toNat := by
  rw [← store_hostToNetwork16 host]; rfl

@[simp] theorem writeUInt32_data (host : ByteOrder) (w : BinaryWriter)
    (value : UInt32) :
    (w.writeUInt32 host value).data = w.data ++ networkBytes 4 value.toNat := by
  rw [← store_hostToNetwork32 host]; rfl

@[simp] theorem writeUInt64_data (host : ByteOrder) (w : BinaryWriter)
    (value : UInt64) :
    (w.writeUInt64 host value).data = w.data ++ networkBytes 8 value.toNat := by
  rw [← store_hostToNetwork64 host]; rfl

@[simp] theorem writeFloat_data (host : ByteOrder) (w : BinaryWriter)
    (value : FloatBits) :
    (w.writeFloat host value).data = w.data ++ networkBytes 4 value.toNat :=
  writeUInt32_data host w value

@[simp] theorem writeDouble_data (host : ByteOrder) (w : BinaryWriter)
    (value : DoubleBits) :
    (w.writeDouble host value).data = w.data ++ networkBytes 8 value.toNat :=
  writeUInt64_data host w value

end BinaryWriter

/-! ## BinaryReader

A read that lacks bytes fails; the callers discard the reader then, so
the failing state is not kept. -/

structure BinaryReader where
  data : List UInt8
  offset : Nat := 0
deriving DecidableEq, Repr

/-- A `TryRead*`/`TryDeserialize*` call: the value read and the reader
after it, or `none` where the C++ returns `false`. -/
abbrev Read := StateT BinaryReader Option

namespace BinaryReader

def hasRemaining (r : BinaryReader) (count : Nat) : Bool :=
  r.offset + count ≤ r.data.length

/-- The `count` bytes `memcpy` takes at the cursor. -/
def bytesAt (r : BinaryReader) (count : Nat) : List UInt8 :=
  (r.data.drop r.offset).take count

def advance (r : BinaryReader) (count : Nat) : BinaryReader :=
  { r with offset := r.offset + count }

def tryReadUInt8 : Read UInt8 := fun r =>
  if r.hasRemaining 1 then
    some ((r.data[r.offset]?).getD 0, r.advance 1)
  else none

def tryReadUInt16 (host : ByteOrder) : Read UInt16 := fun r =>
  if r.hasRemaining 2 then
    some (networkToHost16 host (UInt16.ofNat (load host (r.bytesAt 2))),
      r.advance 2)
  else none

def tryReadUInt32 (host : ByteOrder) : Read UInt32 := fun r =>
  if r.hasRemaining 4 then
    some (networkToHost32 host (UInt32.ofNat (load host (r.bytesAt 4))),
      r.advance 4)
  else none

def tryReadUInt64 (host : ByteOrder) : Read UInt64 := fun r =>
  if r.hasRemaining 8 then
    some (networkToHost64 host (UInt64.ofNat (load host (r.bytesAt 8))),
      r.advance 8)
  else none

def tryReadFloat (host : ByteOrder) : Read FloatBits := tryReadUInt32 host

def tryReadDouble (host : ByteOrder) : Read DoubleBits := tryReadUInt64 host

/-- The bytes a reader has not consumed. -/
def remaining (r : BinaryReader) : List UInt8 := r.data.drop r.offset

end BinaryReader

/-! ## What a read takes back

`Reads p bytes v`: wherever the unread bytes start with `bytes`, `p`
yields `v` and stops right behind them. -/

def Reads {α : Type} (p : Read α) (bytes : List UInt8) (v : α) : Prop :=
  ∀ (r : BinaryReader) (rest : List UInt8), r.remaining = bytes ++ rest →
    ∃ r', p r = some (v, r') ∧ r'.remaining = rest

namespace Reads

variable {α β : Type}

theorem pure (v : α) : Reads (Pure.pure v) [] v := fun r _ h =>
  ⟨r, rfl, h⟩

theorem bind {p : Read α} {f : α → Read β} {bs cs : List UInt8} {a : α} {b : β}
    (hp : Reads p bs a) (hf : Reads (f a) cs b) :
    Reads (p >>= f) (bs ++ cs) b := by
  intro r rest h
  rw [List.append_assoc] at h
  obtain ⟨r1, h1, hrest1⟩ := hp r _ h
  obtain ⟨r2, h2, hrest2⟩ := hf r1 _ hrest1
  refine ⟨r2, ?_, hrest2⟩
  show (p r).bind (fun x => f x.1 x.2) = _
  rw [h1]
  exact h2

/-- The last read before the value is built. -/
theorem last {p : Read α} {bs : List UInt8} {a : α} (hp : Reads p bs a)
    (g : α → β) : Reads (p >>= fun x => Pure.pure (g x)) bs (g a) := by
  have h := hp.bind (f := fun x => Pure.pure (g x)) (Reads.pure (g a))
  rwa [List.append_nil] at h

end Reads

namespace BinaryReader

theorem hasRemaining_of_remaining {r : BinaryReader} {bytes rest : List UInt8}
    (h : r.remaining = bytes ++ rest) (hb : bytes ≠ []) :
    r.hasRemaining bytes.length = true := by
  have hlen := congrArg List.length h
  have hpos := List.length_pos_iff.mpr hb
  simp only [remaining, List.length_drop, List.length_append] at hlen
  simp only [hasRemaining, decide_eq_true_eq]
  omega

theorem bytesAt_of_remaining {r : BinaryReader} {bytes rest : List UInt8}
    (h : r.remaining = bytes ++ rest) : r.bytesAt bytes.length = bytes := by
  rw [bytesAt, show r.data.drop r.offset = bytes ++ rest from h,
    List.take_left]

theorem advance_remaining {r : BinaryReader} {bytes rest : List UInt8}
    (h : r.remaining = bytes ++ rest) :
    (r.advance bytes.length).remaining = rest := by
  rw [remaining, advance, ← List.drop_drop,
    show r.data.drop r.offset = bytes ++ rest from h, List.drop_left]

theorem tryReadUInt8_reads (v : UInt8) : Reads tryReadUInt8 [v] v := by
  intro r rest h
  have hlen : r.hasRemaining 1 = true :=
    hasRemaining_of_remaining h (List.cons_ne_nil v [])
  have hget : r.data[r.offset]? = some v := by
    have h0 := congrArg (fun l => l[0]?) h
    simpa [remaining] using h0
  refine ⟨r.advance 1, ?_, advance_remaining h⟩
  simp [tryReadUInt8, hlen, hget]

theorem tryReadUInt16_reads (host : ByteOrder) (v : UInt16) :
    Reads (tryReadUInt16 host) (networkBytes 2 v.toNat) v := by
  intro r rest h
  have hbs : (networkBytes 2 v.toNat).length = 2 := store_length .big 2 _
  have hlen := hasRemaining_of_remaining h
    (List.ne_nil_of_length_pos (by omega))
  have hat := bytesAt_of_remaining h
  have hadv := advance_remaining h
  rw [hbs] at hlen hat hadv
  have hval : load .big (networkBytes 2 v.toNat) = v.toNat :=
    (load_store .big 2 v.toNat).trans (Nat.mod_eq_of_lt v.toNat_lt)
  refine ⟨r.advance 2, ?_, hadv⟩
  rw [tryReadUInt16, if_pos hlen, hat, networkToHost16_load host hbs,
    hval, UInt16.ofNat_toNat]

theorem tryReadUInt32_reads (host : ByteOrder) (v : UInt32) :
    Reads (tryReadUInt32 host) (networkBytes 4 v.toNat) v := by
  intro r rest h
  have hbs : (networkBytes 4 v.toNat).length = 4 := store_length .big 4 _
  have hlen := hasRemaining_of_remaining h
    (List.ne_nil_of_length_pos (by omega))
  have hat := bytesAt_of_remaining h
  have hadv := advance_remaining h
  rw [hbs] at hlen hat hadv
  have hval : load .big (networkBytes 4 v.toNat) = v.toNat :=
    (load_store .big 4 v.toNat).trans (Nat.mod_eq_of_lt v.toNat_lt)
  refine ⟨r.advance 4, ?_, hadv⟩
  rw [tryReadUInt32, if_pos hlen, hat, networkToHost32_load host hbs,
    hval, UInt32.ofNat_toNat]

theorem tryReadUInt64_reads (host : ByteOrder) (v : UInt64) :
    Reads (tryReadUInt64 host) (networkBytes 8 v.toNat) v := by
  intro r rest h
  have hbs : (networkBytes 8 v.toNat).length = 8 := store_length .big 8 _
  have hlen := hasRemaining_of_remaining h
    (List.ne_nil_of_length_pos (by omega))
  have hat := bytesAt_of_remaining h
  have hadv := advance_remaining h
  rw [hbs] at hlen hat hadv
  have hval : load .big (networkBytes 8 v.toNat) = v.toNat :=
    (load_store .big 8 v.toNat).trans (Nat.mod_eq_of_lt v.toNat_lt)
  refine ⟨r.advance 8, ?_, hadv⟩
  rw [tryReadUInt64, if_pos hlen, hat, networkToHost64_load host hbs,
    hval, UInt64.ofNat_toNat]

theorem tryReadFloat_reads (host : ByteOrder) (v : FloatBits) :
    Reads (tryReadFloat host) (networkBytes 4 v.toNat) v :=
  tryReadUInt32_reads host v

theorem tryReadDouble_reads (host : ByteOrder) (v : DoubleBits) :
    Reads (tryReadDouble host) (networkBytes 8 v.toNat) v :=
  tryReadUInt64_reads host v

end BinaryReader

end NetworkControl
