import Mathlib.Data.List.Basic
import Mathlib.Data.List.Flatten
import Mathlib.Logic.Function.Iterate

/-!
# Messages on a stream that arrives in pieces

Byte-stream channels, over an arbitrary element type and independent of
any particular program. A `Source` is the receiving end: everything the
peer will deliver before the stream ends, and how the network cuts it. A
`Sink` is the sending end: everything accepted so far, and how much each
call accepts.

`Consumes` says that one call of a reader takes exactly one encoded
message off the stream, however it is cut, and acts on the state as an
abstract `f` does. Its one consequence, `Consumes.iterate`, is stream
alignment: `n` calls take exactly `n` messages.
-/

namespace Framing

variable {α : Type*}

/-! ## The receiving end -/

/-- `pending` is what the peer delivers, in order, until the stream ends
(by close or by error); `cut i + 1` bounds the `i`-th receive from now. -/
structure Source (α : Type*) where
  pending : List α
  cut : Nat → Nat

namespace Source

/-- One receive of at most `len` elements: a nonempty piece unless the
stream has ended or `len = 0`. -/
def receive (s : Source α) (len : Nat) : List α × Source α :=
  (s.pending.take (min len (s.cut 0 + 1)),
    { pending := s.pending.drop (min len (s.cut 0 + 1))
      cut := fun i => s.cut (i + 1) })

theorem receive_append (s : Source α) (len : Nat) :
    (s.receive len).1 ++ (s.receive len).2.pending = s.pending :=
  List.take_append_drop _ _

/-- Only an ended stream receives nothing. -/
theorem pending_of_receive_eq_nil {s : Source α} {len : Nat}
    (hpos : 0 < len) (hnil : (s.receive len).1 = []) :
    (s.receive len).2.pending = [] := by
  rw [receive, List.take_eq_nil_iff] at hnil
  rcases hnil with h | h
  · omega
  · rw [receive, h, List.drop_nil]

/-- While `len` elements are still to come, a receive takes a nonempty
piece off their front. -/
theorem receive_of_pending {s : Source α} {len : Nat} {xs rest : List α}
    (hpos : 0 < len) (hlen : xs.length = len)
    (hpend : s.pending = xs ++ rest) :
    ∃ k, 0 < k ∧ k ≤ len ∧ (s.receive len).1 = xs.take k
      ∧ (s.receive len).2.pending = xs.drop k ++ rest := by
  refine ⟨min len (s.cut 0 + 1), by omega, Nat.min_le_left _ _, ?_, ?_⟩
  · rw [receive, hpend, List.take_append_of_le_length (by omega)]
  · rw [receive, hpend, List.drop_append_of_le_length (by omega)]

end Source

/-! ## The sending end -/

/-- `written` is the stream accepted so far; the `i`-th send from now
accepts at most `cut i + 1` elements, or fails where `cut i = none`. -/
structure Sink (α : Type*) where
  written : List α
  cut : Nat → Option Nat

namespace Sink

/-- One send: how many elements were accepted, `none` on failure. -/
def send (s : Sink α) (data : List α) : Option Nat × Sink α :=
  match s.cut 0 with
  | none => (none, { s with cut := fun i => s.cut (i + 1) })
  | some c =>
      (some (min data.length (c + 1)),
        { written := s.written ++ data.take (min data.length (c + 1))
          cut := fun i => s.cut (i + 1) })

/-- No send will fail. -/
def Alive (s : Sink α) : Prop := ∀ i, s.cut i ≠ none

/-- A send that does not fail appends a nonempty prefix of its data, and
leaves a sink that does not fail either. -/
theorem Alive.send {s : Sink α} (h : s.Alive) {data : List α}
    (hdata : data ≠ []) :
    ∃ k s', s.send data = (some k, s') ∧ 0 < k ∧ k ≤ data.length
      ∧ s'.written = s.written ++ data.take k ∧ s'.Alive := by
  obtain ⟨c, hc⟩ := Option.ne_none_iff_exists'.mp (h 0)
  have hlen := List.length_pos_iff.mpr hdata
  refine ⟨min data.length (c + 1), _, by rw [Sink.send, hc], by omega,
    Nat.min_le_left _ _, rfl, fun i => h (i + 1)⟩

end Sink

/-! ## Consuming one message at a time -/

section

variable {σ τ μ : Type*}

/-- While the reader is `Ready` and its stream starts with an encoded
message, `next` takes exactly that message's elements, moves what is
visible of the state as `f` does, and stays ready. -/
def Consumes (Ready : σ → Prop) (pending : σ → List α) (view : σ → τ)
    (next : σ → σ) (enc : μ → List α) (f : τ → μ → τ) : Prop :=
  ∀ (s : σ) (m : μ) (rest : List α), Ready s → pending s = enc m ++ rest →
    Ready (next s) ∧ view (next s) = f (view s) m ∧ pending (next s) = rest

variable {Ready : σ → Prop} {pending : σ → List α} {view : σ → τ}
  {next : σ → σ} {enc : μ → List α} {f : τ → μ → τ}

/-- Alignment: `ms.length` calls process exactly `ms` and stop right
behind its last message. -/
theorem Consumes.iterate (h : Consumes Ready pending view next enc f) :
    ∀ (ms : List μ) (s : σ) (rest : List α), Ready s →
      pending s = ms.flatMap enc ++ rest →
        Ready (next^[ms.length] s)
          ∧ view (next^[ms.length] s) = ms.foldl f (view s)
          ∧ pending (next^[ms.length] s) = rest
  | [], _, _, hready, hpend => ⟨hready, rfl, hpend⟩
  | m :: ms, s, rest, hready, hpend => by
      rw [List.flatMap_cons, List.append_assoc] at hpend
      obtain ⟨hready', hview, hpend'⟩ := h s m _ hready hpend
      have ih := Consumes.iterate h ms (next s) rest hready' hpend'
      rw [List.length_cons, Function.iterate_succ_apply, List.foldl_cons,
        ← hview]
      exact ih

end

end Framing
