import Mathlib.Algebra.Group.Nat.Defs
import NetworkControl.Framing

/-!
# TcpSocket

`Common/TcpSocket.cpp`, the two transfer loops. A socket has a stream in
each direction; `send` and `recv` move a piece of it per call
(`NetworkControl.Framing`), and `sendAll`/`receiveAll` repeat them until
the whole buffer is through. `sendAll_eq` and `receiveAll_eq` say that
the cuts then no longer show.
-/

namespace NetworkControl

open Framing

structure TcpSocket where
  isValid : Bool
  incoming : Source UInt8
  outgoing : Sink UInt8

namespace TcpSocket

/-- `std::numeric_limits<int>::max()`. -/
def intMax : Nat := 2 ^ 31 - 1

/-- The loop of `ReceiveAll`; `recv` returning nothing (the stream ended)
fails it. -/
def receiveLoop (s : Source UInt8) (remaining : Nat) :
    Option (List UInt8) × Source UInt8 :=
  if _hzero : remaining = 0 then (some [], s)
  else if _hnil : (s.receive remaining).1 = [] then (none, (s.receive remaining).2)
  else
    let next := receiveLoop (s.receive remaining).2
      (remaining - (s.receive remaining).1.length)
    (next.1.map ((s.receive remaining).1 ++ ·), next.2)
termination_by remaining
decreasing_by
  have := List.length_pos_iff.mpr _hnil
  omega

/-- `ReceiveAll`: the `size` bytes read, or `none` for `false`. -/
def receiveAll (socket : TcpSocket) (size : Nat) :
    Option (List UInt8) × TcpSocket :=
  if !socket.isValid || size = 0 || size > intMax then (none, socket)
  else
    let (data, incoming) := receiveLoop socket.incoming size
    (data, { socket with incoming })

/-- The loop of `SendAll`; `send` failing or accepting nothing fails it. -/
def sendLoop (s : Sink UInt8) (current : List UInt8) : Bool × Sink UInt8 :=
  if _hzero : current.length = 0 then (true, s)
  else
    match s.send current with
    | (none, s') => (false, s')
    | (some sent, s') =>
        if _hsent : sent = 0 then (false, s')
        else sendLoop s' (current.drop sent)
termination_by current.length
decreasing_by
  rw [List.length_drop]
  omega

def sendAll (socket : TcpSocket) (data : List UInt8) : Bool × TcpSocket :=
  if !socket.isValid || data.length = 0 || data.length > intMax then
    (false, socket)
  else
    let (ok, outgoing) := sendLoop socket.outgoing data
    (ok, { socket with outgoing })

/-- A fresh connection's sending end: the `i`-th `send` accepts up to
`cut i + 1` bytes. -/
def sending (cut : Nat → Nat) : TcpSocket where
  isValid := true
  incoming := { pending := [], cut := fun _ => 0 }
  outgoing := { written := [], cut := fun i => some (cut i) }

/-- The receiving end of a stream: the `i`-th `recv` yields up to
`cut i + 1` bytes. -/
def receiving (stream : List UInt8) (cut : Nat → Nat) : TcpSocket where
  isValid := true
  incoming := { pending := stream, cut }
  outgoing := { written := [], cut := fun _ => some 0 }

theorem sending_alive (cut : Nat → Nat) : (sending cut).outgoing.Alive :=
  fun i => Option.some_ne_none (cut i)

/-! ## The cuts do not show -/

theorem receiveLoop_eq (remaining : Nat) (s : Source UInt8)
    (bytes rest : List UInt8) (hlen : bytes.length = remaining)
    (hpend : s.pending = bytes ++ rest) :
    (receiveLoop s remaining).1 = some bytes
      ∧ (receiveLoop s remaining).2.pending = rest := by
  fun_induction receiveLoop s remaining generalizing bytes with
  | case1 s =>
      obtain rfl := List.length_eq_zero_iff.mp hlen
      exact ⟨rfl, hpend⟩
  | case2 s remaining hzero hnil =>
      obtain ⟨k, hk, -, hpiece, -⟩ :=
        Source.receive_of_pending (Nat.pos_of_ne_zero hzero) hlen hpend
      rw [hnil, eq_comm, List.take_eq_nil_iff] at hpiece
      rcases hpiece with rfl | rfl
      · omega
      · exact absurd hlen.symm hzero
  | case3 s remaining hzero hnil next ih =>
      obtain ⟨k, hk, hkle, hpiece, hafter⟩ :=
        Source.receive_of_pending (Nat.pos_of_ne_zero hzero) hlen hpend
      have hpiecelen : (s.receive remaining).1.length = k := by
        rw [hpiece, List.length_take]; omega
      obtain ⟨hdata, hrest⟩ := ih (bytes.drop k)
        (by rw [List.length_drop, hpiecelen, hlen]) hafter
      refine ⟨?_, hrest⟩
      rw [hdata, Option.map_some, hpiece, List.take_append_drop]

/-- The entry check of both calls passes. -/
theorem transfer_ok {isValid : Bool} {size : Nat} (hvalid : isValid = true)
    (hpos : 0 < size) (hmax : size ≤ intMax) :
    ¬ (!isValid || size = 0 || size > intMax) = true := by
  have hne : size ≠ 0 := by omega
  simp [hvalid, hne, hmax]

/-- `receiveAll` takes exactly `size` bytes, however they arrive. -/
theorem receiveAll_eq {socket : TcpSocket} {bytes rest : List UInt8}
    (hvalid : socket.isValid = true) (hpos : 0 < bytes.length)
    (hmax : bytes.length ≤ intMax)
    (hpend : socket.incoming.pending = bytes ++ rest) :
    ∃ incoming, incoming.pending = rest
      ∧ socket.receiveAll bytes.length
          = (some bytes, { socket with incoming }) := by
  obtain ⟨hdata, hrest⟩ :=
    receiveLoop_eq bytes.length socket.incoming bytes rest rfl hpend
  refine ⟨_, hrest, ?_⟩
  rw [receiveAll, if_neg (transfer_ok hvalid hpos hmax), ← hdata]

/-- A stream that ends too early fails the read and is used up. -/
theorem receiveLoop_short (s : Source UInt8) (remaining : Nat)
    (hshort : s.pending.length < remaining) :
    (receiveLoop s remaining).1 = none
      ∧ (receiveLoop s remaining).2.pending = [] := by
  fun_induction receiveLoop s remaining with
  | case1 s => exact absurd hshort (Nat.not_lt_zero _)
  | case2 s remaining hzero hnil =>
      exact ⟨rfl, Source.pending_of_receive_eq_nil
        (Nat.pos_of_ne_zero hzero) hnil⟩
  | case3 s remaining hzero hnil next ih =>
      have hlen := congrArg List.length (s.receive_append remaining)
      rw [List.length_append] at hlen
      have hpos := List.length_pos_iff.mpr hnil
      obtain ⟨hnone, hrest⟩ := ih (by omega)
      refine ⟨?_, hrest⟩
      rw [hnone, Option.map_none]

theorem receiveAll_short {socket : TcpSocket} (size : Nat)
    (hvalid : socket.isValid = true) (hmax : size ≤ intMax)
    (hshort : socket.incoming.pending.length < size) :
    ∃ incoming, incoming.pending = []
      ∧ socket.receiveAll size = (none, { socket with incoming }) := by
  obtain ⟨hnone, hrest⟩ := receiveLoop_short socket.incoming size hshort
  refine ⟨_, hrest, ?_⟩
  rw [receiveAll, if_neg (transfer_ok hvalid (by omega) hmax), ← hnone]

theorem sendLoop_eq (s : Sink UInt8) (current : List UInt8)
    (halive : s.Alive) :
    (sendLoop s current).1 = true
      ∧ (sendLoop s current).2.written = s.written ++ current
      ∧ (sendLoop s current).2.Alive := by
  fun_induction sendLoop s current with
  | case1 s current hzero =>
      obtain rfl := List.length_eq_zero_iff.mp hzero
      exact ⟨rfl, (List.append_nil _).symm, halive⟩
  | case2 s current hzero s' hsend =>
      obtain ⟨k, t, hk, -⟩ := halive.send (List.ne_nil_of_length_pos
        (Nat.pos_of_ne_zero hzero))
      rw [hsend] at hk
      cases hk
  | case3 s current hzero s' hsend =>
      obtain ⟨k, t, hk, hpos, -⟩ := halive.send (List.ne_nil_of_length_pos
        (Nat.pos_of_ne_zero hzero))
      rw [hsend] at hk
      cases hk
      omega
  | case4 s current hzero sent s' hsend hsent ih =>
      obtain ⟨k, t, hk, -, -, hwritten, halive'⟩ := halive.send
        (List.ne_nil_of_length_pos (Nat.pos_of_ne_zero hzero))
      rw [hsend] at hk
      cases hk
      obtain ⟨hok, hall, hstill⟩ := ih halive'
      refine ⟨hok, ?_, hstill⟩
      rw [hall, hwritten, List.append_assoc, List.take_append_drop]

/-- `sendAll` appends all of `data`, however the network splits it. -/
theorem sendAll_eq {socket : TcpSocket} {data : List UInt8}
    (hvalid : socket.isValid = true) (hpos : 0 < data.length)
    (hmax : data.length ≤ intMax) (halive : socket.outgoing.Alive) :
    ∃ outgoing, outgoing.written = socket.outgoing.written ++ data
      ∧ outgoing.Alive
      ∧ socket.sendAll data = (true, { socket with outgoing }) := by
  obtain ⟨hok, hwritten, hstill⟩ := sendLoop_eq socket.outgoing data halive
  refine ⟨_, hwritten, hstill, ?_⟩
  rw [sendAll, if_neg (transfer_ok hvalid hpos hmax), ← hok]

/-- Messages written one `sendAll` each follow each other on the stream. -/
theorem foldl_sendAll_written {μ : Type} {enc : μ → List UInt8}
    (hpos : ∀ m, 0 < (enc m).length) (hmax : ∀ m, (enc m).length ≤ intMax) :
    ∀ (ms : List μ) (socket : TcpSocket), socket.isValid = true →
      socket.outgoing.Alive →
        (ms.foldl (fun socket m => (socket.sendAll (enc m)).2)
          socket).outgoing.written
          = socket.outgoing.written ++ ms.flatMap enc
  | [], _, _, _ => (List.append_nil _).symm
  | m :: ms, socket, hvalid, halive => by
      obtain ⟨outgoing, hwritten, halive', hsend⟩ :=
        sendAll_eq hvalid (hpos m) (hmax m) halive
      rw [List.foldl_cons, hsend, foldl_sendAll_written hpos hmax ms
        { socket with outgoing } hvalid halive', hwritten,
        List.append_assoc, List.flatMap_cons]

end TcpSocket

end NetworkControl
