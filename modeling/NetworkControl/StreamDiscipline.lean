import NetworkControl.RegistrationFlag

/-!
# An unexpected header

The bytes of a control connection carry no lengths, so a worker that does
not know a header cannot tell where the next one is: it has to give the
connection up. `ProcessOneMessage` does so, but only behind its test of the
registration flag. For a session that is not registered an unknown header
counts as a command to be ignored, and the loop goes on behind it, where
its payload may be.

`unexpected_ends_iff` says this of every byte stream.
-/

namespace NetworkControl

open Endian

/-- The six messages of a client. -/
def MessageType.isClientMessage : MessageType → Bool
  | .registerUdpPort | .play | .pause | .stop | .reset | .setRate => true
  | _ => false

section

variable {F : Type} [FloatArith F] {clientIp : String} {host : ByteOrder}

/-- Behind a header that is none of the six, the result is the flag. -/
theorem processOneMessage_unexpected (c : Control F) {socket : TcpSocket}
    {headerByte : List UInt8}
    (hheader : (socket.receiveAll 1).1 = some headerByte)
    (htype : (headerType headerByte).isClientMessage = false) :
    (processOneMessage clientIp host c socket).1
      = !c.isUdpEndpointRegistered := by
  unfold processOneMessage
  rcases hreceive : socket.receiveAll 1 with ⟨received, rest⟩
  rw [hreceive] at hheader
  obtain rfl : received = some headerByte := hheader
  dsimp only
  cases hflag : c.isUdpEndpointRegistered <;>
    cases hheaderType : headerType headerByte <;>
      first
        | rfl
        | (rw [hheaderType] at htype; cases htype)

namespace ControlLoop

/-- The header the next iteration reads, if it reads one. -/
def header (w : ControlLoop F) : Option MessageType :=
  if w.keep then (w.socket.receiveAll 1).1.map headerType else none

/-- The next iteration reads a header that is none of the six. -/
def Unexpected (w : ControlLoop F) : Prop :=
  ∃ type ∈ w.header, type.isClientMessage = false

instance (w : ControlLoop F) : Decidable w.Unexpected :=
  inferInstanceAs (Decidable (∃ type ∈ w.header, type.isClientMessage = false))

/-- Whether the next iteration keeps the connection is, behind such a
header, the flag. -/
theorem next_keep_of_unexpected {w : ControlLoop F} (h : w.Unexpected) :
    (w.next clientIp host).keep = !w.control.isUdpEndpointRegistered := by
  obtain ⟨type, hheader, htype⟩ := h
  rw [Option.mem_def, header] at hheader
  split at hheader
  · rename_i hkeep
    obtain ⟨headerByte, hbyte, rfl⟩ := Option.map_eq_some_iff.mp hheader
    rw [next, if_pos hkeep]
    exact processOneMessage_unexpected w.control hbyte htype
  · cases hheader

omit [FloatArith F] in
theorem header_of_ended {w : ControlLoop F} (h : w.keep = false) :
    w.header = none := by
  rw [header, h]
  rfl

theorem next_of_ended {w : ControlLoop F} (h : w.keep = false) :
    w.next clientIp host = w := by
  rw [next, h]
  rfl

/-- A loop that has ended reads no header any more. -/
theorem header_iterate_of_ended {w : ControlLoop F} (h : w.keep = false)
    (n : Nat) : ((next clientIp host)^[n] w).header = none := by
  rw [Function.iterate_fixed (next_of_ended h)]
  exact header_of_ended h

/-- The loop ends at a header that is none of the six, and no later byte
is read as a header. -/
def EndsAt (clientIp : String) (host : ByteOrder) (w : ControlLoop F)
    (k : Nat) : Prop :=
  ((next clientIp host)^[k + 1] w).keep = false
    ∧ ∀ j, k < j → ((next clientIp host)^[j] w).header = none

theorem endsAt_iff (w : ControlLoop F) (k : Nat) :
    EndsAt clientIp host w k
      ↔ ((next clientIp host)^[k + 1] w).keep = false := by
  refine ⟨And.left, fun hkeep => ⟨hkeep, ?_⟩⟩
  intro j hj
  obtain ⟨n, rfl⟩ := Nat.exists_eq_add_of_lt hj
  rw [show k + n + 1 = n + (k + 1) by omega, Function.iterate_add_apply]
  exact header_iterate_of_ended hkeep n

/-- Whatever arrives: the first header that is none of the six ends the
connection if and only if the session is registered when it is read. -/
theorem unexpected_ends_iff (clientIp : String) (host : ByteOrder)
    (sessionId : UInt64) (socket : TcpSocket) (k : Nat)
    (h : ((next clientIp host)^[k]
      (accepted (F := F) sessionId socket)).Unexpected) :
    EndsAt clientIp host (accepted (F := F) sessionId socket) k
      ↔ ((next clientIp host)^[k]
          (accepted (F := F) sessionId socket)).control.isUdpEndpointRegistered
        = true := by
  rw [endsAt_iff, Function.iterate_succ_apply', next_keep_of_unexpected h,
    Bool.not_eq_false']

end ControlLoop

end

namespace ControlLoop

/-- A registered session loses its connection at `EntityState`. -/
theorem unexpected_ends_registered :
    EndsAt "127.0.0.1" .little (accepted (F := Float32) 1
      (.receiving [0, 23, 112, 7, 1] fun _ => 0)) 1 :=
  (unexpected_ends_iff "127.0.0.1" .little 1 _ 1 (by decide +kernel)).mpr
    (by decide +kernel)

/-- An `EntityControlInput` on the control connection of a session that is
not registered: its payload starts with 0, 23, 112, which registers UDP
port 6000, and 1, which is `Play`. -/
theorem unexpected_payload_obeyed :
    ∃ w : ControlLoop Float32,
      w = accepted 1 (.receiving [6, 0, 23, 112, 1] fun _ => 0)
      ∧ w.Unexpected ∧ ¬ EndsAt "127.0.0.1" .little w 0
      ∧ ((next "127.0.0.1" .little)^[3] w).control.session.state = .playing
      ∧ ((next "127.0.0.1" .little)^[3] w).control.session.tryGetUdpEndpoint
        = some ("127.0.0.1", 6000) := by
  refine ⟨_, rfl, ?_⟩
  rw [endsAt_iff]
  decide +kernel

end ControlLoop

end NetworkControl
