import NetworkControl.EntityChannel
import NetworkControl.SharedStream

/-!
# ControlWorkers sharing a recipient's socket

`BroadcastSpawnsForNewSession` and `BroadcastEntityDespawn` run on every
session's own `ControlWorker` and write to the sockets of the others, so
any number of `SendEntitySpawn`/`SendEntityDespawn` calls can be inside
`SendAll` on one socket at once. No lock covers a whole `SendAll`, only
the single `send` is atomic: this is `SharedStream.system` over the
messages of the control connection.

`sendLoop_simulated` ties the actions to the loop of `SendAll`.
-/

namespace NetworkControl

open Framing SharedStream

abbrev SocketState := SharedStream.State ServerMessage UInt8

abbrev SocketAction := SharedStream.Action ServerMessage

/-- Every interleaving of the workers' `send` calls on one socket. -/
def sharedSocket : Lts SocketState SocketAction :=
  SharedStream.system ServerMessage.bytes

/-- An iteration of `SendAll`'s loop is one `send` action: it appends the
same bytes and leaves the call with the same `current`. -/
theorem sendLoop_simulated {s : SocketState} {sink sink' : Sink UInt8}
    {n k : Nat} {m : ServerMessage} {current : List UInt8}
    (hwritten : sink.written = s.written)
    (hcall : s.calls[n]? = some ⟨m, current⟩) (hne : current ≠ [])
    (halive : sink.Alive) (hsend : sink.send current = (some k, sink')) :
    ∃ t, sharedSocket.step s (.send n k) = some t
      ∧ t.written = sink'.written
      ∧ (current.drop k ≠ [] → t.calls[n]? = some ⟨m, current.drop k⟩)
      ∧ (current.drop k = [] → t.done = s.done ++ [m]) := by
  obtain ⟨j, t, hk, hpos, hle, happ, -⟩ := halive.send hne
  rw [hsend] at hk
  obtain ⟨hjk, rfl⟩ := Prod.mk.injEq .. |>.mp hk
  obtain rfl := Option.some.inj hjk
  have hlt := (List.getElem?_eq_some_iff.mp hcall).1
  rw [happ, hwritten]
  simp only [sharedSocket, SharedStream.system, SharedStream.step, hcall]
  rw [if_pos ⟨hpos, hle⟩]
  by_cases hall : k = current.length
  · subst hall
    rw [if_pos rfl, List.take_length, List.drop_length]
    exact ⟨_, rfl, rfl, fun h => absurd rfl h, fun _ => rfl⟩
  · rw [if_neg hall]
    have hmore : current.drop k ≠ [] := fun h =>
      hall (Nat.le_antisymm hle (List.drop_eq_nil_iff.mp h))
    exact ⟨_, rfl, rfl, fun _ => List.getElem?_set_self hlt,
      fun h => absurd h hmore⟩

/-- While a worker sends only when no other worker is partway, the stream
holds whole messages, the recipient decodes exactly the finished ones,
and when nobody is sending these are the messages sent. -/
theorem sharedSocket_whole {s : SocketState}
    (h : sharedSocket.ReachableUnder (Exclusive ServerMessage.bytes) s) :
    ∃ piece, s.written = s.done.flatMap ServerMessage.bytes ++ piece
      ∧ (∀ (host : Endian.ByteOrder) (world : EntityWorld)
          (recvCut : Nat → Nat),
          let after := (TcpMessageReceiver.receiveOne host)^[s.done.length]
            { entityWorld := world
              controlSocket := .receiving s.written recvCut }
          after.inLoop = true ∧ after.hasFailedUnexpectedly = false
            ∧ after.entityWorld
                = s.done.foldl EntityWorld.applyMessage world
            ∧ after.controlSocket.incoming.pending = piece)
      ∧ (piece = []
          ∨ ∃ call ∈ s.calls, piece ++ call.rest = call.message.bytes)
      ∧ (s.calls = [] → piece = [] ∧ s.done.Perm s.started) := by
  obtain ⟨piece, hwritten, hpiece⟩ := whole_of_exclusive h
  refine ⟨piece, hwritten, ?_, ?_, ?_⟩
  · intro host world recvCut
    obtain ⟨hready, hworld, hpend⟩ :=
      (TcpMessageReceiver.receiveOne_consumes host).iterate s.done
        { entityWorld := world
          controlSocket := .receiving s.written recvCut }
        piece ⟨rfl, rfl, rfl, rfl⟩ hwritten
    exact ⟨hready.inLoop, hready.notFailed, hworld, hpend⟩
  · rcases hpiece with ⟨hnil, -⟩ | ⟨n, call, hcall, heq, -⟩
    · exact Or.inl hnil
    · exact Or.inr ⟨call, List.mem_of_getElem? hcall, heq⟩
  · intro hquiet
    obtain ⟨hwhole, hperm⟩ := quiet_of_exclusive h hquiet
    rw [hwhole] at hwritten
    exact ⟨List.append_right_eq_self.mp hwritten.symm, hperm⟩

/-- A Despawn, and three bytes of the Spawn behind it. -/
def serialState : SocketState where
  written := [9, 0, 0, 0, 1, 8, 0, 0]
  calls := [⟨.entitySpawn { entityId := 2 },
    [0, 2, 0, 0, 0, 0, 0, 0, 0, 0, 0, 0, 0, 0, 0]⟩]
  started := [.entityDespawn ⟨1⟩, .entitySpawn { entityId := 2 }]
  done := [.entityDespawn ⟨1⟩]

theorem sharedSocket_whole_serial :
    ∃ piece, serialState.written
        = serialState.done.flatMap ServerMessage.bytes ++ piece
      ∧ ∃ call ∈ serialState.calls,
          piece ++ call.rest = call.message.bytes := by
  have hrun : sharedSocket.runUnder (Exclusive ServerMessage.bytes) {}
      [.start (.entityDespawn ⟨1⟩), .start (.entitySpawn { entityId := 2 }),
        .send 0 2, .send 0 3, .send 0 3] = some serialState := by
    decide +kernel
  obtain ⟨piece, hwritten, -, hpiece, -⟩ :=
    sharedSocket_whole ((Lts.ReachableUnder.init rfl).runUnder hrun)
  refine ⟨piece, hwritten, hpiece.resolve_left ?_⟩
  rintro rfl
  exact absurd hwritten (by decide)

/-- The first byte of any message of this direction. -/
theorem ServerMessage.bytes_head (m : ServerMessage) :
    ∃ tail, m.bytes = 8 :: tail ∨ m.bytes = 9 :: tail := by
  cases m with
  | entitySpawn payload => exact ⟨_, Or.inl rfl⟩
  | entityDespawn payload => exact ⟨_, Or.inr rfl⟩

/-- Two Despawns, the second worker's sent within the first one's: the
stream is not made of messages and the recipient fails on it. -/
theorem interleaved_not_whole :
    ∃ s, sharedSocket.run {}
        [.start (.entityDespawn ⟨1⟩), .start (.entityDespawn ⟨2⟩),
          .send 0 1, .send 1 5, .send 0 4] = some s
      ∧ s.calls = []
      ∧ (¬ ∃ ms : List ServerMessage,
          s.written = ms.flatMap ServerMessage.bytes)
      ∧ ((TcpMessageReceiver.receiveOne .little)^[2]
          { entityWorld := {}
            controlSocket := .receiving s.written fun _ => 0
            }).hasFailedUnexpectedly = true := by
  refine ⟨{
      written := [9, 9, 0, 0, 0] ++ [2, 0, 0, 0, 1]
      started := [.entityDespawn ⟨1⟩, .entityDespawn ⟨2⟩]
      done := [.entityDespawn ⟨2⟩, .entityDespawn ⟨1⟩] },
    by decide, rfl, ?_, by decide +kernel⟩
  rintro ⟨_ | ⟨m, ms⟩, hms⟩
  · cases hms
  · rw [List.flatMap_cons] at hms
    cases m with
    | entitySpawn payload => cases hms
    | entityDespawn payload =>
        obtain ⟨-, hrest⟩ := List.append_inj hms
          (by simp [ServerMessage.bytes, entityDespawnPayloadSize])
        rcases ms with _ | ⟨m, ms⟩
        · cases hrest
        · obtain ⟨tail, h | h⟩ := m.bytes_head
          · rw [List.flatMap_cons, h] at hrest
            cases hrest
          · rw [List.flatMap_cons, h] at hrest
            cases hrest

end NetworkControl
