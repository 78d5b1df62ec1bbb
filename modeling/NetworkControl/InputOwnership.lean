import NetworkControl.Codec
import NetworkControl.ControlInput

/-!
# Who may steer a session

What one datagram on the control input port can do to the server. The four
checks on its way (the tag and the length, the lookup of the entity id, the
registered endpoint, the sequence id) are each there in `Steers`, and a
datagram that changes anything has passed them all. Since no input changes
a registration, a session is the same after any number of datagrams as
after those among them that came from its own endpoint (`receiveAll_own`).
-/

namespace NetworkControl

open Endian FloatArith

/-- The bytes of a datagram that decodes. -/
theorem decodeControlInput_bytes {host : ByteOrder} {datagram : List UInt8}
    {payload : EntityControlInputPayload}
    (h : decodeControlInput host datagram = some payload) :
    datagram.head? = some MessageType.entityControlInput.toUInt8
      ∧ 16 ≤ datagram.tail.length
      ∧ datagram.tail.take 16 = entityControlInputBytes payload := by
  unfold decodeControlInput at h
  split at h
  · cases h
  rename_i buffer hbuffer
  have hsame : datagram = buffer := by
    unfold receiveFrom at hbuffer
    split at hbuffer
    · exact Option.some.inj hbuffer
    · cases hbuffer
  split at h
  · cases h
  rename_i hsome
  split at h
  · cases h
  rename_i type reader hheader
  split at h
  · cases h
  rename_i htype
  obtain ⟨⟨payload', reader'⟩, hread, rfl⟩ := Option.map_eq_some_iff.mp h
  obtain ⟨-, rfl, htag⟩ := tryDeserializeHeader_decodes.of_some hheader
  obtain ⟨hlength, -, hbytes⟩ :=
    (tryDeserializeEntityControlInput_decodes host).of_some hread
  rw [not_ne_iff.mp htype] at htag
  rw [hsame]
  cases buffer with
  | nil => exact absurd rfl hsome
  | cons byte rest =>
      obtain ⟨rfl, -⟩ := List.cons.inj htag
      exact ⟨rfl, hlength, hbytes.symm⟩

namespace TcpControlServer

section

variable {F : Type} [FloatArith F] {host : ByteOrder}
  {s t : TcpControlServer F} {sender : String × UInt16}
  {datagram : List UInt8} {n : Nat}

/-! ## One datagram -/

/-- A datagram that is an input for the session of `n`, from the endpoint
that is registered there, and newer than the last one applied. -/
structure Steers (s : TcpControlServer F) (sender : String × UInt16)
    (datagram : List UInt8) (n : Nat) (payload : EntityControlInputPayload) :
    Prop where
  tag : datagram.head? = some MessageType.entityControlInput.toUInt8
  length : 16 ≤ datagram.tail.length
  bytes : datagram.tail.take 16 = entityControlInputBytes payload
  found : s.getSession payload.entityId.toUInt64 = some n
  registered : (s.control n).session.udpIpAddress = sender.1
    ∧ (s.control n).session.udpPort = sender.2
  nonempty : sender.1 ≠ "" ∧ sender.2 ≠ 0
  newer : (s.control n).session.lastAppliedControlInputSequenceId
    < payload.sequenceId

omit [FloatArith F] in
theorem tryGetUdpEndpoint_eq_some {session : ClientSession F}
    (h : session.tryGetUdpEndpoint = some sender) :
    (session.udpIpAddress = sender.1 ∧ session.udpPort = sender.2)
      ∧ sender.1 ≠ "" ∧ sender.2 ≠ 0 := by
  unfold ClientSession.tryGetUdpEndpoint at h
  split at h
  · cases h
  · rename_i hregistered
    obtain rfl := Option.some.inj h
    refine ⟨⟨rfl, rfl⟩, ?_, ?_⟩
    · intro hempty
      exact hregistered (by simp [show session.udpIpAddress = "" from hempty])
    · intro hzero
      exact hregistered (by simp [show session.udpPort = 0 from hzero])

theorem applyInput_control_of_ne {m : Nat} (hne : n ≠ m)
    (payload : EntityControlInputPayload) :
    (s.applyInput m payload).control n = s.control n :=
  Function.update_of_ne hne _ _

theorem applyInput_control_self (payload : EntityControlInputPayload) :
    (s.applyInput n payload).control n
      = { s.control n with
          session := (s.control n).session.applyControlInput
            payload.sequenceId (ofBits payload.throttle)
            (ofBits payload.yaw) } :=
  Function.update_self _ _ _

/-- A datagram changes at most one session, and that one only in the
controls. -/
theorem receiveControlInput_steers
    (h : (s.receiveControlInput host sender datagram).control n
      ≠ s.control n) :
    ∃ payload, s.Steers sender datagram n payload
      ∧ (s.receiveControlInput host sender datagram).control n
        = { s.control n with
            session :=
              { (s.control n).session with
                throttle := clampToUnitRange (ofBits payload.throttle)
                yaw := clampToUnitRange (ofBits payload.yaw)
                lastAppliedControlInputSequenceId := payload.sequenceId } } := by
  rcases receiveControlInput_cases host s sender datagram with
    hdropped | ⟨payload, m, hdecode, hfound, hendpoint, happlied⟩
  · exact absurd (congrArg (fun s => s.control n) hdropped) h
  rw [happlied] at h ⊢
  have hn : n = m := by
    by_contra hne
    exact h (applyInput_control_of_ne hne payload)
  subst hn
  rw [applyInput_control_self] at h ⊢
  obtain ⟨htag, hlength, hbytes⟩ := decodeControlInput_bytes hdecode
  obtain ⟨hregistered, hnonempty⟩ := tryGetUdpEndpoint_eq_some hendpoint
  unfold ClientSession.applyControlInput at h ⊢
  split at h
  · exact absurd rfl h
  · rename_i hnewer
    rw [if_neg hnewer]
    exact ⟨payload, ⟨htag, hlength, hbytes, hfound, hregistered, hnonempty,
      UInt32.not_le.mp hnewer⟩, rfl⟩

theorem receiveControlInput_frame :
    s.receiveControlInput host sender datagram
      = { s with
          control := (s.receiveControlInput host sender datagram).control } := by
  rcases receiveControlInput_cases host s sender datagram with
    hdropped | ⟨payload, m, -, -, -, happlied⟩
  · rw [hdropped]
  · rw [happlied]
    rfl

/-! ## Any number of datagrams -/

omit [FloatArith F] in
def endpoint (s : TcpControlServer F) (n : Nat) : Option (String × UInt16) :=
  (s.control n).session.tryGetUdpEndpoint

/-- Anything about a session but its controls stays as it is. -/
theorem receiveControlInput_keeps {β : Type} (view : ClientSession F → β)
    (hview : ∀ session throttle yaw sequenceId,
      view { session with
        lastAppliedControlInputSequenceId := sequenceId
        throttle, yaw } = view session) (n : Nat) :
    view ((s.receiveControlInput host sender datagram).control n).session
      = view (s.control n).session := by
  by_cases h : (s.receiveControlInput host sender datagram).control n
      = s.control n
  · rw [h]
  · obtain ⟨payload, -, hcontrol⟩ := receiveControlInput_steers h
    rw [hcontrol]
    exact hview _ _ _ _

theorem receiveControlInput_endpoint (n : Nat) :
    (s.receiveControlInput host sender datagram).endpoint n = s.endpoint n :=
  receiveControlInput_keeps ClientSession.tryGetUdpEndpoint
    (fun _ _ _ _ => rfl) n

theorem receiveControlInput_getSession (id : UInt64) :
    (s.receiveControlInput host sender datagram).getSession id
      = s.getSession id := by
  have hids : ∀ n, (s.receiveControlInput host sender datagram).sessionId n
      = s.sessionId n :=
    receiveControlInput_keeps ClientSession.sessionId fun _ _ _ _ => rfl
  unfold getSession
  rw [receiveControlInput_frame]
  simp only [← receiveControlInput_frame, hids]

/-- From another address nothing reaches the session. -/
theorem receiveControlInput_foreign (h : s.endpoint n ≠ some sender) :
    (s.receiveControlInput host sender datagram).control n = s.control n := by
  rcases receiveControlInput_cases host s sender datagram with
    hdropped | ⟨payload, m, -, -, hendpoint, happlied⟩
  · rw [hdropped]
  · rw [happlied]
    refine applyInput_control_of_ne ?_ payload
    rintro rfl
    exact h hendpoint

theorem receiveControlInput_found_eq {m : Nat}
    {payload : EntityControlInputPayload}
    (hdecode : decodeControlInput host datagram = some payload)
    (hfound : s.getSession payload.entityId.toUInt64 = some m) :
    s.receiveControlInput host sender datagram
      = if s.endpoint m = some sender then s.applyInput m payload else s := by
  unfold receiveControlInput
  rw [hdecode]
  dsimp only
  rw [hfound]
  dsimp only
  unfold endpoint
  cases (s.control m).session.tryGetUdpEndpoint with
  | none => rfl
  | some registered =>
      by_cases hsender : registered = sender
      · subst hsender
        simp
      · rw [if_neg fun hsome => hsender (Option.some.inj hsome)]
        refine if_pos ?_
        by_contra hboth
        obtain ⟨hip, hport⟩ := not_or.mp hboth
        exact hsender (Prod.ext (not_ne_iff.mp hip) (not_ne_iff.mp hport))

/-- What becomes of one session depends on that session and the lookup. -/
theorem receiveControlInput_control (n : Nat) :
    (s.receiveControlInput host sender datagram).control n
      = (decodeControlInput host datagram).elim (s.control n) fun payload =>
          if s.getSession payload.entityId.toUInt64 = some n
              ∧ s.endpoint n = some sender then
            { s.control n with
              session := (s.control n).session.applyControlInput
                payload.sequenceId (ofBits payload.throttle)
                (ofBits payload.yaw) }
          else s.control n := by
  cases hdecode : decodeControlInput host datagram with
  | none =>
      rw [receiveControlInput, hdecode]
      rfl
  | some payload =>
      rw [Option.elim_some]
      cases hfound : s.getSession payload.entityId.toUInt64 with
      | none =>
          rw [receiveControlInput, hdecode, if_neg fun hboth => by cases hboth.1]
          dsimp only
          rw [hfound]
      | some m =>
          rw [receiveControlInput_found_eq hdecode hfound]
          by_cases hsender : s.endpoint m = some sender
          · rw [if_pos hsender]
            by_cases hn : m = n
            · subst hn
              rw [if_pos ⟨rfl, hsender⟩, applyInput_control_self]
            · rw [if_neg fun hboth => hn (Option.some.inj hboth.1)]
              exact applyInput_control_of_ne (Ne.symm hn) payload
          · rw [if_neg hsender, if_neg]
            rintro ⟨hn, hsame⟩
            obtain rfl := Option.some.inj hn
            exact hsender hsame

/-- The receive loop over some datagrams and where each came from. -/
def receiveAll (host : ByteOrder) (s : TcpControlServer F)
    (datagrams : List ((String × UInt16) × List UInt8)) :
    TcpControlServer F :=
  datagrams.foldl (fun s d => s.receiveControlInput host d.1 d.2) s

/-- Two servers that look the same to the session of `n`. -/
structure Alike (n : Nat) (s t : TcpControlServer F) : Prop where
  control : s.control n = t.control n
  getSession : ∀ id, s.getSession id = t.getSession id

theorem Alike.receive (h : Alike n s t) :
    Alike n (s.receiveControlInput host sender datagram)
      (t.receiveControlInput host sender datagram) where
  getSession id := by
    rw [receiveControlInput_getSession, receiveControlInput_getSession]
    exact h.getSession id
  control := by
    rw [receiveControlInput_control, receiveControlInput_control]
    unfold endpoint
    simp only [h.control, h.getSession]

theorem Alike.receive_foreign (h : Alike n s t)
    (hforeign : s.endpoint n ≠ some sender) :
    Alike n (s.receiveControlInput host sender datagram) t where
  getSession id := by
    rw [receiveControlInput_getSession]
    exact h.getSession id
  control := (receiveControlInput_foreign hforeign).trans h.control

/-- The datagrams from the endpoint of the session of `n`. -/
def ownDatagrams (s : TcpControlServer F) (n : Nat)
    (datagrams : List ((String × UInt16) × List UInt8)) :
    List ((String × UInt16) × List UInt8) :=
  datagrams.filter fun d => s.endpoint n = some d.1

theorem Alike.receiveAll (n : Nat)
    (datagrams : List ((String × UInt16) × List UInt8)) :
    ∀ s t : TcpControlServer F, Alike n s t →
      Alike n (receiveAll host s datagrams)
        (receiveAll host t (s.ownDatagrams n datagrams)) := by
  induction datagrams with
  | nil => exact fun s t h => h
  | cons d datagrams ih =>
      intro s t h
      have hrest : (s.receiveControlInput host d.1 d.2).ownDatagrams n
          datagrams = s.ownDatagrams n datagrams := by
        unfold ownDatagrams
        rw [receiveControlInput_endpoint]
      by_cases hown : s.endpoint n = some d.1
      · have hcons : s.ownDatagrams n (d :: datagrams)
            = d :: s.ownDatagrams n datagrams :=
          List.filter_cons_of_pos (decide_eq_true hown)
        rw [hcons, ← hrest]
        exact ih _ _ h.receive
      · have hcons : s.ownDatagrams n (d :: datagrams)
            = s.ownDatagrams n datagrams :=
          List.filter_cons_of_neg (by simpa using hown)
        rw [hcons, ← hrest]
        exact ih _ _ (h.receive_foreign hown)

/-- A session is steered by the datagrams of its own endpoint only: the
others among them make no difference to it. -/
theorem receiveAll_own (s : TcpControlServer F) (n : Nat)
    (datagrams : List ((String × UInt16) × List UInt8)) :
    (receiveAll host s datagrams).control n
      = (receiveAll host s (s.ownDatagrams n datagrams)).control n :=
  (Alike.receiveAll n datagrams s s ⟨rfl, fun _ => rfl⟩).control

/-- A datagram changes nothing but the controls of the session it names,
and that only if it `Steers` it; no sequence of datagrams from elsewhere
changes a session. -/
theorem receiveControlInput_touches_owner (host : ByteOrder)
    (s : TcpControlServer F) (sender : String × UInt16)
    (datagram : List UInt8) :
    let after := s.receiveControlInput host sender datagram
    after = { s with control := after.control }
      ∧ (∀ n, after.control n ≠ s.control n →
          ∃ payload, s.Steers sender datagram n payload
            ∧ after.control n
              = { s.control n with
                  session :=
                    { (s.control n).session with
                      throttle := clampToUnitRange (ofBits payload.throttle)
                      yaw := clampToUnitRange (ofBits payload.yaw)
                      lastAppliedControlInputSequenceId :=
                        payload.sequenceId } })
      ∧ ∀ n (datagrams : List ((String × UInt16) × List UInt8)),
          (∀ d ∈ datagrams, s.endpoint n ≠ some d.1) →
            (receiveAll host s datagrams).control n = s.control n := by
  refine ⟨receiveControlInput_frame, fun n => receiveControlInput_steers, ?_⟩
  intro n datagrams hforeign
  have hnone : s.ownDatagrams n datagrams = [] :=
    List.filter_eq_nil_iff.mpr fun d hd => by
      simpa using hforeign d hd
  rw [receiveAll_own, hnone]
  rfl

end

/-- Two clients of one machine. -/
def twoClients : TcpControlServer ℚ where
  nextSessionId := 3
  sessions := [1, 2]
  control n :=
    { session :=
        { (ClientSession.new n.toUInt64 : ClientSession ℚ) with
          udpIpAddress := "127.0.0.1", udpPort := n.toUInt16 } }
  pc _ := .registered
  connected _ := true
  log _ := []

/-- The first one's input reaches it. -/
theorem receiveControlInput_touches_owner_first :
    ∃ datagram payload,
      twoClients.Steers ("127.0.0.1", 1) datagram 1 payload := by
  let input : ControlInput ℚ :=
    { entityId := 1, sequenceId := 4, throttle := 1, yaw := 0 }
  have hsteered : twoClients.receiveControlInput .little ("127.0.0.1", 1)
      (controlInputPacket .little input.payload)
        = twoClients.applyInput 1 input.payload :=
    receiveControlInput_packet .little .little input (by decide) (by decide)
  have hchanged : (twoClients.receiveControlInput .little ("127.0.0.1", 1)
      (controlInputPacket .little input.payload)).control 1
        ≠ twoClients.control 1 := by
    rw [hsteered, applyInput_control_self]
    intro hsame
    have hid := congrArg
      (fun c => c.session.lastAppliedControlInputSequenceId) hsame
    exact absurd hid (by decide)
  obtain ⟨payload, hsteers, -⟩ :=
    (receiveControlInput_touches_owner .little twoClients _ _).2.1 1 hchanged
  exact ⟨_, payload, hsteers⟩

end TcpControlServer

end NetworkControl
