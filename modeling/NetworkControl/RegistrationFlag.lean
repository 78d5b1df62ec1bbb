import NetworkControl.ControlChannel

/-!
# The registration flag and the endpoint

`ControlWorker` keeps `isUdpEndpointRegistered`, the session keeps the
endpoint. `ProcessOneMessage` obeys commands and `ControlWorker` announces
the Despawn by the flag; `UdpStreamingService` sends to the endpoint that
`TryGetUdpEndpoint` finds.

`RegisterUdpEndpoint` writes both, except for port 0: the flag is cleared
and the endpoint stays. `registration_agrees_iff` says that this is the
only way for the two to differ, over every byte stream.
-/

namespace NetworkControl

open Endian

section

variable {F : Type} (clientIp : String) (host : ByteOrder)

/-- The entities whose Despawn `ControlWorker` broadcasts once the session
has left its message loop. -/
def Control.despawnsAfterLoop (c : Control F) : List UInt32 :=
  if c.isUdpEndpointRegistered then [c.session.getEntityId] else []

/-- The flag says whether there is an endpoint to stream to; a session
that has one is obeyed and announces its end. -/
structure Control.Agrees (c : Control F) : Prop where
  flag : c.isUdpEndpointRegistered = true
    ↔ c.session.tryGetUdpEndpoint.isSome = true
  obeyed : c.session.tryGetUdpEndpoint.isSome = true →
    ∀ run, c.command run = run c
  announced : c.session.tryGetUdpEndpoint.isSome = true →
    c.despawnsAfterLoop = [c.session.getEntityId]

theorem Control.agrees_iff (c : Control F) :
    c.Agrees ↔ (c.isUdpEndpointRegistered = true
      ↔ c.session.tryGetUdpEndpoint.isSome = true) := by
  refine ⟨Agrees.flag, ?_⟩
  intro hflag
  refine ⟨hflag, ?_, ?_⟩
  · intro hendpoint run
    rw [command, if_pos (hflag.mpr hendpoint)]
  · intro hendpoint
    rw [despawnsAfterLoop, if_pos (hflag.mpr hendpoint)]

/-! ## What a message does to the two -/

/-- The port of the `RegisterUdpPort` that `ProcessOneMessage` would read
next, if that is the next message. -/
def incomingUdpPort (socket : TcpSocket) : Option UInt16 :=
  match socket.receiveAll 1 with
  | (none, _) => none
  | (some headerByte, socket) =>
      if headerType headerByte = .registerUdpPort then
        (socket.receiveAll registerUdpPortPayloadSize).1.bind
          fun payloadBytes =>
            (parse (tryDeserializeRegisterUdpPort host) payloadBytes).map
              (·.port)
      else none

/-- The flag and the endpoint. -/
def Control.registration (c : Control F) : Bool × String × UInt16 :=
  (c.isUdpEndpointRegistered, c.session.udpIpAddress, c.session.udpPort)

def Control.register (c : Control F) : Option UInt16 → Control F
  | some port => registerUdpEndpoint clientIp c port
  | none => c

theorem Control.agrees_congr {c d : Control F}
    (h : c.registration = d.registration) : c.Agrees ↔ d.Agrees := by
  simp only [registration, Prod.mk.injEq] at h
  obtain ⟨hflag, hip, hport⟩ := h
  rw [agrees_iff, agrees_iff, ClientSession.tryGetUdpEndpoint,
    ClientSession.tryGetUdpEndpoint, hflag, hip, hport]

/-- A command leaves the endpoint as it is. -/
theorem Control.registration_call (c : Control F) (call : ServerCall)
    {session : ClientSession F}
    (hip : session.udpIpAddress = c.session.udpIpAddress)
    (hport : session.udpPort = c.session.udpPort) :
    (c.call call session).registration = c.registration := by
  rw [registration, registration, call_session, hip, hport]
  rfl

theorem ClientSession.play_endpoint (s : ClientSession F) :
    s.play.udpIpAddress = s.udpIpAddress ∧ s.play.udpPort = s.udpPort := by
  unfold play
  split <;> exact ⟨rfl, rfl⟩

theorem ClientSession.pause_endpoint (s : ClientSession F) :
    s.pause.udpIpAddress = s.udpIpAddress ∧ s.pause.udpPort = s.udpPort := by
  rw [pause]
  split <;> exact ⟨rfl, rfl⟩

theorem ClientSession.setRate_endpoint (s : ClientSession F)
    (dataRateHz : UInt32) :
    (s.setRate dataRateHz).udpIpAddress = s.udpIpAddress
      ∧ (s.setRate dataRateHz).udpPort = s.udpPort := by
  unfold setRate
  split
  · exact ⟨rfl, rfl⟩
  · split <;> exact ⟨rfl, rfl⟩

variable [FloatArith F]

/-- Only `RegisterUdpPort` writes the flag or the endpoint. -/
theorem processOneMessage_registration (c : Control F) (socket : TcpSocket) :
    (processOneMessage clientIp host c socket).2.1.registration
      = (c.register clientIp (incomingUdpPort host socket)).registration := by
  rw [processOneMessage, incomingUdpPort]
  rcases socket.receiveAll 1 with ⟨_ | headerByte, body⟩
  · rfl
  · dsimp only
    by_cases hregister : headerType headerByte = .registerUdpPort
    · rw [if_pos hregister, if_pos hregister]
      rcases body.receiveAll registerUdpPortPayloadSize with
        ⟨_ | payloadBytes, rest⟩
      · rfl
      · dsimp only [Option.bind_some]
        cases parse (tryDeserializeRegisterUdpPort host) payloadBytes with
        | none => rfl
        | some payload =>
            dsimp only [Option.map_some, Control.register]
            split <;> rfl
    · rw [if_neg hregister, if_neg hregister, Control.register]
      by_cases hrate : headerType headerByte = .setRate
      · rw [if_pos hrate]
        rcases body.receiveAll setRatePayloadSize with
          ⟨_ | payloadBytes, rest⟩
        · rfl
        · dsimp only
          split
          · rfl
          · cases parse (tryDeserializeSetRate host) payloadBytes with
            | none => rfl
            | some payload =>
                have hsame := c.session.setRate_endpoint payload.dataRateHz
                exact c.registration_call _ hsame.1 hsame.2
      rw [if_neg hrate]
      by_cases hstop : headerType headerByte = .stop
      · rw [if_pos hstop]
        rcases body.receiveAll stopPayloadSize with ⟨_ | payloadBytes, rest⟩
        · rfl
        · dsimp only
          split
          · rfl
          · cases parse (tryDeserializeStop host) payloadBytes with
            | none => rfl
            | some payload => rfl
      rw [if_neg hstop]
      split
      · rfl
      · split
        · have hsame := c.session.play_endpoint
          exact c.registration_call _ hsame.1 hsame.2
        · have hsame := c.session.pause_endpoint
          exact c.registration_call _ hsame.1 hsame.2
        · rfl
        · rfl

/-! ## Runs of the message loop -/

namespace ControlLoop

/-- The worker of a session just accepted. -/
def accepted (sessionId : UInt64) (socket : TcpSocket) : ControlLoop F where
  control := { session := ClientSession.new sessionId }
  socket

/-- The next message is `RegisterUdpPort(0)`, and there is an endpoint. -/
def Unregisters (w : ControlLoop F) : Prop :=
  w.keep = true ∧ w.control.session.tryGetUdpEndpoint.isSome = true
    ∧ incomingUdpPort host w.socket = some 0

instance (w : ControlLoop F) : Decidable (w.Unregisters host) :=
  inferInstanceAs (Decidable (_ ∧ _ ∧ _))

theorem next_registration {w : ControlLoop F} (hkeep : w.keep = true) :
    (w.next clientIp host).control.registration
      = (w.control.register clientIp
          (incomingUdpPort host w.socket)).registration := by
  rw [next, if_pos hkeep]
  exact processOneMessage_registration clientIp host w.control w.socket

theorem accepted_agrees (sessionId : UInt64) (socket : TcpSocket) :
    (accepted (F := F) sessionId socket).control.Agrees := by
  rw [Control.agrees_iff]
  simp [accepted, ClientSession.new, ClientSession.tryGetUdpEndpoint]

/-- A message keeps the two in agreement, unless it takes back the flag
of a session that has an endpoint. -/
theorem agrees_next_iff {clientIp : String} (hip : clientIp ≠ "")
    {w : ControlLoop F} (h : w.control.Agrees) :
    (w.next clientIp host).control.Agrees ↔ ¬ w.Unregisters host := by
  cases hkeep : w.keep with
  | false =>
      have hstay : w.next clientIp host = w := by
        rw [next, hkeep]
        rfl
      rw [hstay]
      refine iff_of_true h ?_
      rintro ⟨hrunning, -⟩
      rw [hkeep] at hrunning
      cases hrunning
  | true =>
      rw [Control.agrees_congr (next_registration clientIp host hkeep)]
      cases hport : incomingUdpPort host w.socket with
      | none =>
          refine iff_of_true h ?_
          rintro ⟨-, -, hzero⟩
          rw [hport] at hzero
          cases hzero
      | some port =>
          rw [Control.register, registerUdpEndpoint, Control.agrees_iff]
          by_cases hzero : port = 0
          · subst hzero
            rw [if_pos rfl]
            constructor
            · rintro hagrees ⟨-, hendpoint, -⟩
              cases hagrees.mpr hendpoint
            · intro hkept
              refine ⟨fun hflag => (by cases hflag), ?_⟩
              exact fun hendpoint => absurd ⟨hkeep, hendpoint, hport⟩ hkept
          · rw [if_neg hzero]
            refine iff_of_true (iff_of_true rfl ?_) ?_
            · show ((w.control.session.registerUdpEndpoint clientIp
                port).tryGetUdpEndpoint).isSome = true
              simp [ClientSession.tryGetUdpEndpoint,
                ClientSession.registerUdpEndpoint, hip, hzero]
            · rintro ⟨-, -, hport'⟩
              rw [hport] at hport'
              exact hzero (Option.some.inj hport')

/-- After each of `n` messages the flag and the endpoint agree if and only
if none of them is `RegisterUdpPort(0)` to a session with an endpoint. -/
theorem registration_agrees_iff {clientIp : String} (hip : clientIp ≠ "")
    (sessionId : UInt64) (socket : TcpSocket) (n : Nat) :
    (∀ k ≤ n, ((next clientIp host)^[k]
        (accepted (F := F) sessionId socket)).control.Agrees)
      ↔ ∀ k < n, ¬ ((next clientIp host)^[k]
        (accepted (F := F) sessionId socket)).Unregisters host := by
  induction n with
  | zero =>
      refine iff_of_true ?_ ?_
      · intro k hk
        obtain rfl := Nat.le_zero.mp hk
        exact accepted_agrees sessionId socket
      · exact fun k hk => absurd hk (Nat.not_lt_zero k)
  | succ n ih =>
      constructor
      · intro hall k hk
        have hnext := hall (k + 1) hk
        rw [Function.iterate_succ_apply'] at hnext
        exact (agrees_next_iff host hip (hall k hk.le)).mp hnext
      · intro hkept
        have hbefore := ih.mpr fun k hk => hkept k (Nat.lt_succ_of_lt hk)
        intro k hk
        rcases Nat.le_succ_iff.mp hk with hold | rfl
        · exact hbefore k hold
        · rw [Function.iterate_succ_apply',
            agrees_next_iff host hip (hbefore n le_rfl)]
          exact hkept n (Nat.lt_succ_self n)

end ControlLoop

end

namespace ControlLoop

/-- What a client sends, arriving byte by byte. -/
def acceptedWith (ms : List ClientMessage) : ControlLoop Float32 :=
  accepted 1 (.receiving (ms.flatMap ClientMessage.bytes) fun _ => 0)

/-- Two registrations and a command. -/
theorem registration_agrees_twice :
    ((next "127.0.0.1" .little)^[3] (acceptedWith
      [.registerUdpPort 6000, .play, .registerUdpPort 6001])).control.Agrees :=
  (registration_agrees_iff .little (by decide) 1 _ 3).mpr
    (by decide +kernel) 3 le_rfl

/-- After ports 6000 and 0 the session is still streamed to, but ignores
the `Play` that follows and will announce no Despawn. -/
theorem registration_disagrees :
    ∃ w, (next "127.0.0.1" .little)^[3] (acceptedWith
        [.registerUdpPort 6000, .registerUdpPort 0, .play]) = w
      ∧ w.keep = true
      ∧ w.control.session.tryGetUdpEndpoint = some ("127.0.0.1", 6000)
      ∧ w.control.isUdpEndpointRegistered = false
      ∧ ServerCall.commandIgnored ∈ w.control.calls
      ∧ w.control.despawnsAfterLoop = []
      ∧ ¬ w.control.Agrees := by
  refine ⟨_, rfl, ?_⟩
  rw [Control.agrees_iff]
  decide +kernel

end ControlLoop

end NetworkControl
