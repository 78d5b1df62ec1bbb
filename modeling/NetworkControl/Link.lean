import NetworkControl.GameClient
import NetworkControl.Lts

/-!
# One client and its session, thread by thread

The concurrency model behind the statistics: the client's command thread,
its `ReceiveWorker`, the server's `ControlWorker` and streaming worker of
one registered session, with a FIFO command channel and a datagram
channel between them. A command runs in the steps of its source
(`Command.steps`), `ReceiveWorker` in its three (receive and decode, test
`isActive_`, record), the streaming worker in its three (test the state,
take a number, `SendTo`).

The datagram channel may deliver out of order, lose and duplicate; a
result about orderly channels says so in the condition of its runs.

Fields below `server` are ghosts: how many `Reset`s and `Stop`s were sent
and processed, what each packet was sent after, and what was recorded
after which clearing. No step reads them.
-/

namespace NetworkControl

open Endian

/-! ## Commands step by step -/

/-- The steps other threads can run between. -/
inductive ClientStep where
  | setActive (active : Bool)
  | send
  | collectorPlay
  | collectorPause
  | clear
  | setExpectedDataRate (dataRate : DataRate)
deriving DecidableEq, Repr

/-- The order of the source, every send succeeding. -/
def Command.steps : Command → List ClientStep
  | .play => [.send, .setActive true, .collectorPlay]
  | .pause => [.send, .setActive false, .collectorPause]
  | .stop => [.setActive false, .send, .clear]
  | .reset => [.send, .clear]
  | .setRate dataRate => [.send, .setExpectedDataRate dataRate]

/-- What a step does to the receiver. -/
def ClientStep.apply (now : TimePoint) (r : UdpReceiver) :
    ClientStep → UdpReceiver
  | .setActive active => { r with isActive := active }
  | .send => r
  | .collectorPlay =>
      { r with metricsCollector := r.metricsCollector.onPlay now }
  | .collectorPause =>
      { r with metricsCollector := r.metricsCollector.onPause now }
  | .clear => r.resetMetrics
  | .setExpectedDataRate dataRate => r.setExpectedDataRate dataRate

/-- Run alone, the steps of a command are the command. -/
theorem Command.steps_apply (command : Command) (now : TimePoint)
    (r : UdpReceiver) :
    command.steps.foldl (fun r step => step.apply now r) r
      = command.finish (command.prepare r) now := by
  cases command <;> rfl

theorem Command.send_step {command : Command} {n : Nat}
    (h : command.steps[n]? = some .send) :
    n = if command = .stop then 1 else 0 := by
  rcases n with _ | _ | _ | n <;> cases command <;>
    simp [Command.steps] at h ⊢

theorem Command.clear_step {command : Command} {n : Nat}
    (h : command.steps[n]? = some .clear) :
    (command = .reset ∧ n = 1) ∨ (command = .stop ∧ n = 2) := by
  rcases n with _ | _ | _ | n <;> cases command <;>
    simp [Command.steps] at h ⊢

theorem Command.setActive_true_step {command : Command} {n : Nat}
    (h : command.steps[n]? = some (.setActive true)) :
    command = .play ∧ n = 1 := by
  rcases n with _ | _ | _ | n <;> cases command <;>
    simp [Command.steps] at h ⊢

/-- `Stop` clears `isActive_` before it sends, and then the statistics. -/
theorem Command.stop_step {n : Nat} {step : ClientStep}
    (h : Command.stop.steps[n]? = some step) :
    (n = 0 ∧ step = .setActive false) ∨ (n = 1 ∧ step = .send)
      ∨ (n = 2 ∧ step = .clear) := by
  rcases n with _ | _ | _ | n <;> simp [Command.steps] at h ⊢ <;>
    exact h.symm

/-! ## The state -/

/-- A datagram, with the `Reset`s the server had processed when it took
the number, and the `Stop`s when it sent it. -/
structure Packet where
  batch : EntityStateBatchPayload
  resets : Nat
  stops : Nat
deriving DecidableEq

/-- Where `ReceiveWorker` is in its iteration. -/
inductive WorkerPc where
  | waiting
  | decoded (packet : Packet)
  | passed (packet : Packet)
deriving DecidableEq

/-- The packet `ReceiveWorker` has taken off the channel. -/
def WorkerPc.hand : WorkerPc → List Packet
  | .waiting => []
  | .decoded packet => [packet]
  | .passed packet => [packet]

/-- Where the streaming worker is with its packet for the session: behind
the test of the state, or of `GetNextSequenceId`. -/
inductive SenderPc where
  | waiting
  | selected
  | numbered (packet : Packet)
deriving DecidableEq

/-- The packet that has a number and is not sent yet. -/
def SenderPc.pending : SenderPc → List Packet
  | .waiting => []
  | .selected => []
  | .numbered packet => [packet]

/-- A packet `OnPacketReceived` was called for, and how many `Stop`s had
cleared the statistics by then. -/
structure Recorded where
  packet : Packet
  stopsCleared : Nat
deriving DecidableEq

/-- `progress` is the command under way and how many of its steps are
done. -/
structure Link (F : Type) where
  receiver : UdpReceiver
  worker : WorkerPc := .waiting
  progress : Option (Command × Nat) := none
  channel : List ClientMessage := []
  flight : List Packet := []
  sender : SenderPc := .waiting
  server : Control F
  resetsSent : Nat := 0
  resetsProcessed : Nat := 0
  stopsSent : Nat := 0
  stopsProcessed : Nat := 0
  stopsCleared : Nat := 0
  recorded : List Recorded := []

inductive LinkAction where
  | command (command : Command)
  | commandStep (now : TimePoint)
  | receive (n : Nat)
  | test
  | record (clock : UdpReceiver.Clock)
  | lose (n : Nat)
  | duplicate (n : Nat)
  | serverProcess
  | select
  | number (timestamp : UInt64) (entities : List EntityStateEntry)
  | sendPacket

/-- The datagram channel delivers in order, and everything once. -/
def Orderly : LinkAction → Prop
  | .receive n => n = 0
  | .lose _ => False
  | .duplicate _ => False
  | _ => True

instance : (a : LinkAction) → Decidable (Orderly a)
  | .receive _ => inferInstanceAs (Decidable (_ = _))
  | .lose _ => .isFalse id
  | .duplicate _ => .isFalse id
  | .command _ | .commandStep _ | .test | .record _ | .serverProcess
  | .select | .number _ _ | .sendPacket => .isTrue trivial

/-! ## The steps -/

/-- `1` for the condition, to count with. -/
def tally (p : Prop) [Decidable p] : Nat := if p then 1 else 0

/-- Whether `ReceiveWorker` gets a batch out of the datagram. -/
def deliverable (host : ByteOrder) (packet : Packet) : Bool :=
  (receiveDatagram host (entityStatePacket packet.batch)).isSome

theorem deliverable_iff (host : ByteOrder) (packet : Packet) :
    deliverable host packet = true ↔ packet.batch.entities.length ≤ 84 := by
  constructor
  · intro h
    by_contra hlarge
    rw [deliverable, receiveDatagram_oversized host (by omega)] at h
    cases h
  · intro h
    rw [deliverable, receiveDatagram_packet host h]
    rfl

namespace Link

section

variable {F : Type} [FloatArith F] (clientIp : String) (host : ByteOrder)
  (encodeDouble : ℚ → DoubleBits)

/-- The next step of the command under way. -/
def runStep (s : Link F) (command : Command) (now : TimePoint)
    (step : ClientStep) : Link F :=
  let s := { s with receiver := step.apply now s.receiver }
  match step with
  | .send =>
      { s with
        channel := s.channel ++ [command.message encodeDouble s.receiver now]
        resetsSent := s.resetsSent + tally (command = .reset)
        stopsSent := s.stopsSent + tally (command = .stop) }
  | .clear =>
      { s with stopsCleared := s.stopsCleared + tally (command = .stop) }
  | _ => s

/-- The progress behind the `n`-th step. -/
def advance (command : Command) (n : Nat) : Option (Command × Nat) :=
  if n + 1 < command.steps.length then some (command, n + 1) else none

/-- `OnPacketReceived`, the end of the iteration. -/
def recordPacket (s : Link F) (clock : UdpReceiver.Clock)
    (packet : Packet) : Link F :=
  { s with
    receiver := (s.receiver.record clock packet.batch).1
    worker := .waiting
    recorded := s.recorded ++ [⟨packet, s.stopsCleared⟩] }

/-- `ControlWorker` handles the next message. -/
def process (s : Link F) (message : ClientMessage)
    (channel : List ClientMessage) : Link F :=
  { s with
    channel
    server := handleMessage clientIp s.server message
    resetsProcessed := s.resetsProcessed + tally (message = .reset)
    stopsProcessed := s.stopsProcessed + tally (message.isStop = true) }

/-- The streaming worker patches the next number into its packet. -/
def number (s : Link F) (timestamp : UInt64)
    (entities : List EntityStateEntry) : Link F :=
  let (sequenceId, session) := s.server.session.getNextSequenceId
  { s with
    server := { s.server with session }
    sender := .numbered {
      batch := { sequenceId, timestamp, entities }
      resets := s.resetsProcessed
      stops := s.stopsProcessed } }

/-- And sends it. -/
def sendPacket (s : Link F) (packet : Packet) : Link F :=
  { s with
    sender := .waiting
    flight := s.flight ++ [{ packet with stops := s.stopsProcessed }] }

def step (s : Link F) : LinkAction → Option (Link F)
  | .command command =>
      match s.progress with
      | some _ => none
      | none => some { s with progress := some (command, 0) }
  | .commandStep now =>
      match s.progress with
      | none => none
      | some (command, n) =>
          match command.steps[n]? with
          | none => none
          | some step =>
              some { s.runStep encodeDouble command now step with
                progress := advance command n }
  | .receive n =>
      match s.worker, s.flight[n]? with
      | .waiting, some packet =>
          some { s with
            worker :=
              if deliverable host packet then .decoded packet else .waiting
            flight := s.flight.eraseIdx n }
      | _, _ => none
  | .test =>
      match s.worker with
      | .decoded packet =>
          some { s with
            worker := if s.receiver.isActive then .passed packet
              else .waiting }
      | _ => none
  | .record clock =>
      match s.worker with
      | .passed packet => some (s.recordPacket clock packet)
      | _ => none
  | .lose n =>
      if n < s.flight.length then
        some { s with flight := s.flight.eraseIdx n }
      else none
  | .duplicate n =>
      match s.flight[n]? with
      | none => none
      | some packet => some { s with flight := s.flight ++ [packet] }
  | .serverProcess =>
      match s.channel with
      | [] => none
      | message :: channel => some (s.process clientIp message channel)
  | .select =>
      if s.server.session.state = .playing ∧ s.sender.pending = [] then
        some { s with sender := .selected }
      else none
  | .number timestamp entities =>
      if s.sender = .selected then some (s.number timestamp entities)
      else none
  | .sendPacket =>
      match s.sender with
      | .numbered packet => some (s.sendPacket packet)
      | _ => none

/-- What a step can do, one constructor for each case of `step`. -/
inductive Moves (s : Link F) : LinkAction → Link F → Prop where
  | command {command : Command} : s.progress = none →
      Moves s (.command command) { s with progress := some (command, 0) }
  | commandStep {command : Command} {n : Nat} {now : TimePoint}
      {step : ClientStep} : s.progress = some (command, n) →
      command.steps[n]? = some step →
      Moves s (.commandStep now)
        { s.runStep encodeDouble command now step with
          progress := advance command n }
  | receive {n : Nat} {packet : Packet} : s.worker = .waiting →
      s.flight[n]? = some packet → deliverable host packet = true →
      Moves s (.receive n) { s with
        worker := .decoded packet
        flight := s.flight.eraseIdx n }
  | drop {n : Nat} {packet : Packet} : s.worker = .waiting →
      s.flight[n]? = some packet → deliverable host packet = false →
      Moves s (.receive n) { s with
        worker := .waiting
        flight := s.flight.eraseIdx n }
  | pass {packet : Packet} : s.worker = .decoded packet →
      s.receiver.isActive = true →
      Moves s .test { s with worker := .passed packet }
  | discard {packet : Packet} : s.worker = .decoded packet →
      s.receiver.isActive = false →
      Moves s .test { s with worker := .waiting }
  | record {clock : UdpReceiver.Clock} {packet : Packet} :
      s.worker = .passed packet →
      Moves s (.record clock) (s.recordPacket clock packet)
  | lose {n : Nat} : Moves s (.lose n) { s with flight := s.flight.eraseIdx n }
  | duplicate {n : Nat} {packet : Packet} : s.flight[n]? = some packet →
      Moves s (.duplicate n) { s with flight := s.flight ++ [packet] }
  | serverProcess {message : ClientMessage} {channel : List ClientMessage} :
      s.channel = message :: channel →
      Moves s .serverProcess (s.process clientIp message channel)
  | select : s.server.session.state = .playing → s.sender.pending = [] →
      Moves s .select { s with sender := .selected }
  | number {timestamp : UInt64} {entities : List EntityStateEntry} :
      s.sender = .selected →
      Moves s (.number timestamp entities) (s.number timestamp entities)
  | sendPacket {packet : Packet} : s.sender = .numbered packet →
      Moves s .sendPacket (s.sendPacket packet)

theorem moves_of_step {s t : Link F} {a : LinkAction}
    (h : s.step clientIp host encodeDouble a = some t) :
    Moves clientIp host encodeDouble s a t := by
  cases a with
  | command command =>
      simp only [step] at h
      split at h
      · cases h
      · rename_i hidle
        obtain rfl := Option.some.inj h
        exact .command hidle
  | commandStep now =>
      simp only [step] at h
      split at h
      · cases h
      · rename_i command n hprogress
        split at h
        · cases h
        · rename_i step hstep
          obtain rfl := Option.some.inj h
          exact .commandStep hprogress hstep
  | receive n =>
      simp only [step] at h
      split at h
      · rename_i packet hworker hpacket
        obtain rfl := Option.some.inj h
        cases hdel : deliverable host packet with
        | true =>
            simp only [if_true]
            exact .receive hworker hpacket hdel
        | false =>
            simp only [Bool.false_eq_true, if_false]
            exact .drop hworker hpacket hdel
      · cases h
  | test =>
      simp only [step] at h
      split at h
      · rename_i packet hworker
        obtain rfl := Option.some.inj h
        cases hactive : s.receiver.isActive with
        | true =>
            simp only [if_true]
            exact .pass hworker hactive
        | false =>
            simp only [Bool.false_eq_true, if_false]
            exact .discard hworker hactive
      · cases h
  | record clock =>
      simp only [step] at h
      split at h
      · rename_i packet hworker
        obtain rfl := Option.some.inj h
        exact .record hworker
      · cases h
  | lose n =>
      simp only [step] at h
      split at h
      · obtain rfl := Option.some.inj h
        exact .lose
      · cases h
  | duplicate n =>
      simp only [step] at h
      split at h
      · cases h
      · rename_i packet hpacket
        obtain rfl := Option.some.inj h
        exact .duplicate hpacket
  | serverProcess =>
      simp only [step] at h
      split at h
      · cases h
      · rename_i message channel hchannel
        obtain rfl := Option.some.inj h
        exact .serverProcess hchannel
  | select =>
      simp only [step] at h
      split at h
      · rename_i hplaying
        obtain rfl := Option.some.inj h
        exact .select hplaying.1 hplaying.2
      · cases h
  | number timestamp entities =>
      simp only [step] at h
      split at h
      · rename_i hselected
        obtain rfl := Option.some.inj h
        exact .number hselected
      · cases h
  | sendPacket =>
      simp only [step] at h
      split at h
      · rename_i packet hnumbered
        obtain rfl := Option.some.inj h
        exact .sendPacket hnumbered
      · cases h

/-- The step the command thread takes next, and of which command. -/
def nextStep (s : Link F) : Option (Command × ClientStep) :=
  s.progress.bind fun (command, n) =>
    command.steps[n]?.map fun step => (command, step)

/-- Right after the handshake: registered, nothing sent yet. -/
def connected (sessionId : UInt64) (port : UInt16) : Link F where
  receiver := { isRunning := true, socketOpen := true }
  server := {
    session := (ClientSession.new sessionId).registerUdpEndpoint clientIp port
    isUdpEndpointRegistered := true }

def system : Lts (Link F) LinkAction where
  init s := ∃ sessionId port, port ≠ 0 ∧ s = connected clientIp sessionId port
  step := step clientIp host encodeDouble

end

/-! ## What the command thread leaves alone -/

section

variable {F : Type} (encodeDouble : ℚ → DoubleBits) (s : Link F)
  (command : Command) (now : TimePoint) (step : ClientStep)

@[simp] theorem runStep_worker :
    (s.runStep encodeDouble command now step).worker = s.worker := by
  cases step <;> rfl

@[simp] theorem runStep_flight :
    (s.runStep encodeDouble command now step).flight = s.flight := by
  cases step <;> rfl

@[simp] theorem runStep_sender :
    (s.runStep encodeDouble command now step).sender = s.sender := by
  cases step <;> rfl

@[simp] theorem runStep_server :
    (s.runStep encodeDouble command now step).server = s.server := by
  cases step <;> rfl

@[simp] theorem runStep_resetsProcessed :
    (s.runStep encodeDouble command now step).resetsProcessed
      = s.resetsProcessed := by
  cases step <;> rfl

@[simp] theorem runStep_recorded :
    (s.runStep encodeDouble command now step).recorded = s.recorded := by
  cases step <;> rfl

/-- Only a send reaches the channel. -/
theorem runStep_channel (h : step ≠ .send) :
    (s.runStep encodeDouble command now step).channel = s.channel
      ∧ (s.runStep encodeDouble command now step).resetsSent = s.resetsSent
      ∧ (s.runStep encodeDouble command now step).stopsSent = s.stopsSent := by
  cases step with
  | send => exact absurd rfl h
  | _ => exact ⟨rfl, rfl, rfl⟩

/-- `isActive_` is written by `OnPlay`, `OnPause` and `OnStop` alone. -/
theorem runStep_isActive (h : ∀ active, step ≠ .setActive active) :
    (s.runStep encodeDouble command now step).receiver.isActive
      = s.receiver.isActive := by
  cases step with
  | setActive active => exact absurd rfl (h active)
  | _ => rfl

theorem advance_eq_some {command c : Command} {n k : Nat}
    (h : advance command n = some (c, k)) : c = command ∧ k = n + 1 := by
  rw [advance] at h
  split at h
  · cases h
    exact ⟨rfl, rfl⟩
  · cases h

/-- Everything sent and not yet recorded or thrown away. -/
def underWay (s : Link F) : List Packet := s.worker.hand ++ s.flight

/-- Everything numbered and not yet recorded or thrown away. -/
def outstanding (s : Link F) : List Packet :=
  s.underWay ++ s.sender.pending

/-- The collector's part that the baseline and the losses are read off. -/
def received (s : Link F) : MetricsCollector.Received :=
  s.receiver.metricsCollector.received

/-- `nextSequenceId_`. -/
def sequence (s : Link F) : UInt64 := s.server.session.nextSequenceId

theorem runStep_received (hstep : step ≠ .clear) :
    (s.runStep encodeDouble command now step).received = s.received := by
  cases step with
  | clear => exact absurd rfl hstep
  | _ => simp [runStep, received, ClientStep.apply,
      UdpReceiver.setExpectedDataRate]

/-- A packet joins the others at the end, with the next number. -/
theorem number_outstanding (timestamp : UInt64)
    (entities : List EntityStateEntry) (h : s.sender = .selected) :
    ∃ packet : Packet, packet.batch.sequenceId = s.sequence + 1
      ∧ packet.resets = s.resetsProcessed
      ∧ (s.number timestamp entities).sender = .numbered packet
      ∧ (s.number timestamp entities).outstanding
        = s.outstanding ++ [packet] := by
  refine ⟨_, rfl, rfl, rfl, ?_⟩
  rw [outstanding, outstanding, h]
  exact congrArg (· ++ _) (List.append_nil _).symm

/-- The packet sent is the one that had its number. -/
theorem sendPacket_underWay (packet : Packet) :
    (s.sendPacket packet).underWay
      = s.underWay ++ [{ packet with stops := s.stopsProcessed }] :=
  (List.append_assoc _ _ _).symm

theorem sendPacket_outstanding {packet : Packet}
    (h : s.sender = .numbered packet) :
    (s.sendPacket packet).outstanding
        = s.underWay ++ [{ packet with stops := s.stopsProcessed }]
      ∧ s.outstanding = s.underWay ++ [packet] := by
  refine ⟨?_, ?_⟩
  · rw [outstanding, sendPacket_underWay]
    exact List.append_nil _
  · rw [outstanding, h]
    rfl

/-- Sending changes no number. -/
theorem sendPacket_ids {packet : Packet} (h : s.sender = .numbered packet) :
    (s.sendPacket packet).outstanding.map (·.batch.sequenceId)
      = s.outstanding.map (·.batch.sequenceId) := by
  obtain ⟨hafter, hbefore⟩ := s.sendPacket_outstanding h
  rw [hafter, hbefore, List.map_append, List.map_append]
  rfl

theorem recordPacket_outstanding (clock : UdpReceiver.Clock)
    {packet : Packet} (h : s.worker = .passed packet) :
    s.outstanding = packet :: (s.recordPacket clock packet).outstanding := by
  rw [outstanding, underWay, h]
  rfl

theorem recordPacket_received (clock : UdpReceiver.Clock) (packet : Packet) :
    (s.recordPacket clock packet).received
      = s.received.record packet.batch.sequenceId.toNat :=
  MetricsCollector.onPacketReceived_received _ _ _ _ _

end

section

variable {F : Type} [FloatArith F] {clientIp : String}

/-- The server's numbering only starts over with `Reset` and `Stop`. -/
theorem handleMessage_nextSequenceId (c : Control F) {m : ClientMessage}
    (hreset : m ≠ .reset) (hstop : m.isStop = false) :
    (handleMessage clientIp c m).session.nextSequenceId
      = c.session.nextSequenceId := by
  rcases handleMessage_session clientIp c m with hsame | hrun
  · rw [hsame]
  · rw [hrun]
    cases m with
    | reset => exact absurd rfl hreset
    | stop metrics => cases hstop
    | registerUdpPort port => rfl
    | play =>
        rw [ClientMessage.runOn, ClientSession.play]
        split <;> rfl
    | pause =>
        rw [ClientMessage.runOn, ClientSession.pause]
        split <;> rfl
    | setRate dataRateHz =>
        rw [ClientMessage.runOn, ClientSession.setRate]
        split
        · rfl
        · split <;> rfl

/-! ## Packets on the way to the collector -/

/-- Taking packets off the channel, testing and throwing them away, and
whatever the channel does to them: no new packet appears, and one gets
past the test only while `isActive` is set. -/
structure PacketMove (s : Link F) (worker : WorkerPc)
    (flight : List Packet) : Prop where
  subset : ∀ p ∈ worker.hand ++ flight, p ∈ s.underWay
  passed : ∀ p, worker = .passed p →
    s.worker = .passed p ∨ (s.receiver.isActive = true ∧ p ∈ s.underWay)

omit [FloatArith F] in
theorem PacketMove.outstanding {s : Link F} {worker : WorkerPc}
    {flight : List Packet} (h : PacketMove s worker flight) :
    ∀ p ∈ Link.outstanding { s with worker, flight }, p ∈ s.outstanding := by
  intro p hp
  rcases List.mem_append.mp hp with hway | hpending
  · exact List.mem_append_left _ (h.subset p hway)
  · exact List.mem_append_right _ hpending

omit [FloatArith F] in
theorem packetMove_receive {s : Link F} {n : Nat} {packet : Packet}
    (hpacket : s.flight[n]? = some packet) :
    PacketMove s (.decoded packet) (s.flight.eraseIdx n) := by
  refine ⟨fun p hp => ?_, fun p hp => nomatch hp⟩
  rcases List.mem_cons.mp hp with rfl | hp
  · exact List.mem_append_right _ (List.mem_of_getElem? hpacket)
  · exact List.mem_append_right _ (List.mem_of_mem_eraseIdx hp)

omit [FloatArith F] in
theorem packetMove_drop {s : Link F} {n : Nat} :
    PacketMove s .waiting (s.flight.eraseIdx n) :=
  ⟨fun _ hp => List.mem_append_right _ (List.mem_of_mem_eraseIdx hp),
    fun _ hp => nomatch hp⟩

omit [FloatArith F] in
theorem packetMove_pass {s : Link F} {packet : Packet}
    (hworker : s.worker = .decoded packet)
    (hactive : s.receiver.isActive = true) :
    PacketMove s (.passed packet) s.flight := by
  have hhand : s.underWay = packet :: s.flight := by
    rw [underWay, hworker]
    rfl
  refine ⟨fun p hp => by rw [hhand]; exact hp, fun p hp => ?_⟩
  cases hp
  exact Or.inr ⟨hactive, by rw [hhand]; exact List.mem_cons_self⟩

omit [FloatArith F] in
theorem packetMove_discard {s : Link F} : PacketMove s .waiting s.flight :=
  ⟨fun _ hp => List.mem_append_right _ hp, fun _ hp => nomatch hp⟩

omit [FloatArith F] in
theorem packetMove_lose {s : Link F} {n : Nat} :
    PacketMove s s.worker (s.flight.eraseIdx n) := by
  refine ⟨fun p hp => ?_, fun p hp => Or.inl hp⟩
  rcases List.mem_append.mp hp with hp | hp
  · exact List.mem_append_left _ hp
  · exact List.mem_append_right _ (List.mem_of_mem_eraseIdx hp)

omit [FloatArith F] in
theorem packetMove_duplicate {s : Link F} {n : Nat} {packet : Packet}
    (hpacket : s.flight[n]? = some packet) :
    PacketMove s s.worker (s.flight ++ [packet]) := by
  refine ⟨fun p hp => ?_, fun p hp => Or.inl hp⟩
  rcases List.mem_append.mp hp with hp | hp
  · exact List.mem_append_left _ hp
  · refine List.mem_append_right _ ?_
    rcases List.mem_append.mp hp with hp | hp
    · exact hp
    · obtain rfl := List.mem_singleton.mp hp
      exact List.mem_of_getElem? hpacket

variable {host : ByteOrder} {encodeDouble : ℚ → DoubleBits}

/-- The moves, with those of packets taken together. -/
theorem moves_cases {s t : Link F} {a : LinkAction}
    (h : Moves clientIp host encodeDouble s a t) :
    (∃ command, a = .command command ∧ s.progress = none
      ∧ t = { s with progress := some (command, 0) })
    ∨ (∃ command n now step, a = .commandStep now
      ∧ s.progress = some (command, n) ∧ command.steps[n]? = some step
      ∧ t = { s.runStep encodeDouble command now step with
          progress := advance command n })
    ∨ (∃ worker flight, PacketMove s worker flight
      ∧ t = { s with worker, flight })
    ∨ (∃ clock packet, a = .record clock ∧ s.worker = .passed packet
      ∧ t = s.recordPacket clock packet)
    ∨ (∃ message channel, a = .serverProcess ∧ s.channel = message :: channel
      ∧ t = s.process clientIp message channel)
    ∨ (a = .select ∧ s.sender.pending = []
      ∧ t = { s with sender := .selected })
    ∨ (∃ timestamp entities, a = .number timestamp entities
      ∧ s.sender = .selected ∧ t = s.number timestamp entities)
    ∨ ∃ packet, a = .sendPacket ∧ s.sender = .numbered packet
      ∧ t = s.sendPacket packet := by
  cases h with
  | command hidle => exact Or.inl ⟨_, rfl, hidle, rfl⟩
  | commandStep hprogress hstep =>
      exact Or.inr (Or.inl ⟨_, _, _, _, rfl, hprogress, hstep, rfl⟩)
  | receive hworker hpacket hdel =>
      exact Or.inr (Or.inr (Or.inl ⟨_, _, packetMove_receive hpacket, rfl⟩))
  | drop hworker hpacket hdel =>
      exact Or.inr (Or.inr (Or.inl ⟨_, _, packetMove_drop, rfl⟩))
  | pass hworker hactive =>
      exact Or.inr (Or.inr (Or.inl
        ⟨_, _, packetMove_pass hworker hactive, rfl⟩))
  | discard hworker hactive =>
      exact Or.inr (Or.inr (Or.inl ⟨_, _, packetMove_discard, rfl⟩))
  | record hworker =>
      exact Or.inr (Or.inr (Or.inr (Or.inl ⟨_, _, rfl, hworker, rfl⟩)))
  | lose => exact Or.inr (Or.inr (Or.inl ⟨_, _, packetMove_lose, rfl⟩))
  | duplicate hpacket =>
      exact Or.inr (Or.inr (Or.inl ⟨_, _, packetMove_duplicate hpacket, rfl⟩))
  | serverProcess hchannel =>
      exact Or.inr (Or.inr (Or.inr (Or.inr (Or.inl
        ⟨_, _, rfl, hchannel, rfl⟩))))
  | select hplaying hnone =>
      exact Or.inr (Or.inr (Or.inr (Or.inr (Or.inr (Or.inl
        ⟨rfl, hnone, rfl⟩)))))
  | number hselected =>
      exact Or.inr (Or.inr (Or.inr (Or.inr (Or.inr (Or.inr (Or.inl
        ⟨_, _, rfl, hselected, rfl⟩))))))
  | sendPacket hnumbered =>
      exact Or.inr (Or.inr (Or.inr (Or.inr (Or.inr (Or.inr (Or.inr
        ⟨_, rfl, hnumbered, rfl⟩))))))

end

/-! ## Concrete runs -/

/-- A whole command, its message not yet processed. -/
def commandRun (command : Command) : List LinkAction :=
  .command command :: List.replicate command.steps.length (.commandStep 0)

/-- `n` packets sent. -/
def sendRun (n : Nat) : List LinkAction :=
  (List.replicate n [.select, .number 0 [], .sendPacket]).flatten

/-- The next `n` packets received, in order, and recorded. -/
def recordRun (n : Nat) : List LinkAction :=
  (List.replicate n [.receive 0, .test, .record ⟨0, 0⟩]).flatten

/-- A client on the loopback address. -/
def loneSystem : Lts (Link Float32) LinkAction :=
  system "127.0.0.1" .little fun _ => 0

def loneLink : Link Float32 := connected "127.0.0.1" 1 6000

theorem loneSystem_init : loneSystem.init loneLink :=
  ⟨1, 6000, by decide, rfl⟩

end Link

/-- The only command that sends a `Stop`. -/
theorem Command.message_isStop (encodeDouble : ℚ → DoubleBits)
    (r : UdpReceiver) (now : TimePoint) (command : Command) :
    (command.message encodeDouble r now).isStop
      = decide (command = .stop) := by
  cases command <;> rfl

theorem Command.message_eq_reset (encodeDouble : ℚ → DoubleBits)
    (r : UdpReceiver) (now : TimePoint) (command : Command) :
    command.message encodeDouble r now = .reset ↔ command = .reset := by
  cases command <;> simp [Command.message]

end NetworkControl
