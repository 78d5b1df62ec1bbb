import NetworkControl.ControlThreads
import NetworkControl.EntityChannel
import NetworkControl.Feeding

/-!
# A control stream of any bytes

What the two receive loops of a control connection do when the other side
sends what it likes, or the connection breaks: `ControlWorker` with
`ProcessOneMessage`, and `TcpMessageReceiver::ReceiveWorker`. Each is a
`Framing.Reader` that is fed the stream byte by byte (`controlReader`,
`worldReader`), so that nothing depends on how `recv` cuts it, and every
stream that ends is read to its end or given up
(`any_stream_read`). Of the messages of a stream that breaks off, exactly
the whole ones have had their effect (`broken_stream_read`).
-/

namespace NetworkControl

open Endian Framing BinaryReader

/-! ## ControlWorker -/

section

variable {F : Type} [FloatArith F] (clientIp : String) (host : ByteOrder)

/-- `ProcessOneMessage`, a byte at a time. -/
def controlReader : Reader UInt8 (Control F) where
  size headerByte := payloadSize (headerType [headerByte])
  act c headerByte payloadBytes :=
    handleReceived clientIp host c (headerType [headerByte]) payloadBytes

theorem payloadSize_le (type : MessageType) :
    payloadSize type ≤ TcpSocket.intMax := by
  unfold payloadSize
  split <;> decide

/-- A whole message, of whatever type. -/
theorem processOneMessage_whole (c : Control F) {socket : TcpSocket}
    {headerByte : UInt8} {payloadBytes rest : List UInt8}
    (hvalid : socket.isValid = true)
    (hpending : socket.incoming.pending = headerByte :: (payloadBytes ++ rest))
    (hlength : payloadBytes.length = payloadSize (headerType [headerByte])) :
    ∃ incoming, incoming.pending = rest
      ∧ processOneMessage clientIp host c socket
        = ((handleReceived clientIp host c (headerType [headerByte])
              payloadBytes).1,
          (handleReceived clientIp host c (headerType [headerByte])
              payloadBytes).2, { socket with incoming }) := by
  obtain ⟨tail, htail, hheader⟩ := receiveAll_header hvalid hpending
  rw [processOneMessage_cut, hheader]
  dsimp only
  by_cases hsize : payloadSize (headerType [headerByte]) = 0
  · rw [hsize] at hlength
    obtain rfl := List.length_eq_zero_iff.mp hlength
    refine ⟨tail, htail, ?_⟩
    rw [if_pos hsize]
  · obtain ⟨incoming, hrest, hbody⟩ := receiveAll_payload
      { socket with incoming := tail } hvalid hlength
      (Nat.pos_of_ne_zero hsize) (payloadSize_le _) htail
    refine ⟨incoming, hrest, ?_⟩
    rw [if_neg hsize, hbody]

/-- A message that breaks off, or none. -/
theorem processOneMessage_short (c : Control F) {socket : TcpSocket}
    (hvalid : socket.isValid = true)
    (hshort : ∀ headerByte rest, socket.incoming.pending = headerByte :: rest →
      rest.length < payloadSize (headerType [headerByte])) :
    ∃ incoming, processOneMessage clientIp host c socket
      = (false, c, { socket with incoming }) := by
  rw [processOneMessage_cut]
  rcases hpending : socket.incoming.pending with _ | ⟨headerByte, rest⟩
  · obtain ⟨incoming, -, hnone⟩ := TcpSocket.receiveAll_short 1 hvalid
      (by decide) (by rw [hpending]; exact Nat.one_pos)
    refine ⟨incoming, ?_⟩
    rw [hnone]
  · obtain ⟨tail, htail, hheader⟩ := receiveAll_header hvalid hpending
    have hless := hshort headerByte rest hpending
    have hopen : TcpSocket.isValid { socket with incoming := tail } = true :=
      hvalid
    obtain ⟨incoming, -, hnone⟩ := TcpSocket.receiveAll_short _ hopen
      (payloadSize_le (headerType [headerByte])) (by rw [htail]; exact hless)
    refine ⟨incoming, ?_⟩
    rw [hheader]
    dsimp only
    rw [if_neg (Nat.ne_zero_of_lt hless), hnone]

namespace ControlLoop

theorem next_follows :
    Follows (controlReader clientIp host) (Ready (F := F)) (·.keep = false)
      (·.socket.incoming.pending) (·.control) (next clientIp host) where
  stays := by
    rintro w hended
    rw [next, hended]
    rfl
  atEnd := by
    rintro ⟨keep, control, socket⟩ ⟨rfl, hvalid⟩ hpending
    obtain ⟨incoming, hprocess⟩ := processOneMessage_short clientIp host
      control hvalid (by
        intro headerByte rest hcons
        rw [hcons] at hpending
        cases hpending)
    simp only [next, if_true, hprocess]
    exact ⟨trivial, trivial⟩
  short := by
    rintro ⟨keep, control, socket⟩ headerByte rest ⟨rfl, hvalid⟩ hpending hshort
    obtain ⟨incoming, hprocess⟩ := processOneMessage_short clientIp host
      control hvalid (by
        intro headerByte' rest' hcons
        obtain ⟨rfl, rfl⟩ := List.cons.inj (hcons.symm.trans hpending)
        exact hshort)
    simp only [next, if_true, hprocess]
    exact ⟨trivial, trivial⟩
  goesOn := by
    rintro ⟨keep, control, socket⟩ headerByte payloadBytes rest ⟨rfl, hvalid⟩
      hpending hlength hact
    obtain ⟨incoming, hrest, hprocess⟩ := processOneMessage_whole clientIp
      host control hvalid hpending hlength
    simp only [next, if_true, hprocess]
    exact ⟨⟨hact, hvalid⟩, rfl, hrest⟩
  givesUp := by
    rintro ⟨keep, control, socket⟩ headerByte payloadBytes rest ⟨rfl, hvalid⟩
      hpending hlength hact
    obtain ⟨incoming, -, hprocess⟩ := processOneMessage_whole clientIp
      host control hvalid hpending hlength
    simp only [next, if_true, hprocess]
    exact ⟨hact, rfl⟩

end ControlLoop

theorem controlReader_decodes :
    (controlReader (F := F) clientIp host).Decodes ClientMessage.bytes
      (handleMessage clientIp) := by
  intro c m
  cases m with
  | registerUdpPort port =>
      refine ⟨_, _, rfl, ?_, ?_⟩
      · simp only [controlReader, headerType_toUInt8]
        exact registerUdpPortBytes_length _
      · simp only [controlReader, headerType_toUInt8, handleReceived]
        rw [if_true, (tryDeserializeRegisterUdpPort_reads host _).parse]
        simp only [handleMessage]
        split <;> rfl
  | setRate dataRateHz =>
      refine ⟨_, _, rfl, ?_, ?_⟩
      · simp only [controlReader, headerType_toUInt8]
        exact setRateBytes_length _
      · simp only [controlReader, headerType_toUInt8, handleReceived]
        rw [if_neg (by decide), (tryDeserializeSetRate_reads host _).parse]
        cases hflag : c.isUdpEndpointRegistered <;>
          simp [handleMessage, Control.command, hflag]
  | stop metrics =>
      refine ⟨_, _, rfl, ?_, ?_⟩
      · simp only [controlReader, headerType_toUInt8]
        exact stopBytes_length _
      · simp only [controlReader, headerType_toUInt8, handleReceived]
        rw [if_neg (by decide), (tryDeserializeStop_reads host _).parse]
        cases hflag : c.isUdpEndpointRegistered <;>
          simp [handleMessage, Control.command, hflag]
  | play | pause | reset =>
      refine ⟨_, _, rfl, ?_, ?_⟩
      · simp only [controlReader, headerType_toUInt8]
        rfl
      · simp only [controlReader, headerType_toUInt8, handleReceived]
        cases hflag : c.isUdpEndpointRegistered <;>
          simp [handleMessage, Control.command, hflag]

end

/-! ## ReceiveWorker -/

section

variable (host : ByteOrder)

/-- Zero for a type this channel does not have. -/
def entityPayloadSize : MessageType → Nat
  | .entitySpawn => entitySpawnPayloadSize
  | .entityDespawn => entityDespawnPayloadSize
  | _ => 0

/-- `ReceiveWorker` behind its last `ReceiveAll`. -/
def applyReceived (world : EntityWorld) (type : MessageType)
    (payloadBytes : List UInt8) : Bool × EntityWorld :=
  match type with
  | .entitySpawn =>
      match parse (tryDeserializeEntitySpawn host) payloadBytes with
      | some payload => (true, world.onSpawn payload)
      | none => (true, world)
  | .entityDespawn =>
      match parse (tryDeserializeEntityDespawn host) payloadBytes with
      | some payload => (true, world.onDespawn payload)
      | none => (true, world)
  | _ => (false, world)

/-- `ReceiveWorker`, a byte at a time. -/
def worldReader : Reader UInt8 EntityWorld where
  size headerByte := entityPayloadSize (headerType [headerByte])
  act world headerByte payloadBytes :=
    applyReceived host world (headerType [headerByte]) payloadBytes

theorem applyReceived_unknown {type : MessageType}
    (htype : entityPayloadSize type = 0) (world : EntityWorld)
    (payloadBytes : List UInt8) :
    applyReceived host world type payloadBytes = (false, world) := by
  unfold applyReceived
  split
  · cases htype
  · cases htype
  · rfl

theorem applyReceived_known {type : MessageType}
    (htype : entityPayloadSize type ≠ 0) (world : EntityWorld)
    (payloadBytes : List UInt8) :
    (applyReceived host world type payloadBytes).1 = true := by
  cases type with
  | entitySpawn =>
      rw [applyReceived]
      split <;> rfl
  | entityDespawn =>
      rw [applyReceived]
      split <;> rfl
  | _ => exact absurd rfl htype

theorem entityPayloadSize_le (type : MessageType) :
    entityPayloadSize type ≤ TcpSocket.intMax := by
  unfold entityPayloadSize
  split <;> decide

namespace TcpMessageReceiver

/-- The two halves make up an iteration. -/
theorem receiveOne_cut {r : TcpMessageReceiver} (hloop : r.inLoop = true)
    (hrunning : r.isRunning = true) :
    r.receiveOne host
      = match r.controlSocket.receiveAll 1 with
        | (none, controlSocket) => { r with controlSocket }.fail
        | (some headerByte, controlSocket) =>
            let type := headerType headerByte
            if entityPayloadSize type = 0 then { r with controlSocket }.fail
            else
              match controlSocket.receiveAll (entityPayloadSize type) with
              | (none, controlSocket) => { r with controlSocket }.fail
              | (some payloadBytes, controlSocket) =>
                  { r with
                    controlSocket
                    entityWorld := (applyReceived host r.entityWorld type
                      payloadBytes).2 } := by
  rw [receiveOne, hloop, hrunning]
  rcases r.controlSocket.receiveAll 1 with ⟨_ | headerByte, socket⟩
  · rfl
  · simp only [Bool.not_true, Bool.false_eq_true, if_false]
    generalize headerType headerByte = type
    cases type with
    | entitySpawn =>
        have hpayload : entityPayloadSize .entitySpawn ≠ 0 := by decide
        rw [if_pos rfl, if_neg hpayload, entityPayloadSize]
        rcases socket.receiveAll entitySpawnPayloadSize with
          ⟨_ | payloadBytes, socket⟩
        · rfl
        · simp only [applyReceived]
          cases parse (tryDeserializeEntitySpawn host) payloadBytes <;> rfl
    | entityDespawn =>
        have hpayload : entityPayloadSize .entityDespawn ≠ 0 := by decide
        rw [if_neg (by decide), if_pos rfl, if_neg hpayload, entityPayloadSize]
        rcases socket.receiveAll entityDespawnPayloadSize with
          ⟨_ | payloadBytes, socket⟩
        · rfl
        · simp only [applyReceived]
          cases parse (tryDeserializeEntityDespawn host) payloadBytes <;> rfl
    | _ => rfl

/-- Out of its loop, with the failure reported. -/
def Failed (r : TcpMessageReceiver) : Prop :=
  r.inLoop = false ∧ r.hasFailedUnexpectedly = true

theorem fail_failed {r : TcpMessageReceiver} (hrunning : r.isRunning = true) :
    r.fail.Failed := by
  refine ⟨rfl, ?_⟩
  simp [fail, ReceiverThread.fail, hrunning]

/-- A message that breaks off. -/
theorem receiveOne_short {r : TcpMessageReceiver} (hr : r.Ready)
    {headerByte : UInt8} {rest : List UInt8}
    (hpending : r.controlSocket.incoming.pending = headerByte :: rest)
    (hshort : rest.length < entityPayloadSize (headerType [headerByte])) :
    ∃ controlSocket, r.receiveOne host = { r with controlSocket }.fail := by
  obtain ⟨tail, htail, hheader⟩ := receiveAll_header hr.isValid hpending
  have hopen : TcpSocket.isValid { r.controlSocket with incoming := tail }
      = true := hr.isValid
  obtain ⟨incoming, -, hnone⟩ := TcpSocket.receiveAll_short _ hopen
    (entityPayloadSize_le (headerType [headerByte]))
    (by rw [htail]; exact hshort)
  rw [receiveOne_cut host hr.inLoop hr.isRunning, hheader]
  dsimp only
  rw [if_neg (Nat.ne_zero_of_lt hshort), hnone]
  exact ⟨_, rfl⟩

/-- A type this channel does not have. -/
theorem receiveOne_unknown {r : TcpMessageReceiver} (hr : r.Ready)
    {headerByte : UInt8} {rest : List UInt8}
    (hpending : r.controlSocket.incoming.pending = headerByte :: rest)
    (htype : entityPayloadSize (headerType [headerByte]) = 0) :
    ∃ controlSocket, r.receiveOne host = { r with controlSocket }.fail := by
  obtain ⟨tail, -, hheader⟩ := receiveAll_header hr.isValid hpending
  rw [receiveOne_cut host hr.inLoop hr.isRunning, hheader]
  dsimp only
  rw [if_pos htype]
  exact ⟨_, rfl⟩

/-- A whole message: parsed or not, the next one starts behind it. -/
theorem receiveOne_whole {r : TcpMessageReceiver} (hr : r.Ready)
    {headerByte : UInt8} {payloadBytes rest : List UInt8}
    (hpending : r.controlSocket.incoming.pending
      = headerByte :: (payloadBytes ++ rest))
    (hlength : payloadBytes.length
      = entityPayloadSize (headerType [headerByte]))
    (htype : entityPayloadSize (headerType [headerByte]) ≠ 0) :
    ∃ incoming, incoming.pending = rest
      ∧ r.receiveOne host = { r with
          controlSocket := { r.controlSocket with incoming }
          entityWorld := (applyReceived host r.entityWorld
            (headerType [headerByte]) payloadBytes).2 } := by
  obtain ⟨tail, htail, hheader⟩ := receiveAll_header hr.isValid hpending
  obtain ⟨incoming, hrest, hbody⟩ := receiveAll_payload
    { r.controlSocket with incoming := tail } hr.isValid hlength
    (Nat.pos_of_ne_zero htype) (entityPayloadSize_le _) htail
  refine ⟨incoming, hrest, ?_⟩
  rw [receiveOne_cut host hr.inLoop hr.isRunning, hheader]
  dsimp only
  rw [if_neg htype, hbody]

theorem receiveOne_follows :
    Follows (worldReader host) Ready Failed
      (·.controlSocket.incoming.pending) (·.entityWorld)
      (receiveOne host) where
  stays := by
    rintro r ⟨hloop, -⟩
    rw [receiveOne, hloop]
    rfl
  atEnd := by
    intro r hr hpending
    obtain ⟨incoming, hnext⟩ := receiveOne_ended host hr hpending
    rw [hnext]
    exact ⟨⟨rfl, rfl⟩, rfl⟩
  short := by
    intro r headerByte rest hr hpending hshort
    obtain ⟨controlSocket, hnext⟩ := receiveOne_short host hr hpending hshort
    rw [hnext]
    exact ⟨fail_failed hr.isRunning, rfl⟩
  goesOn := by
    intro r headerByte payloadBytes rest hr hpending hlength hact
    have htype : entityPayloadSize (headerType [headerByte]) ≠ 0 := by
      intro hzero
      simp only [worldReader, applyReceived_unknown host hzero] at hact
      cases hact
    obtain ⟨incoming, hrest, hnext⟩ := receiveOne_whole host hr hpending
      hlength htype
    rw [hnext]
    exact ⟨⟨hr.isRunning, hr.inLoop, hr.notFailed, hr.isValid⟩, rfl, hrest⟩
  givesUp := by
    intro r headerByte payloadBytes rest hr hpending hlength hact
    have htype : entityPayloadSize (headerType [headerByte]) = 0 := by
      by_contra hne
      simp only [worldReader, applyReceived_known host hne] at hact
      cases hact
    obtain ⟨controlSocket, hnext⟩ := receiveOne_unknown host hr hpending htype
    rw [hnext]
    refine ⟨fail_failed hr.isRunning, ?_⟩
    simp only [worldReader, applyReceived_unknown host htype]
    rfl

end TcpMessageReceiver

theorem worldReader_decodes :
    (worldReader host).Decodes ServerMessage.bytes
      EntityWorld.applyMessage := by
  intro world m
  cases m with
  | entitySpawn payload =>
      refine ⟨_, _, rfl, ?_, ?_⟩
      · simp only [worldReader, headerType_toUInt8]
        exact entitySpawnBytes_length _
      · simp only [worldReader, headerType_toUInt8, applyReceived]
        rw [(tryDeserializeEntitySpawn_reads host _).parse]
        rfl
  | entityDespawn payload =>
      refine ⟨_, _, rfl, ?_, ?_⟩
      · simp only [worldReader, headerType_toUInt8]
        exact entityDespawnBytes_length _
      · simp only [worldReader, headerType_toUInt8, applyReceived]
        rw [(tryDeserializeEntityDespawn_reads host _).parse]
        rfl

end

/-! ## Both directions -/

section

variable {F : Type} [FloatArith F] (host : ByteOrder) {stream : List UInt8}
  (cut : Nat → Nat) {k : Nat}

theorem controlWorker_reads (clientIp : String) (c : Control F)
    (hk : stream.length < k) :
    let after := (ControlLoop.next clientIp host)^[k]
      { control := c, socket := .receiving stream cut }
    after.keep = false
      ∧ after.control
        = ((controlReader clientIp host).feedAll c stream).value :=
  have hready : ControlLoop.Ready
      { control := c, socket := .receiving stream cut } := ⟨rfl, rfl⟩
  (ControlLoop.next_follows clientIp host).ended hready hk

theorem receiveWorker_reads (world : EntityWorld) (hk : stream.length < k) :
    let after := (TcpMessageReceiver.receiveOne host)^[k]
      { entityWorld := world, controlSocket := .receiving stream cut }
    after.Failed
      ∧ after.entityWorld
        = ((worldReader host).feedAll world stream).value :=
  have hready : TcpMessageReceiver.Ready
      { entityWorld := world, controlSocket := .receiving stream cut } :=
    ⟨rfl, rfl, rfl, rfl⟩
  (TcpMessageReceiver.receiveOne_follows host).ended hready hk

/-- Whatever bytes a peer sends before its stream ends, and however they
arrive: after an iteration for each byte and one more, both loops have
ended, and what they have done is what the reader does with these bytes
one by one. The client has reported the failure. -/
theorem any_stream_read (clientIp : String) (c : Control F)
    (world : EntityWorld) (hk : stream.length < k) :
    let worker := (ControlLoop.next clientIp host)^[k]
      { control := c, socket := .receiving stream cut }
    let receiver := (TcpMessageReceiver.receiveOne host)^[k]
      { entityWorld := world, controlSocket := .receiving stream cut }
    (worker.keep = false
        ∧ worker.control
          = ((controlReader clientIp host).feedAll c stream).value)
      ∧ receiver.inLoop = false
      ∧ receiver.hasFailedUnexpectedly = true
      ∧ receiver.entityWorld
        = ((worldReader host).feedAll world stream).value := by
  obtain ⟨⟨hloop, hfailed⟩, hworld⟩ := receiveWorker_reads host cut world hk
  exact ⟨controlWorker_reads host cut clientIp c hk, hloop, hfailed, hworld⟩

end

/-- A session right after its `accept`. -/
def acceptedControl : Control Float32 := { session := .new 0 }

/-- Registered, playing, and then a Spawn: the server gives the connection
up, and never sees the last two bytes. -/
theorem any_stream_read_misplaced :
    (((ControlLoop.next "127.0.0.1" .little)^[8]
        { control := acceptedControl
          socket := .receiving [0, 0x1F, 0x90, 1, 8, 4, 4] fun _ => 0 }).keep
      = false)
    ∧ ((ControlLoop.next "127.0.0.1" .little)^[8]
        { control := acceptedControl
          socket := .receiving [0, 0x1F, 0x90, 1, 8, 4, 4] fun _ => 0
          }).control.calls
      = [.registerUdpEndpoint "127.0.0.1" 0x1F90, .broadcastSpawnsForNewSession,
        .play, .unexpectedMessageType .entitySpawn] := by
  have hread := any_stream_read .little (fun _ => 0) "127.0.0.1"
    acceptedControl {}
    (show ([0, 0x1F, 0x90, 1, 8, 4, 4] : List UInt8).length < 8 by decide)
  refine ⟨hread.1.1, ?_⟩
  rw [hread.1.2]
  decide +kernel

section

variable {F : Type} [FloatArith F] (host : ByteOrder) (cut : Nat → Nat)
  {count k : Nat}

/-- A connection that breaks after any byte: exactly the messages sent in
full have had their effect, and both loops have ended. -/
theorem broken_stream_read (clientIp : String) (c : Control F)
    (world : EntityWorld) (toServer : List ClientMessage)
    (toClient : List ServerMessage) (hk : count < k) :
    let worker := (ControlLoop.next clientIp host)^[k]
      { control := c
        socket := .receiving
          ((toServer.flatMap ClientMessage.bytes).take count) cut }
    let receiver := (TcpMessageReceiver.receiveOne host)^[k]
      { entityWorld := world
        controlSocket := .receiving
          ((toClient.flatMap ServerMessage.bytes).take count) cut }
    (worker.keep = false
        ∧ worker.control = (whole ClientMessage.bytes count toServer).foldl
            (handleMessage clientIp) c)
      ∧ receiver.inLoop = false
      ∧ receiver.hasFailedUnexpectedly = true
      ∧ receiver.entityWorld
        = (whole ServerMessage.bytes count toClient).foldl
            EntityWorld.applyMessage world := by
  have hshort : ∀ bytes : List UInt8, (bytes.take count).length < k :=
    fun bytes => (List.length_take_le _ _).trans_lt hk
  obtain ⟨⟨hloop, hfailed⟩, hworld⟩ :=
    receiveWorker_reads host cut world
      (hshort (toClient.flatMap ServerMessage.bytes))
  rw [(worldReader_decodes host).feedAll_take] at hworld
  obtain ⟨hkeep, hcontrol⟩ := controlWorker_reads host cut clientIp c
    (hshort (toServer.flatMap ClientMessage.bytes))
  rw [(controlReader_decodes clientIp host).feedAll_take] at hcontrol
  exact ⟨⟨hkeep, hcontrol⟩, hloop, hfailed, hworld⟩

end

/-- The twentieth byte is in the middle of the fifth command and of the
second Spawn. -/
theorem broken_stream_read_twenty :
    (((ControlLoop.next "127.0.0.1" .little)^[21]
        { control := acceptedControl
          socket := .receiving (([.registerUdpPort 8080, .setRate 30,
            .setRate 60, .setRate 30, .setRate 60] :
              List ClientMessage).flatMap ClientMessage.bytes |>.take 20)
            fun i => i }).control.session.dataRate = .hz30)
    ∧ ((TcpMessageReceiver.receiveOne .little)^[21]
        { entityWorld := {}
          controlSocket := .receiving (([.entitySpawn { entityId := 1 },
            .entitySpawn { entityId := 2 }] :
              List ServerMessage).flatMap ServerMessage.bytes |>.take 20)
            fun i => i }).entityWorld.getSnapshot.map (·.entityId)
      = [1] := by
  have hread := broken_stream_read .little (fun i => i) "127.0.0.1"
    acceptedControl {}
    [.registerUdpPort 8080, .setRate 30, .setRate 60, .setRate 30, .setRate 60]
    [.entitySpawn { entityId := 1 }, .entitySpawn { entityId := 2 }]
    (show 20 < 21 by decide)
  refine ⟨?_, ?_⟩
  · rw [hread.1.2]
    decide +kernel
  · rw [hread.2.2.2]
    decide +kernel

end NetworkControl
