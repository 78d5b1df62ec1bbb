import NetworkControl.StreamingService
import NetworkControl.TcpControlServer

/-!
# Gone is gone

One client, active throughout, with its two channels. The control stream
brings Spawns and Despawns in order, the datagrams bring states with any
delay, and both write to one `EntityWorld`: `onDespawn` only erases, while
`onState` creates whatever it does not find.

A packet in flight carries how many messages had been written to the
client when it was sent, which says on which side of a Despawn it was
sent. The batches are taken as decoded: `receiveDatagram_packet` is what
the bytes add.

The streaming worker's round is one step (`stream`), on the map and the
states as they are. Left out are the rounds in which a session plays when
the snapshot is taken or it is tested, and is stopped, removed or
withdrawn before the packet goes out; `StreamingWorker` has them.
-/

namespace NetworkControl

open Endian

/-! ## Who is in the world -/

namespace EntityWorld

/-- Every entry carries the id it is filed under. -/
def Keyed (w : EntityWorld) : Prop :=
  ∀ id, ∀ info ∈ w.entities.lookup id, info.entityId = id

theorem keyed_insert {w w' : EntityWorld} (hw : w.Keyed) {key : UInt32}
    {info : EntityInfo} (h : w'.entities = w.entities.insert key info)
    (hkey : info.entityId = key) : w'.Keyed := by
  intro id found hfound
  rw [h] at hfound
  by_cases hid : id = key
  · subst hid
    rw [AList.lookup_insert] at hfound
    rw [← Option.some.inj hfound]
    exact hkey
  · rw [AList.lookup_insert_ne hid] at hfound
    exact hw id found hfound

theorem onSpawn_entities (w : EntityWorld) (payload : EntitySpawnPayload) :
    (w.onSpawn payload).entities = w.entities.insert payload.entityId
      { w.entityAt payload.entityId with
        entityId := payload.entityId
        type := payload.type
        positionX := payload.positionX
        positionY := payload.positionY
        heading := payload.heading } := by
  unfold onSpawn
  split <;> rfl

theorem keyed_onState {w : EntityWorld} (hw : w.Keyed)
    (entry : EntityStateEntry) : (w.onState entry).Keyed :=
  keyed_insert hw rfl rfl

theorem keyed_applyMessage {w : EntityWorld} (hw : w.Keyed)
    (message : ServerMessage) : (w.applyMessage message).Keyed := by
  cases message with
  | entitySpawn payload =>
      exact keyed_insert hw (w.onSpawn_entities payload) rfl
  | entityDespawn payload =>
      intro id info hinfo
      simp only [applyMessage, onDespawn] at hinfo
      by_cases hid : id = payload.entityId
      · subst hid
        rw [AList.lookup_erase] at hinfo
        cases hinfo
      · rw [AList.lookup_erase_ne hid] at hinfo
        exact hw id info hinfo

/-- The ids in the snapshot are those of the map. -/
theorem mem_getSnapshot_iff {w : EntityWorld} (hw : w.Keyed) (id : UInt32) :
    id ∈ w.getSnapshot.map (·.entityId) ↔ id ∈ w.entities := by
  constructor
  · intro h
    obtain ⟨info, hinfo, rfl⟩ := List.mem_map.mp h
    obtain ⟨⟨key, info⟩, hentry, rfl⟩ := List.mem_map.mp hinfo
    have hlookup := AList.mem_lookup_iff.mpr hentry
    rw [hw key info hlookup]
    exact AList.mem_keys.mpr (List.mem_keys_of_mem hentry)
  · intro h
    obtain ⟨info, hlookup⟩ :=
      Option.isSome_iff_exists.mp (AList.lookup_isSome.mpr h)
    have hentry := AList.mem_lookup_iff.mp hlookup
    exact List.mem_map.mpr ⟨info, List.mem_map.mpr ⟨_, hentry, rfl⟩,
      hw id info hlookup⟩

/-- The entity id of a Despawn. -/
def despawnId : ServerMessage → Option UInt32
  | .entitySpawn _ => none
  | .entityDespawn payload => some payload.entityId

theorem mem_onState (w : EntityWorld) (entry : EntityStateEntry)
    (id : UInt32) : id ∈ (w.onState entry).entities
      ↔ id = entry.entityId ∨ id ∈ w.entities :=
  AList.mem_insert _

theorem mem_applyMessage (w : EntityWorld) (message : ServerMessage)
    (id : UInt32) : id ∈ (w.applyMessage message).entities
      ↔ spawnId message = some id
        ∨ despawnId message ≠ some id ∧ id ∈ w.entities := by
  cases message with
  | entitySpawn payload =>
      rw [applyMessage, onSpawn_entities, AList.mem_insert]
      simp [spawnId, despawnId, eq_comm]
  | entityDespawn payload =>
      rw [applyMessage, onDespawn, AList.mem_erase]
      simp [spawnId, despawnId, eq_comm]

end EntityWorld

/-! ## The client and its channels -/

/-- A packet on its way to the client. -/
structure InFlight where
  sentAfter : Nat
  batch : EntityStateBatchPayload
deriving DecidableEq

/-- `receiving` is the batch `UdpReceiver` is at, with the entries left;
`applied` counts the messages `TcpMessageReceiver` has applied. -/
structure Observer (F : Type) where
  server : TcpControlServer F
  inFlight : List InFlight := []
  receiving : Option (Nat × List EntityStateEntry) := none
  applied : Nat := 0
  world : EntityWorld := {}

/-- `stream` is the packet of one tick for this client: `order` is the
worker's snapshot. `receive` and `lose` name a packet by its place. -/
inductive ObserverAction (F : Type) where
  | server (a : ServerAction F)
  | stream (order : List Nat) (tickCount timestamp : UInt64)
  | lose (place : Nat)
  | receive (place : Nat)
  | onState
  | onMessage

namespace Observer

open EntityWorld

section

variable {F : Type} [FloatArith F] (clientIp : Nat → String)
  (inetPton : String → Option UInt32) (n : Nat)

/-- The worker collects who plays and sends to `n`. -/
def stream (o : Observer F) (order : List Nat)
    (tickCount timestamp : UInt64) : Option (Observer F) :=
  let session := (o.server.control n).session
  let entities :=
    collectEntries (order.map fun m => (o.server.control m).session)
  if order.Perm o.server.sessions ∧ n ∈ order ∧ entities ≠ [] then
    match recipientEndpoint inetPton tickCount session with
    | none => none
    | some _ =>
        let (sequenceId, session) := session.getNextSequenceId
        let control := { o.server.control n with session }
        let batch := { sequenceId, timestamp, entities }
        some { o with
          server := { o.server with
            control := Function.update o.server.control n control }
          inFlight := o.inFlight ++ [⟨(o.server.log n).length, batch⟩] }
  else none

/-- The next entry of the batch at hand, or the end of it. -/
def onState (o : Observer F) : Option (Observer F) :=
  match o.receiving with
  | none => none
  | some (_, []) => some { o with receiving := none }
  | some (sentAfter, entry :: entries) =>
      some { o with
        world := o.world.onState entry
        receiving := some (sentAfter, entries) }

def step (o : Observer F) : ObserverAction F → Option (Observer F)
  | .server a =>
      (o.server.step clientIp a).map fun server => { o with server }
  | .stream order tickCount timestamp =>
      o.stream inetPton n order tickCount timestamp
  | .lose place => some { o with inFlight := o.inFlight.eraseIdx place }
  | .receive place =>
      match o.receiving, o.inFlight[place]? with
      | none, some packet =>
          some { o with
            inFlight := o.inFlight.eraseIdx place
            receiving := some (packet.sentAfter, packet.batch.entities) }
      | _, _ => none
  | .onState => o.onState
  | .onMessage =>
      (o.server.messages n)[o.applied]?.map fun message =>
        { o with
          world := o.world.applyMessage message
          applied := o.applied + 1 }

def system : Lts (Observer F) (ObserverAction F) where
  init o := o = { server := .started }
  step := step clientIp inetPton n

end

section

variable {F : Type} (n : Nat) (o : Observer F)

/-- The entities whose Despawn was applied. -/
def despawned : List UInt32 :=
  ((o.server.messages n).take o.applied).filterMap despawnId

theorem mem_despawned_iff (id : UInt32) : id ∈ o.despawned n
    ↔ ∃ i payload, i < o.applied
      ∧ (o.server.messages n)[i]? = some (.entityDespawn payload)
      ∧ payload.entityId = id := by
  constructor
  · intro h
    obtain ⟨message, hmessage, hid⟩ := List.mem_filterMap.mp h
    obtain ⟨i, hi⟩ := List.mem_iff_getElem?.mp hmessage
    rw [List.getElem?_take] at hi
    split at hi
    · rename_i hlt
      cases message with
      | entitySpawn payload => cases hid
      | entityDespawn payload =>
          exact ⟨i, payload, hlt, hi, Option.some.inj hid⟩
    · cases hi
  · rintro ⟨i, payload, hlt, hi, rfl⟩
    refine List.mem_filterMap.mpr ⟨.entityDespawn payload, ?_, rfl⟩
    exact List.mem_of_getElem? ((List.getElem?_take_of_lt hlt).trans hi)

/-- Every packet sent before message `i` was delivered or lost. -/
def Settled (i : Nat) : Prop :=
  (∀ packet ∈ o.inFlight, i < packet.sentAfter)
    ∧ ∀ hand ∈ o.receiving, i < hand.1

/-- An entity whose Despawn was applied is not in the snapshot, once what
was sent before the Despawn has settled. -/
def Gone : Prop :=
  ∀ i payload, i < o.applied →
    (o.server.messages n)[i]? = some (.entityDespawn payload) →
    o.Settled i → payload.entityId ∉ o.world.getSnapshot.map (·.entityId)

/-- No state of an entity is handled whose Despawn was applied, and no
Spawn is written behind the Despawn. -/
def InTime : ObserverAction F → Prop
  | .onState => ∀ hand ∈ o.receiving, ∀ entry ∈ hand.2.head?,
      entry.entityId ∉ o.despawned n
  | .server (.next m) => ∀ send ∈ o.server.nextSpawn m, send.1 = n →
      o.server.connected n = true → o.server.entityId send.2
        ∉ (o.server.messages n).filterMap despawnId
  | _ => True

instance : (a : ObserverAction F) → Decidable (InTime n o a)
  | .onState => inferInstanceAs (Decidable (∀ hand ∈ o.receiving, _))
  | .server (.next m) =>
      inferInstanceAs (Decidable (∀ send ∈ o.server.nextSpawn m, _))
  | .server .accept | .server (.disconnect _) | .server (.process _ _)
  | .server (.leave _) | .server (.snapshot _ _)
  | .server (.udpThread _ _) | .stream _ _ _ | .lose _ | .receive _
  | .onMessage => .isTrue trivial

end

/-! ## The steps -/

section

variable {F : Type} [FloatArith F] {clientIp : Nat → String}
  {inetPton : String → Option UInt32} {n : Nat} {o p : Observer F}
  {a : ObserverAction F}

/-- On the control stream no Spawn follows the Despawn of its entity, and
nobody is in the world whose Despawn was applied. -/
structure Departed (n : Nat) (o : Observer F) : Prop where
  keyed : o.world.Keyed
  applied : o.applied ≤ (o.server.messages n).length
  ordered : (o.server.messages n).Pairwise fun before after =>
    ∀ id ∈ despawnId before, spawnId after ≠ some id
  absent : ∀ id ∈ o.despawned n, id ∉ o.world.entities

omit [FloatArith F] in
/-- Steps that write nothing and leave the world alone. -/
theorem Departed.frame (ho : o.Departed n)
    (hmessages : p.server.messages n = o.server.messages n)
    (happlied : p.applied = o.applied) (hworld : p.world = o.world) :
    p.Departed n := by
  refine ⟨?_, ?_, ?_, ?_⟩
  · rw [hworld]
    exact ho.keyed
  · rw [happlied, hmessages]
    exact ho.applied
  · rw [hmessages]
    exact ho.ordered
  · rw [despawned, hmessages, happlied, hworld]
    exact ho.absent

omit [FloatArith F] in
/-- The server writes a message that is no Spawn behind a Despawn. -/
theorem Departed.write (ho : o.Departed n) {server : TcpControlServer F}
    {written : Written}
    (hlog : server.log n = o.server.log n ++ [written])
    (hspawn : ∀ id ∈ (o.server.messages n).filterMap despawnId,
      spawnId written.message ≠ some id) : Departed n { o with server } := by
  have h : server.messages n = o.server.messages n ++ [written.message] := by
    rw [TcpControlServer.messages, hlog, List.map_append]
    rfl
  refine ⟨ho.keyed, ?_, ?_, ?_⟩
  · show o.applied ≤ (server.messages n).length
    rw [h, List.length_append]
    exact Nat.le_add_right_of_le ho.applied
  · show (server.messages n).Pairwise _
    rw [h, List.pairwise_append]
    refine ⟨ho.ordered, List.pairwise_singleton .., ?_⟩
    intro before hbefore after hafter id hid
    rw [List.mem_singleton.mp hafter]
    exact hspawn id (List.mem_filterMap.mpr ⟨before, hbefore, hid⟩)
  · show ∀ id ∈ ((server.messages n).take o.applied).filterMap despawnId, _
    rw [h, List.take_append_of_le_length ho.applied]
    exact ho.absent

theorem departed_server (ho : o.Departed n) {a : ServerAction F}
    {server : TcpControlServer F} (hok : o.InTime n (.server a))
    (h : o.server.step clientIp a = some server) :
    Departed n { o with server } := by
  have hmoves := TcpControlServer.moves_of_step clientIp h
  rcases hmoves.log_cases n with
    hsame | ⟨m, subject, rfl, hnext, hopen, hlog⟩ | ⟨m, _, -, hlog⟩
  · refine ho.frame ?_ rfl rfl
    show (server.log n).map _ = (o.server.log n).map _
    rw [hsame]
  · refine ho.write hlog fun id hid hspawn => ?_
    obtain rfl := Option.some.inj hspawn
    exact hok (n, subject) hnext rfl hopen hid
  · exact ho.write hlog fun _ _ hspawn => nomatch hspawn

theorem departed_stream (ho : o.Departed n) {order : List Nat}
    {tickCount timestamp : UInt64}
    (h : o.stream inetPton n order tickCount timestamp = some p) :
    p.Departed n := by
  simp only [stream] at h
  split at h
  · split at h
    · cases h
    · obtain rfl := Option.some.inj h
      exact ho.frame rfl rfl rfl
  · cases h

omit [FloatArith F] in
theorem departed_onState (ho : o.Departed n) (hok : o.InTime n .onState)
    (h : o.onState = some p) : p.Departed n := by
  unfold onState at h
  split at h
  · cases h
  · obtain rfl := Option.some.inj h
    exact ho.frame rfl rfl rfl
  · rename_i sentAfter entry entries hreceiving
    obtain rfl := Option.some.inj h
    refine ⟨keyed_onState ho.keyed entry, ho.applied, ho.ordered, ?_⟩
    intro id hid hmem
    have hlive : entry.entityId ∉ o.despawned n :=
      hok (sentAfter, entry :: entries) hreceiving entry rfl
    rcases (mem_onState o.world entry id).mp hmem with rfl | hold
    · exact hlive hid
    · exact ho.absent id hid hold

omit [FloatArith F] in
theorem departed_onMessage (ho : o.Departed n) {message : ServerMessage}
    (h : (o.server.messages n)[o.applied]? = some message) :
    Departed n { o with
      world := o.world.applyMessage message
      applied := o.applied + 1 } := by
  obtain ⟨hlt, hget⟩ := List.getElem?_eq_some_iff.mp h
  have htake : (o.server.messages n).take (o.applied + 1)
      = (o.server.messages n).take o.applied ++ [message] := by
    rw [List.take_add_one, h]
    rfl
  refine ⟨keyed_applyMessage ho.keyed message, hlt, ho.ordered, ?_⟩
  intro id hid hmem
  have hid : id ∈ ((o.server.messages n).take (o.applied + 1)).filterMap
      despawnId := hid
  rw [htake, List.filterMap_append] at hid
  rcases (mem_applyMessage o.world message id).mp hmem with
    hspawn | ⟨hdespawn, hold⟩
  · -- the Despawn would stand before this Spawn
    have hordered := ho.ordered
    rw [← List.take_append_drop (o.applied + 1) (o.server.messages n), htake,
      List.append_assoc, List.pairwise_append] at hordered
    rcases List.mem_append.mp hid with hbefore | hnow
    · obtain ⟨before, hbefore, hdespawn⟩ := List.mem_filterMap.mp hbefore
      exact hordered.2.2 before hbefore message (by simp) id hdespawn hspawn
    · cases message with
      | entitySpawn payload => simp [despawnId] at hnow
      | entityDespawn payload => cases hspawn
  · rcases List.mem_append.mp hid with hbefore | hnow
    · exact ho.absent id hbefore hold
    · refine hdespawn ?_
      simpa [List.mem_filterMap] using hnow

theorem departed_step (ho : o.Departed n) (hok : o.InTime n a)
    (h : o.step clientIp inetPton n a = some p) : p.Departed n := by
  cases a with
  | server a =>
      obtain ⟨server, hserver, rfl⟩ := Option.map_eq_some_iff.mp h
      exact departed_server ho hok hserver
  | stream order tickCount timestamp => exact departed_stream ho h
  | lose place =>
      obtain rfl := Option.some.inj h
      exact ho.frame rfl rfl rfl
  | receive place =>
      simp only [step] at h
      split at h
      · obtain rfl := Option.some.inj h
        exact ho.frame rfl rfl rfl
      · cases h
  | onState => exact departed_onState ho hok h
  | onMessage =>
      obtain ⟨message, hmessage, rfl⟩ := Option.map_eq_some_iff.mp h
      exact departed_onMessage ho hmessage

/-- In the runs that keep to `InTime` nobody comes back. -/
theorem gone_stays_gone
    (h : (system clientIp inetPton n).ReachableUnder (fun o a => o.InTime n a)
      o) : o.Gone n := by
  have hdeparted : o.Departed n := by
    refine h.invariant ?_ fun _ _ _ ho hok hstep => departed_step ho hok hstep
    rintro _ rfl
    exact ⟨fun _ _ hinfo => (nomatch hinfo), Nat.le_refl 0, .nil,
      fun _ hid => nomatch hid⟩
  intro i payload hi hdespawn _ hmem
  have hdespawned : payload.entityId ∈ o.despawned n :=
    (mem_despawned_iff n o _).mpr ⟨i, payload, hi, hdespawn, rfl⟩
  exact hdeparted.absent payload.entityId hdespawned
    ((mem_getSnapshot_iff hdeparted.keyed _).mp hmem)

omit [FloatArith F] in
/-- A state handled outside of `InTime` brings the entity back. -/
theorem onState_resurrects (ho : o.world.Keyed) {sentAfter : Nat}
    {entry : EntityStateEntry} {entries : List EntityStateEntry}
    (hreceiving : o.receiving = some (sentAfter, entry :: entries))
    (h : o.onState = some p) :
    entry.entityId ∈ p.world.getSnapshot.map (·.entityId) := by
  rw [onState, hreceiving] at h
  obtain rfl := Option.some.inj h
  refine (mem_getSnapshot_iff (keyed_onState ho entry) _).mpr ?_
  exact (mem_onState o.world entry entry.entityId).mpr (Or.inl rfl)

end

/-! ## Concrete runs -/

/-- What client 2 of a loopback server sees. -/
def loopbackObserver : Lts (Observer Float32) (ObserverAction Float32) :=
  system (fun _ => "127.0.0.1") loopback 2

/-- Clients 1 and 2 register and play. -/
def bothPlay : List (ObserverAction Float32) :=
  [[.accept], TcpControlServer.registerRun 1 [1], [.accept],
    TcpControlServer.registerRun 2 [1, 2],
    [.process 1 .play, .process 2 .play]].flatten.map .server

/-- The worker of client 1 ends and has written its Despawn to client 2. -/
def leaves : List (ObserverAction Float32) :=
  [.disconnect 1, .leave 1, .snapshot 1 [1, 2], .next 1].map .server

/-- And its session is taken out of the map. -/
def removed : List (ObserverAction Float32) :=
  [.next 1, .next 1].map .server

/-- Client 2 applies all three messages on its stream. -/
def readStream : List (ObserverAction Float32) :=
  List.replicate 3 .onMessage

/-- Client 2 takes the oldest packet and handles its two entries. -/
def readPacket : List (ObserverAction Float32) :=
  [.receive 0, .onState, .onState, .onState]

/-- The packet with both entities arrives before the Despawn does. -/
theorem gone_stays_gone_in_order :
    ∃ o : Observer Float32, o.despawned 2 = [1] ∧ o.inFlight = []
      ∧ o.world.getSnapshot.map (·.entityId) = [2] ∧ o.Gone 2 := by
  obtain ⟨o, ho, hp⟩ := Lts.exists_reachableUnder loopbackObserver
    (fun o a => o.InTime 2 a) rfl
    [bothPlay, [.stream [1, 2] 0 0], readPacket, leaves, removed,
      readStream].flatten
    (fun o => o.despawned 2 == [1] && o.inFlight == []
      && o.world.getSnapshot.map (·.entityId) == [2])
    (by decide +kernel)
  simp only [Bool.and_eq_true, beq_iff_eq] at hp
  exact ⟨o, hp.1.1, hp.1.2, hp.2, gone_stays_gone ho⟩

/-- A run after which nothing is on its way and an entity is back. -/
def Resurrects (run : List (ObserverAction Float32)) : Prop :=
  ∃ o, loopbackObserver.run { server := .started } run = some o
    ∧ o.inFlight = [] ∧ o.receiving = none
    ∧ o.applied = (o.server.messages 2).length ∧ ¬ o.Gone 2

theorem resurrects_of_run {run : List (ObserverAction Float32)}
    (h : ((loopbackObserver.run { server := .started } run).any fun o =>
      o.inFlight == [] && o.receiving.isNone
        && o.applied == (o.server.messages 2).length
        && (o.despawned 2).contains 1
        && (o.world.getSnapshot.map (·.entityId)).contains 1) = true) :
    Resurrects run := by
  obtain ⟨o, ho, hp⟩ := (Option.any_eq_true _ _).mp h
  simp only [Bool.and_eq_true, beq_iff_eq, Option.isNone_iff_eq_none,
    List.contains_iff_mem] at hp
  obtain ⟨⟨⟨⟨hflight, hhand⟩, hlength⟩, hdespawned⟩, hback⟩ := hp
  refine ⟨o, ho, hflight, hhand, hlength, fun hgone => ?_⟩
  obtain ⟨i, payload, hi, hdespawn, hid⟩ :=
    (mem_despawned_iff 2 o 1).mp hdespawned
  refine hgone i payload hi hdespawn ⟨?_, ?_⟩ (hid ▸ hback)
  · rw [hflight]
    exact fun _ h => nomatch h
  · rw [hhand]
    exact fun _ h => nomatch h

/-- The packet arrives behind the Despawn; a packet is sent between the
Despawn and `RemoveSession`; the Spawn of a stale snapshot is written
behind the Despawn. -/
theorem despawned_come_back :
    Resurrects ([bothPlay, [.stream [1, 2] 0 0], leaves, removed, readStream,
      readPacket].flatten)
    ∧ Resurrects ([bothPlay, leaves, [.stream [1, 2] 0 0], removed,
      readStream, readPacket].flatten)
    ∧ Resurrects ([([[.accept], TcpControlServer.registerRun 1 [1],
        [.accept, .process 2 (.registerUdpPort 6000), .snapshot 2 [1, 2]]
        ].flatten.map .server), leaves,
        [.next 2, .next 2, .next 2, .next 2].map .server,
        readStream].flatten) := by
  refine ⟨resurrects_of_run ?_, resurrects_of_run ?_, resurrects_of_run ?_⟩
  · decide +kernel
  · decide +kernel
  · decide +kernel

end Observer

end NetworkControl
