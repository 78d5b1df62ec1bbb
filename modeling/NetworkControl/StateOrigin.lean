import NetworkControl.StreamingWorker
import NetworkControl.WorldAgreement

/-!
# Nothing out of thin air

What a client draws went through the session's buffers, two sockets and
the network, which delays, reorders and loses; Spawns and states reach the
same map on different threads. `held_states_traced` says that nothing is
made up on the way: the pose of every entity in a client's world is the
pose one accepted session of that id had at one instant of the run, all of
it from the same instant, and its velocity is zero or the velocity that a
playing session of that id had at one instant. The session need not have
been in the map by then, nor in the state in which its entry was built.

The streaming worker runs access by access here, and `RemoveSession`
erases and stops in two steps. The states the server has been in are a
history variable.
-/

namespace NetworkControl

open FloatArith

section

variable {F : Type} [FloatArith F]

/-! ## Where a message comes from -/

/-- The Spawn an accepted session of this state announces itself with. -/
def TcpControlServer.SpawnOf (server : TcpControlServer F)
    (payload : EntitySpawnPayload) : Prop :=
  ∃ k < server.nextSessionId,
    payload = (server.control k).session.buildEntitySpawnPayload

/-- An accepted session of the entity's id was in this place. -/
def TcpControlServer.PoseOf (server : TcpControlServer F)
    (info : EntityInfo) : Prop :=
  ∃ k < server.nextSessionId, info.entityId = server.entityId k
    ∧ info.positionX = toBits (server.control k).session.positionX
    ∧ info.positionY = toBits (server.control k).session.positionY
    ∧ info.heading = toBits (server.control k).session.heading

/-- A session of the entity's id was playing at this speed. -/
def TcpControlServer.VelocityOf (server : TcpControlServer F)
    (info : EntityInfo) : Prop :=
  ∃ k < server.nextSessionId, info.entityId = server.entityId k
    ∧ (server.control k).session.state = .playing
    ∧ info.velocityX = toBits (server.control k).session.velocityX
    ∧ info.velocityY = toBits (server.control k).session.velocityY

/-- It is at rest on the server, or no velocity of it has come in. -/
def EntityInfo.AtRest (F : Type) [FloatArith F] (info : EntityInfo) : Prop :=
  info.velocityX = 0 ∧ info.velocityY = 0
    ∨ info.velocityX = toBits (ofRat 0 : F)
      ∧ info.velocityY = toBits (ofRat 0 : F)

/-- `states` are the states the server has been in. -/
structure EntityInfo.Traced (states : List (TcpControlServer F))
    (info : EntityInfo) : Prop where
  pose : ∃ server ∈ states, server.PoseOf info
  velocity : info.AtRest F ∨ ∃ server ∈ states, server.VelocityOf info

theorem EntityInfo.Traced.mono {states states' : List (TcpControlServer F)}
    {info : EntityInfo} (h : info.Traced states)
    (hstates : states ⊆ states') : info.Traced states' := by
  obtain ⟨⟨server, hserver, hpose⟩, hvelocity⟩ := h
  refine ⟨⟨server, hstates hserver, hpose⟩, ?_⟩
  rcases hvelocity with hzero | ⟨server, hserver, hvelocity⟩
  · exact Or.inl hzero
  · exact Or.inr ⟨server, hstates hserver, hvelocity⟩

/-! ## What is on its way, and what has arrived -/

namespace Observer

open EntityWorld TcpControlServer

/-- Everything on its way to the client, and in its world, is traced. -/
structure Recorded (n : Nat) (o : Observer F)
    (states : List (TcpControlServer F)) : Prop where
  server : o.server.Announcing
  spawns : ∀ payload, .entitySpawn payload ∈ o.server.messages n →
    ∃ server ∈ states, server.SpawnOf payload
  inFlight : ∀ packet ∈ o.inFlight, ∀ entry ∈ packet.batch.entities,
    EntryOf states entry
  receiving : ∀ hand ∈ o.receiving, ∀ entry ∈ hand.2, EntryOf states entry
  world : ∀ id, ∀ info ∈ o.world.entities.lookup id,
    info.entityId = id ∧ info.Traced states

variable {clientIp : Nat → String} {inetPton : String → Option UInt32}
  {n : Nat} {o p : Observer F} {a : ObserverAction F}
  {states states' : List (TcpControlServer F)}

theorem Recorded.mono (ho : o.Recorded n states)
    (hstates : states ⊆ states') : o.Recorded n states' := by
  have hfrom : ∀ {P : TcpControlServer F → Prop},
      (∃ server ∈ states, P server) → ∃ server ∈ states', P server :=
    fun ⟨server, hserver, h⟩ => ⟨server, hstates hserver, h⟩
  exact ⟨ho.server, fun payload h => hfrom (ho.spawns payload h),
    fun packet hp entry he => (ho.inFlight packet hp entry he).mono hstates,
    fun hand hh entry he => (ho.receiving hand hh entry he).mono hstates,
    fun id info hinfo => (ho.world id info hinfo).imp_right
      fun h => h.mono hstates⟩

/-- What the map says of an entity, or a default at rest. -/
theorem Recorded.velocityAt (ho : o.Recorded n states) (id : UInt32) :
    (o.world.entityAt id).AtRest F ∨ ∃ server ∈ states, server.VelocityOf
      { o.world.entityAt id with entityId := id } := by
  unfold entityAt
  cases hlookup : o.world.entities.lookup id with
  | none => exact Or.inl (Or.inl ⟨rfl, rfl⟩)
  | some info =>
      obtain ⟨hid, htraced⟩ := ho.world id info hlookup
      rcases htraced.velocity with hzero | ⟨server, hserver, hvelocity⟩
      · exact Or.inl hzero
      · refine Or.inr ⟨server, hserver, ?_⟩
        rw [← hid]
        exact hvelocity

/-- A new entry of the map that is traced. -/
theorem Recorded.insert (ho : o.Recorded n states) {w : EntityWorld}
    {key : UInt32} {info : EntityInfo}
    (hw : w.entities = o.world.entities.insert key info)
    (hkey : info.entityId = key) (hinfo : info.Traced states) :
    ∀ id, ∀ found ∈ w.entities.lookup id,
      found.entityId = id ∧ found.Traced states := by
  intro id found hfound
  rw [hw] at hfound
  by_cases hid : id = key
  · subst hid
    rw [AList.lookup_insert] at hfound
    obtain rfl := Option.some.inj hfound
    exact ⟨hkey, hinfo⟩
  · rw [AList.lookup_insert_ne hid] at hfound
    exact ho.world id found hfound

theorem Recorded.onState (ho : o.Recorded n states)
    {entry : EntityStateEntry} (hentry : EntryOf states entry) :
    ∀ id, ∀ info ∈ (o.world.onState entry).entities.lookup id,
      info.entityId = id ∧ info.Traced states := by
  obtain ⟨server, hserver, k, hk, rfl, hmoving⟩ := hentry
  refine ho.insert rfl rfl ⟨⟨server, hserver, k, hk, rfl, rfl, rfl, rfl⟩, ?_⟩
  rcases hmoving with hrest | ⟨earlier, hearlier, hlt, hid, hplaying, hsame⟩
  · obtain ⟨hx, hy⟩ := Prod.mk.inj hrest
    exact Or.inl (Or.inr ⟨congrArg toBits hx, congrArg toBits hy⟩)
  · obtain ⟨hx, hy⟩ := Prod.mk.inj hsame
    exact Or.inr ⟨earlier, hearlier, k, hlt, hid.symm, hplaying,
      congrArg toBits hx.symm, congrArg toBits hy.symm⟩

/-- A Spawn leaves the velocity as it was. -/
theorem Recorded.onSpawn (ho : o.Recorded n states)
    {payload : EntitySpawnPayload}
    (hspawn : ∃ server ∈ states, server.SpawnOf payload) :
    ∀ id, ∀ info ∈ (o.world.onSpawn payload).entities.lookup id,
      info.entityId = id ∧ info.Traced states := by
  obtain ⟨server, hserver, k, hlt, rfl⟩ := hspawn
  refine ho.insert (onSpawn_entities _ _) rfl ⟨⟨server, hserver, ?_⟩, ?_⟩
  · exact ⟨k, hlt, rfl, rfl, rfl, rfl⟩
  · rcases ho.velocityAt (server.entityId k) with
      hzero | ⟨earlier, hearlier, hvelocity⟩
    · exact Or.inl hzero
    · exact Or.inr ⟨earlier, hearlier, hvelocity⟩

omit [FloatArith F] in
theorem mem_onDespawn {w : EntityWorld} {payload : EntityDespawnPayload}
    {id : UInt32} {info : EntityInfo}
    (h : info ∈ (w.onDespawn payload).entities.lookup id) :
    info ∈ w.entities.lookup id := by
  unfold onDespawn at h
  by_cases hid : id = payload.entityId
  · rw [hid, AList.lookup_erase] at h
    cases h
  · rwa [AList.lookup_erase_ne hid] at h

/-! ## The steps -/

theorem recorded_server (ho : o.Recorded n (o.server :: states))
    {server : TcpControlServer F} {a : ServerAction F}
    (h : o.server.step clientIp a = some server) :
    Recorded n { o with server } (o.server :: states) := by
  refine ⟨announcing_step ho.server h, ?_, ho.inFlight, ho.receiving,
    ho.world⟩
  intro payload hpayload
  have hmoves := moves_of_step clientIp h
  have hold : .entitySpawn payload ∈ o.server.messages n →
      ∃ server ∈ o.server :: states, server.SpawnOf payload :=
    ho.spawns payload
  obtain ⟨⟨k, message⟩, hw, hmessage⟩ := List.mem_map.mp hpayload
  obtain rfl : message = .entitySpawn payload := hmessage
  rcases hmoves.log_cases n with
    hsame | ⟨m, subject, rfl, hnext, hopen, hlog⟩ | ⟨m, _, -, hlog⟩
  · have hw : _ ∈ server.log n := hw
    rw [hsame] at hw
    exact hold (List.mem_map.mpr ⟨_, hw, rfl⟩)
  · have hw : _ ∈ server.log n := hw
    rw [hlog] at hw
    rcases List.mem_append.mp hw with hbefore | hnew
    · exact hold (List.mem_map.mpr ⟨_, hbefore, rfl⟩)
    · obtain ⟨rfl, hspawn⟩ := Written.mk.inj (List.mem_singleton.mp hnew)
      obtain rfl := ServerMessage.entitySpawn.inj hspawn
      exact ⟨o.server, List.mem_cons_self .., k,
        (ho.server.nextSpawn_lt hnext).2, rfl⟩
  · have hw : _ ∈ server.log n := hw
    rw [hlog] at hw
    rcases List.mem_append.mp hw with hbefore | hnew
    · exact hold (List.mem_map.mpr ⟨_, hbefore, rfl⟩)
    · cases (Written.mk.inj (List.mem_singleton.mp hnew)).2

/-- Whatever the client and the server do but the packets of a tick. -/
theorem recorded_step (ho : o.Recorded n (o.server :: states))
    (ha : ∀ order tickCount timestamp, a ≠ .stream order tickCount timestamp)
    (h : o.step clientIp inetPton n a = some p) :
    p.Recorded n (o.server :: states) := by
  cases a with
  | server a =>
      obtain ⟨server, hserver, rfl⟩ := Option.map_eq_some_iff.mp h
      exact recorded_server ho hserver
  | stream order tickCount timestamp =>
      exact absurd rfl (ha order tickCount timestamp)
  | lose place =>
      obtain rfl := Option.some.inj h
      exact ⟨ho.server, ho.spawns, fun packet hpacket =>
        ho.inFlight packet (List.mem_of_mem_eraseIdx hpacket), ho.receiving,
        ho.world⟩
  | receive place =>
      simp only [step] at h
      split at h
      · rename_i packet hreceiving hpacket
        obtain rfl := Option.some.inj h
        refine ⟨ho.server, ho.spawns, fun other hother =>
          ho.inFlight other (List.mem_of_mem_eraseIdx hother), ?_, ho.world⟩
        intro hand hhand
        obtain rfl := Option.some.inj hhand
        exact ho.inFlight packet (List.mem_of_getElem? hpacket)
      · cases h
  | onState =>
      simp only [step, onState] at h
      split at h
      · cases h
      · obtain rfl := Option.some.inj h
        exact ⟨ho.server, ho.spawns, ho.inFlight,
          fun _ hhand => (by cases hhand), ho.world⟩
      · rename_i sentAfter entry entries hreceiving
        obtain rfl := Option.some.inj h
        have hhand := ho.receiving _ hreceiving
        refine ⟨ho.server, ho.spawns, ho.inFlight, fun hand heq => ?_,
          ho.onState (hhand entry (List.mem_cons_self ..))⟩
        obtain rfl := Option.some.inj heq
        exact fun e he => hhand e (List.mem_cons_of_mem _ he)
  | onMessage =>
      obtain ⟨message, hmessage, rfl⟩ := Option.map_eq_some_iff.mp h
      refine ⟨ho.server, ho.spawns, ho.inFlight, ho.receiving, ?_⟩
      cases message with
      | entitySpawn payload =>
          exact ho.onSpawn (ho.spawns payload (List.mem_of_getElem? hmessage))
      | entityDespawn payload =>
          exact fun id info hinfo => ho.world id info (mem_onDespawn hinfo)

end Observer

/-! ## The two halves of RemoveSession -/

namespace TcpControlServer

variable {s : TcpControlServer F} {m : Nat} {id : UInt64}

omit [FloatArith F] in
theorem Announcing.erase (hs : s.Announcing) (hpc : s.pc m = .removing) :
    ((s.eraseSession id).setPc m .done).Announcing := by
  have hcases : ∀ k pc, ((s.eraseSession id).setPc m .done).pc k = pc →
      k = m ∧ pc = .done ∨ s.pc k = pc := by
    intro k pc hk
    by_cases hkm : k = m
    · rw [hkm, setPc_self] at hk
      exact Or.inl ⟨hkm, hk.symm⟩
    · rw [setPc_of_ne _ _ _ _ hkm] at hk
      exact Or.inr hk
  refine ⟨⟨hs.numbered.id, fun k hk =>
    hs.numbered.accepted k (List.mem_of_mem_filter hk)⟩, ?_, ?_⟩
  · intro k hk
    rcases hcases k _ rfl with ⟨rfl, -⟩ | hold
    · exact hs.bound k (by simp [hpc])
    · exact hs.bound k (hold ▸ hk)
  · intro k sends hk
    rcases hcases k _ hk with ⟨-, hdone⟩ | hold
    · cases hdone
    · exact hs.sends k sends hold

omit [FloatArith F] in
theorem Announcing.stop (hs : s.Announcing) : (s.stopSession m).Announcing := by
  refine ⟨⟨fun k => ?_, hs.numbered.accepted⟩, hs.bound, hs.sends⟩
  refine (update_sessionId (s := s) ?_ k).trans (hs.numbered.id k)
  rfl

end TcpControlServer

/-! ## The client and the worker that streams to it -/

/-- `erased` are the sessions that left the map and wait for their
`StopSession`. -/
structure StreamedObserver (F : Type) where
  observer : Observer F
  worker : StreamingWorker := {}
  erased : List Nat := []

/-- `tick` takes the worker's snapshot, `access` is the next thing it
does; `erase` and `stopSession` are the halves of `RemoveSession`. -/
inductive StreamedAction (F : Type) where
  | observer (a : ObserverAction F)
  | erase (m : Nat)
  | stopSession (m : Nat)
  | tick (elapsedTicks : UInt64) (order : List Nat)
  | access (now : UInt64)

namespace StreamedObserver

open TcpControlServer

/-- What takes several steps here. -/
def splitUp (server : TcpControlServer F) : ObserverAction F → Bool
  | .stream _ _ _ => true
  | .server (.udpThread _ (.stepPhysics _)) => true
  | .server (.udpThread _ .getNextSequenceId) => true
  | .server (.next m) => server.pc m = .removing
  | _ => false

section

variable (clientIp : Nat → String) (inetPton : String → Option UInt32)
  (n : Nat)

/-- `RemoveSession` goes a step on. -/
def withServer (x : StreamedObserver F) (server : TcpControlServer F)
    (erased : List Nat) : StreamedObserver F :=
  { x with observer := { x.observer with server }, erased }

/-- What the worker's next access puts on the way to the client of `n`. -/
def arriving (x : StreamedObserver F) : List InFlight :=
  (x.worker.sent.toList.filter fun packet => packet.1 = n).map fun packet =>
    ⟨(x.observer.server.log n).length, packet.2⟩

def access (x : StreamedObserver F) (now : UInt64) : StreamedObserver F where
  observer := { x.observer with
    server := x.worker.serverAfter x.observer.server
    inFlight := x.observer.inFlight ++ x.arriving n }
  worker := x.worker.access inetPton x.observer.server now
  erased := x.erased

def step (x : StreamedObserver F) :
    StreamedAction F → Option (StreamedObserver F)
  | .observer a =>
      if splitUp x.observer.server a then none
      else
        (x.observer.step clientIp inetPton n a).map fun observer =>
          { x with observer }
  | .erase m =>
      let server := x.observer.server
      let id := server.sessionId m
      if server.pc m = .removing then
        some (x.withServer ((server.eraseSession id).setPc m .done)
          (x.erased ++ (server.sessions.find? fun k =>
            server.sessionId k = id).toList))
      else none
  | .stopSession m =>
      if m ∈ x.erased then
        some (x.withServer (x.observer.server.stopSession m)
          (x.erased.erase m))
      else none
  | .tick elapsedTicks order =>
      if x.worker.pc = .waiting ∧ order.Perm x.observer.server.sessions then
        some { x with worker := x.worker.tick elapsedTicks order }
      else none
  | .access now =>
      if x.worker.pc = .waiting then none else some (x.access inetPton n now)

/-- With the states the server was in before. -/
def recordedSystem :
    Lts (StreamedObserver F × List (TcpControlServer F)) (StreamedAction F) :=
  Lts.recording
    { init := fun x => x = { observer := { server := .started } }
      step := step clientIp inetPton n }
    (fun x _ past => x.observer.server :: past) []

end

/-! ## The steps -/

section

variable {clientIp : Nat → String} {inetPton : String → Option UInt32}
  {n : Nat} {x y : StreamedObserver F} {a : StreamedAction F}
  {states states' : List (TcpControlServer F)}

/-- What the worker has collected is traced as well. -/
structure Recorded (n : Nat) (x : StreamedObserver F)
    (states : List (TcpControlServer F)) : Prop where
  observer : x.observer.Recorded n states
  worker : x.worker.Collecting x.observer.server states

theorem Recorded.mono (hx : x.Recorded n states)
    (hstates : states ⊆ states') : x.Recorded n states' :=
  ⟨hx.observer.mono hstates, hx.worker.mono hstates⟩

omit [FloatArith F] in
theorem entityId_eq {s t : TcpControlServer F} (hs : s.Announcing)
    (ht : t.Announcing) (k : Nat) : t.entityId k = s.entityId k :=
  congrArg UInt64.toUInt32
    ((ht.numbered.id k).trans (hs.numbered.id k).symm)

/-- Nothing is written, and the sessions keep their speed. -/
theorem Recorded.withServer (hx : x.Recorded n states)
    {server : TcpControlServer F} (hserver : server.Announcing)
    (hlog : server.log = x.observer.server.log)
    (hnext : server.nextSessionId = x.observer.server.nextSessionId)
    (hvelocity : ∀ k, server.velocity k = x.observer.server.velocity k)
    (erased : List Nat) : (x.withServer server erased).Recorded n states := by
  obtain ⟨ho, hw⟩ := hx
  refine ⟨⟨hserver, fun payload hpayload => ho.spawns payload ?_,
    ho.inFlight, ho.receiving, ho.world⟩, ?_⟩
  · rw [messages, ← hlog]
    exact hpayload
  · exact hw.server hnext.ge (entityId_eq ho.server hserver)
      fun k => Or.inl (hvelocity k)

theorem recorded_observer (hx : x.Recorded n (x.observer.server :: states))
    {a : ObserverAction F} {observer : Observer F}
    (ha : splitUp x.observer.server a = false)
    (h : x.observer.step clientIp inetPton n a = some observer) :
    Recorded n { x with observer } (x.observer.server :: states) := by
  obtain ⟨ho, hw⟩ := hx
  refine ⟨Observer.recorded_step ho ?_ h, ?_⟩
  · rintro order tickCount timestamp rfl
    cases ha
  · cases a with
    | server a =>
        obtain ⟨server, hserver, rfl⟩ := Option.map_eq_some_iff.mp h
        have hmoves := moves_of_step clientIp hserver
        refine hw.server hmoves.nextSessionId hmoves.entityId
          (hmoves.velocity ?_)
        rintro m dt rfl
        cases ha
    | stream order tickCount timestamp => cases ha
    | lose place =>
        obtain rfl := Option.some.inj h
        exact hw
    | receive place =>
        simp only [Observer.step] at h
        split at h
        · obtain rfl := Option.some.inj h
          exact hw
        · cases h
    | onState =>
        simp only [Observer.step, Observer.onState] at h
        split at h
        · cases h
        · obtain rfl := Option.some.inj h
          exact hw
        · obtain rfl := Option.some.inj h
          exact hw
    | onMessage =>
        obtain ⟨message, -, rfl⟩ := Option.map_eq_some_iff.mp h
        exact hw

theorem recorded_access (hx : x.Recorded n (x.observer.server :: states))
    (now : UInt64) :
    (x.access inetPton n now).Recorded n (x.observer.server :: states) := by
  obtain ⟨ho, hw⟩ := hx
  refine ⟨⟨StreamingWorker.announcing_serverAfter ho.server,
    fun payload hpayload => ho.spawns payload ?_, ?_, ho.receiving, ho.world⟩,
    hw.serverAfter (List.mem_cons_self ..)⟩
  · rw [messages, ← StreamingWorker.serverAfter_log (w := x.worker)]
    exact hpayload
  · intro packet hpacket entry hentry
    rcases List.mem_append.mp hpacket with hold | hnew
    · exact ho.inFlight packet hold entry hentry
    · obtain ⟨sent, hsent, rfl⟩ := List.mem_map.mp hnew
      have hsent := Option.mem_toList.mp (List.mem_of_mem_filter hsent)
      rw [StreamingWorker.sent_entities hsent] at hentry
      exact hw.entries entry hentry

theorem recorded_step (hx : x.Recorded n (x.observer.server :: states))
    (h : x.step clientIp inetPton n a = some y) :
    y.Recorded n (x.observer.server :: states) := by
  cases a with
  | observer a =>
      simp only [step] at h
      split at h
      · cases h
      · rename_i ha
        obtain ⟨observer, hobserver, rfl⟩ := Option.map_eq_some_iff.mp h
        exact recorded_observer hx (Bool.eq_false_iff.mpr ha) hobserver
  | erase m =>
      simp only [step] at h
      split at h
      · rename_i hpc
        obtain rfl := Option.some.inj h
        exact hx.withServer (hx.observer.server.erase hpc) rfl rfl
          (fun _ => rfl) _
      · cases h
  | stopSession m =>
      simp only [step] at h
      split at h
      · obtain rfl := Option.some.inj h
        exact hx.withServer hx.observer.server.stop rfl rfl
          (stopSession_velocity m) _
      · cases h
  | tick elapsedTicks order =>
      simp only [step] at h
      split at h
      · rename_i hready
        obtain rfl := Option.some.inj h
        exact ⟨hx.observer, .tick hx.observer.server.numbered hready.2 _⟩
      · cases h
  | access now =>
      simp only [step] at h
      split at h
      · cases h
      · obtain rfl := Option.some.inj h
        exact recorded_access hx now

theorem recorded_reachable
    (h : (recordedSystem clientIp inetPton n).Reachable (x, states)) :
    x.Recorded n (x.observer.server :: states) := by
  refine Lts.ReachableUnder.invariant
    (I := fun y => Recorded n y.1 (y.1.observer.server :: y.2)) h ?_ ?_
  · rintro ⟨x, states⟩ ⟨hx, hpast⟩
    cases hx
    cases hpast
    refine ⟨⟨announcing_started, fun _ hm => (nomatch hm),
      fun _ hp => (nomatch hp), fun _ hh => (nomatch hh),
      fun _ _ hinfo => (nomatch hinfo)⟩, fun _ hk => (nomatch hk),
      fun _ hk => (nomatch hk), fun _ _ hpc => (nomatch hpc),
      fun _ hentry => (nomatch hentry)⟩
  · intro x a y hx _ hstep
    obtain ⟨hstep, hpast⟩ := Lts.recording_step hstep
    rw [hpast]
    exact (recorded_step hx hstep).mono (List.subset_cons_self ..)

/-- Whatever is delayed, reordered or lost: every entity of a client's
snapshot is where an accepted session of its id was at one instant, and
moves as a playing one did, or not at all. -/
theorem held_states_traced
    (h : (recordedSystem clientIp inetPton n).Reachable (x, states)) :
    ∀ info ∈ x.observer.world.getSnapshot,
      info.Traced (x.observer.server :: states) := by
  intro info hinfo
  obtain ⟨⟨id, info⟩, hentry, rfl⟩ := List.mem_map.mp hinfo
  exact ((recorded_reachable h).observer.world id info
    (AList.mem_lookup_iff.mpr hentry)).2

end

end StreamedObserver

end

namespace StreamedObserver

/-- The worker's next accesses, with nobody in between. -/
def accesses (count : Nat) : List (StreamedAction Float32) :=
  List.replicate count (.access 0)

/-- Two iterations stream to clients 1 and 2. In the second, session 1 is
found playing, leaves the map, and is built an entry of. The later packet
arrives first, and the Spawns last. -/
def overtakenRun : List (StreamedAction Float32) :=
  [Observer.bothPlay.map .observer, .tick 2 [1, 2] :: accesses 25,
    .tick 2 [2, 1] :: accesses 12, Observer.leaves.map .observer,
    [.observer (.server (.next 1)), .erase 1], accesses 1, [.stopSession 1],
    accesses 8, [.receive 1, .onState, .onState, .onState].map .observer,
    Observer.readPacket.map .observer,
    [.onMessage, .onMessage].map .observer].flatten

theorem held_states_traced_overtaken :
    ∃ (x : StreamedObserver Float32) (states : List (TcpControlServer Float32)),
      (recordedSystem (fun _ => "127.0.0.1") loopback 2).run
          ({ observer := { server := .started } }, []) overtakenRun
        = some (x, states)
      ∧ x.observer.server.sessions = [2]
      ∧ x.observer.world.getSnapshot.map (·.entityId) = [1, 2]
      ∧ ∀ info ∈ x.observer.world.getSnapshot,
        info.Traced (x.observer.server :: states) := by
  obtain ⟨⟨x, states⟩, hrun, hreachable, hp⟩ := Lts.exists_run
    (recordedSystem (F := Float32) (fun _ => "127.0.0.1") loopback 2)
    (s := ({ observer := { server := .started } }, [])) ⟨rfl, rfl⟩ overtakenRun
    (fun x => x.1.observer.server.sessions == [2]
      && x.1.observer.world.getSnapshot.map (·.entityId) == [1, 2])
    (by decide +kernel)
  simp only [Bool.and_eq_true, beq_iff_eq] at hp
  exact ⟨x, states, hrun, hp.1, hp.2, held_states_traced hreachable⟩

end StreamedObserver

end NetworkControl
