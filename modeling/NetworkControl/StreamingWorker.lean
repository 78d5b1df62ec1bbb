import NetworkControl.Roster
import NetworkControl.SerializeOnce

/-!
# UdpStreamingService's Worker, access by access

`workerIteration` is an iteration that nobody disturbs. As a thread,
`Worker` goes through a snapshot that grows old under its hands: every
`GetState`, `StepPhysics`, `BuildEntityStateEntry`, `GetDataRate`,
`TryGetUdpEndpoint`, `GetNextSequenceId` and `SendTo` is a step of its
own, and the other threads may run between any two. Sessions are handled
from the snapshot, also those that have left the map since.

What holds from a session's test to its entry is its velocity, unless it
is stopped in between (`Moving`): nobody else steps its physics. When no
other thread runs at all, the accesses of a round are `workerIteration`
(`iteration_alone`).
-/

namespace NetworkControl

open FloatArith Endian

/-- Where `Worker` is in its iteration; `left` is what its loop over the
snapshot has still to come to. -/
inductive StreamingWorkerPc where
  | waiting
  | testPhysics (left : List Nat)
  | stepPhysics (ticks n : Nat) (left : List Nat)
  | testEntry (left : List Nat)
  | buildEntry (n : Nat) (left : List Nat)
  | testRecipient (left : List Nat)
  | readRate (n : Nat) (left : List Nat)
  | readEndpoint (n : Nat) (left : List Nat)
  | number (n : Nat) (left : List Nat)
  | sendTo (n : Nat) (sequenceId : UInt64) (left : List Nat)
deriving DecidableEq, Repr

/-- The sessions its loop is at or has still to come to. -/
def StreamingWorkerPc.sessions : StreamingWorkerPc → List Nat
  | waiting => []
  | testPhysics left | testEntry left | testRecipient left => left
  | stepPhysics _ n left | buildEntry n left | readRate n left
  | readEndpoint n left | number n left | sendTo n _ left => n :: left

/-- What `Worker` keeps. -/
structure StreamingWorker where
  pc : StreamingWorkerPc := .waiting
  tickCount : UInt64 := 0
  elapsedTicks : UInt64 := 0
  sessions : List Nat := []
  entries : List EntityStateEntry := []
  timestamp : UInt64 := 0
deriving DecidableEq

/-- A call of the UDP threads on a session. -/
def TcpControlServer.callSession {F : Type} [FloatArith F]
    (s : TcpControlServer F) (n : Nat) (call : UdpThreadCall F) :
    TcpControlServer F :=
  { s with
    control := Function.update s.control n
      { s.control n with
        session := runUdpThreadCall (s.control n).session call } }

/-- Session `k`, in the map or not. -/
def TcpControlServer.session {F : Type} (s : TcpControlServer F) (k : Nat) :
    ClientSession F :=
  (s.control k).session

theorem TcpControlServer.callSession_session {F : Type} [FloatArith F]
    (s : TcpControlServer F) (n : Nat) (call : UdpThreadCall F) :
    (s.callSession n call).session
      = Function.update s.session n (runUdpThreadCall (s.session n) call) := by
  funext k
  by_cases hkn : k = n
  · simp [hkn, session, callSession]
  · simp [session, callSession, Function.update_of_ne hkn]

namespace StreamingWorker

section

variable {F : Type} (inetPton : String → Option UInt32)

/-- `WaitForNextTick` returns, and the worker takes its snapshot. -/
def tick (w : StreamingWorker) (elapsedTicks : UInt64) (order : List Nat) :
    StreamingWorker :=
  { w with
    pc := .testPhysics order
    tickCount := w.tickCount + elapsedTicks
    elapsedTicks
    sessions := order
    entries := [] }

/-- The call `Worker` makes on a session next. -/
def call (F : Type) [FloatArith F] (w : StreamingWorker) :
    Option (Nat × UdpThreadCall F) :=
  match w.pc with
  | .stepPhysics (_ + 1) n _ => some (n, .stepPhysics fixedDeltaSeconds)
  | .number n _ => some (n, .getNextSequenceId)
  | _ => none

/-- The packet it sends next, and to whom. -/
def sent (w : StreamingWorker) : Option (Nat × EntityStateBatchPayload) :=
  match w.pc with
  | .sendTo n sequenceId _ =>
      some (n, { sequenceId, timestamp := w.timestamp, entities := w.entries })
  | _ => none

variable [FloatArith F]

/-- Its next access; `session` is what it finds, `now` what the clock
reads. -/
def next (w : StreamingWorker) (session : Nat → ClientSession F)
    (now : UInt64) : StreamingWorker :=
  match w.pc with
  | .waiting => w
  | .testPhysics [] => { w with pc := .testEntry w.sessions }
  | .testPhysics (n :: left) =>
      if (session n).state = .playing then
        { w with pc := .stepPhysics w.elapsedTicks.toNat n left }
      else { w with pc := .testPhysics left }
  | .stepPhysics 0 _ left => { w with pc := .testPhysics left }
  | .stepPhysics (ticks + 1) n left =>
      { w with pc := .stepPhysics ticks n left }
  | .testEntry [] =>
      if w.entries = [] then { w with pc := .waiting }
      else { w with pc := .testRecipient w.sessions, timestamp := now }
  | .testEntry (n :: left) =>
      if (session n).state = .playing then
        { w with pc := .buildEntry n left }
      else { w with pc := .testEntry left }
  | .buildEntry n left =>
      { w with
        pc := .testEntry left
        entries := w.entries ++ [(session n).buildEntityStateEntry] }
  | .testRecipient [] => { w with pc := .waiting }
  | .testRecipient (n :: left) =>
      if (session n).state = .playing then { w with pc := .readRate n left }
      else { w with pc := .testRecipient left }
  | .readRate n left =>
      if (session n).dataRate = .hz30 ∧ w.tickCount % 2 ≠ 0 then
        { w with pc := .testRecipient left }
      else { w with pc := .readEndpoint n left }
  | .readEndpoint n left =>
      if ((session n).tryGetUdpEndpoint.bind fun (ip, port) =>
          Ipv4Endpoint.tryCreate inetPton ip port).isSome then
        { w with pc := .number n left }
      else { w with pc := .testRecipient left }
  | .number n left =>
      { w with pc := .sendTo n (session n).getNextSequenceId.1 left }
  | .sendTo _ _ left => { w with pc := .testRecipient left }

end

/-! ## What an access changes -/

section

variable {F : Type} [FloatArith F] {inetPton : String → Option UInt32}
  {w : StreamingWorker} {session : Nat → ClientSession F} {now : UInt64}

theorem next_sessions :
    (w.next inetPton session now).sessions = w.sessions := by
  unfold next
  split <;> first | rfl | (split <;> rfl)

/-- The loops only go through the snapshot. -/
theorem next_pc_sessions {k : Nat}
    (h : k ∈ (w.next inetPton session now).pc.sessions) :
    k ∈ w.pc.sessions ∨ k ∈ w.sessions := by
  revert h
  unfold next
  split <;> rename_i hpc <;> rw [hpc]
  · exact fun h => Or.inl (hpc ▸ h)
  · exact Or.inr
  · split
    · exact Or.inl
    · exact fun h => Or.inl (List.mem_cons_of_mem _ h)
  · exact fun h => Or.inl (List.mem_cons_of_mem _ h)
  · exact Or.inl
  · split
    · exact fun h => nomatch h
    · exact Or.inr
  · split
    · exact Or.inl
    · exact fun h => Or.inl (List.mem_cons_of_mem _ h)
  · exact fun h => Or.inl (List.mem_cons_of_mem _ h)
  · exact fun h => nomatch h
  · split
    · exact Or.inl
    · exact fun h => Or.inl (List.mem_cons_of_mem _ h)
  · split
    · exact fun h => Or.inl (List.mem_cons_of_mem _ h)
    · exact Or.inl
  · split
    · exact Or.inl
    · exact fun h => Or.inl (List.mem_cons_of_mem _ h)
  · exact Or.inl
  · exact fun h => Or.inl (List.mem_cons_of_mem _ h)

/-- An entry is built of the session it is for. -/
theorem next_entries {entry : EntityStateEntry}
    (h : entry ∈ (w.next inetPton session now).entries) :
    entry ∈ w.entries ∨ ∃ n left, w.pc = .buildEntry n left
      ∧ entry = (session n).buildEntityStateEntry := by
  revert h
  unfold next
  split
  case h_8 n left hpc =>
    intro h
    rcases List.mem_append.mp h with hold | hnew
    · exact Or.inl hold
    · exact Or.inr ⟨n, left, hpc, List.mem_singleton.mp hnew⟩
  all_goals first | exact Or.inl | (split <;> exact Or.inl)

/-- And only once it was found playing. -/
theorem next_buildEntry {n : Nat} {left : List Nat}
    (h : (w.next inetPton session now).pc = .buildEntry n left) :
    (session n).state = .playing ∧ n ∈ w.pc.sessions := by
  revert h
  unfold next
  split
  case h_7 m others hpc =>
    rw [hpc]
    split
    · rename_i hplaying
      intro h
      obtain ⟨rfl, rfl⟩ := StreamingWorkerPc.buildEntry.inj h
      exact ⟨hplaying, List.mem_cons_self ..⟩
    · exact fun h => nomatch h
  case h_1 hpc =>
    intro h
    rw [hpc] at h
    cases h
  all_goals intro h
  all_goals first | cases h | (split at h <;> cases h)

end

end StreamingWorker

/-! ## What holds from the test to the entry -/

namespace ClientSession

variable {F : Type}

def velocity (s : ClientSession F) : F × F := (s.velocityX, s.velocityY)

variable [FloatArith F]

def atRest : F × F := (ofRat 0, ofRat 0)

/-- Of the messages only `Stop` changes the velocity. -/
theorem runOn_velocity (clientIp : String) (s : ClientSession F)
    (message : ClientMessage) :
    (message.runOn clientIp s).velocity = s.velocity
      ∨ (message.runOn clientIp s).velocity = atRest := by
  cases message with
  | play =>
      simp only [ClientMessage.runOn, play]
      split <;> exact Or.inl rfl
  | pause =>
      simp only [ClientMessage.runOn, pause]
      split <;> exact Or.inl rfl
  | setRate dataRateHz =>
      simp only [ClientMessage.runOn, setRate]
      split
      · exact Or.inl rfl
      · split <;> exact Or.inl rfl
  | stop metrics => exact Or.inr rfl
  | _ => exact Or.inl rfl

theorem handleMessage_velocity (clientIp : String) (c : Control F)
    (message : ClientMessage) :
    (handleMessage clientIp c message).session.velocity = c.session.velocity
      ∨ (handleMessage clientIp c message).session.velocity = atRest := by
  rcases handleMessage_session clientIp c message with hsame | hrun
  · rw [hsame]
    exact Or.inl rfl
  · rw [hrun]
    exact runOn_velocity clientIp c.session message

end ClientSession

namespace TcpControlServer

section

variable {F : Type} [FloatArith F] {clientIp : Nat → String}
  {s t : TcpControlServer F} {a : ServerAction F} {k : Nat}
  {states states' : List (TcpControlServer F)}

/-- The velocity of session `k`. -/
def velocity (s : TcpControlServer F) (k : Nat) : F × F :=
  (s.control k).session.velocity

omit [FloatArith F] in
theorem stopSession_velocity (m k : Nat) :
    (s.stopSession m).velocity k = s.velocity k := by
  by_cases hkm : k = m
  · subst hkm
    simp [velocity, stopSession, ClientSession.velocity,
      ClientSession.stopSession]
  · simp [velocity, stopSession, Function.update_of_ne hkm]

omit [FloatArith F] in
theorem removeSession_velocity (id : UInt64) (k : Nat) :
    (s.removeSession id).velocity k = s.velocity k := by
  rw [removeSession_eq]
  split
  · rfl
  · exact stopSession_velocity ..

/-- Whoever is not stepped keeps its velocity, or is stopped. -/
theorem Moves.velocity (h : Moves clientIp s a t)
    (ha : ∀ n dt, a ≠ .udpThread n (.stepPhysics dt)) (k : Nat) :
    t.velocity k = s.velocity k ∨ t.velocity k = ClientSession.atRest := by
  have hupdate : ∀ {n : Nat} {control : Control F},
      control.session.velocity = s.velocity n
        ∨ control.session.velocity = ClientSession.atRest →
      (Function.update s.control n control k).session.velocity = s.velocity k
        ∨ (Function.update s.control n control k).session.velocity
          = ClientSession.atRest := by
    intro n control hcontrol
    by_cases hkn : k = n
    · rwa [hkn, Function.update_self]
    · rw [Function.update_of_ne hkn]
      exact Or.inl rfl
  cases h with
  | @process n message hserving =>
      have hsession := hupdate (n := n) (ClientSession.handleMessage_velocity
        (clientIp n) (s.control n) message)
      cases message with
      | registerUdpPort port =>
          simp only [TcpControlServer.process]
          split <;> exact hsession
      | _ => exact hsession
  | leave hserving =>
      unfold TcpControlServer.leave
      split <;> exact Or.inl rfl
  | spawn hpc =>
      rw [sendEntitySpawn, send]
      split <;> exact Or.inl rfl
  | despawn hpc =>
      rw [sendEntityDespawn, send]
      split <;> exact Or.inl rfl
  | @remove n hpc => exact Or.inl (removeSession_velocity (s.sessionId n) k)
  | @udpThread n call =>
      refine hupdate (Or.inl ?_)
      cases call with
      | stepPhysics dt => exact absurd rfl (ha n dt)
      | getNextSequenceId => rfl
      | applyControlInput sequenceId throttle yaw =>
          simp only [runUdpThreadCall, ClientSession.applyControlInput]
          split <;> rfl
  | _ => exact Or.inl rfl

/-- Session `k` moves as it did in a state in which it was playing, or is
at rest. -/
def Moving (states : List (TcpControlServer F)) (s : TcpControlServer F)
    (k : Nat) : Prop :=
  s.velocity k = ClientSession.atRest
    ∨ ∃ earlier ∈ states, k < earlier.nextSessionId
      ∧ earlier.entityId k = s.entityId k
      ∧ (earlier.control k).session.state = .playing
      ∧ earlier.velocity k = s.velocity k

/-- It was found playing just now. -/
theorem moving_of_playing (hs : s ∈ states) (hk : k < s.nextSessionId)
    (hplaying : (s.control k).session.state = .playing) :
    s.Moving states k :=
  Or.inr ⟨s, hs, hk, rfl, hplaying, rfl⟩

theorem Moving.mono (h : s.Moving states k) (hstates : states ⊆ states') :
    s.Moving states' k := by
  rcases h with hrest | ⟨earlier, hearlier, hmoves⟩
  · exact Or.inl hrest
  · exact Or.inr ⟨earlier, hstates hearlier, hmoves⟩

theorem Moving.of_velocity (h : s.Moving states k)
    (hid : t.entityId k = s.entityId k)
    (hvelocity : t.velocity k = s.velocity k
      ∨ t.velocity k = ClientSession.atRest) : t.Moving states k := by
  rcases hvelocity with hsame | hrest
  · rw [Moving, hsame, hid]
    exact h
  · exact Or.inl hrest

/-- The entry of an accepted session, as it was in one of the states. -/
def EntryOf (states : List (TcpControlServer F)) (entry : EntityStateEntry) :
    Prop :=
  ∃ s ∈ states, ∃ k < s.nextSessionId,
    entry = (s.control k).session.buildEntityStateEntry ∧ s.Moving states k

theorem EntryOf.mono {entry : EntityStateEntry} (h : EntryOf states entry)
    (hstates : states ⊆ states') : EntryOf states' entry := by
  obtain ⟨s, hs, k, hk, hentry, hmoving⟩ := h
  exact ⟨s, hstates hs, k, hk, hentry, hmoving.mono hstates⟩

end

end TcpControlServer

/-! ## The worker's part -/

namespace StreamingWorker

open TcpControlServer

section

variable {F : Type} [FloatArith F] {inetPton : String → Option UInt32}
  {w : StreamingWorker} {s t : TcpControlServer F} {now : UInt64}
  {states states' : List (TcpControlServer F)}

/-- The session it finds when it looks at `s`. -/
def access (w : StreamingWorker) (inetPton : String → Option UInt32)
    (s : TcpControlServer F) (now : UInt64) : StreamingWorker :=
  w.next inetPton (fun n => (s.control n).session) now

/-- The server after its next access. -/
def serverAfter (w : StreamingWorker) (s : TcpControlServer F) :
    TcpControlServer F :=
  match w.call F with
  | none => s
  | some (n, call) => s.callSession n call

/-- Its snapshot holds accepted sessions, and its entries are of such. -/
structure Collecting (w : StreamingWorker) (s : TcpControlServer F)
    (states : List (TcpControlServer F)) : Prop where
  sessions : ∀ k ∈ w.sessions, k < s.nextSessionId
  left : ∀ k ∈ w.pc.sessions, k < s.nextSessionId
  building : ∀ k left, w.pc = .buildEntry k left → s.Moving states k
  entries : ∀ entry ∈ w.entries, EntryOf states entry

theorem Collecting.mono (hw : w.Collecting s states)
    (hstates : states ⊆ states') : w.Collecting s states' :=
  ⟨hw.sessions, hw.left,
    fun k left hpc => (hw.building k left hpc).mono hstates,
    fun entry hentry => (hw.entries entry hentry).mono hstates⟩

/-- The other threads run. -/
theorem Collecting.server (hw : w.Collecting s states)
    (hnext : s.nextSessionId ≤ t.nextSessionId)
    (hid : ∀ k, t.entityId k = s.entityId k)
    (hvelocity : ∀ k, t.velocity k = s.velocity k
      ∨ t.velocity k = ClientSession.atRest) : w.Collecting t states :=
  ⟨fun k hk => (hw.sessions k hk).trans_le hnext,
    fun k hk => (hw.left k hk).trans_le hnext,
    fun k left hpc => (hw.building k left hpc).of_velocity (hid k)
      (hvelocity k), hw.entries⟩

theorem Collecting.tick (hs : s.Numbered) {order : List Nat}
    (horder : order.Perm s.sessions) (elapsedTicks : UInt64) :
    (w.tick elapsedTicks order).Collecting s states := by
  have hlt : ∀ k ∈ order, k < s.nextSessionId := fun k hk =>
    hs.accepted k (horder.mem_iff.mp hk)
  refine ⟨hlt, hlt, fun k left hpc => ?_, fun entry hentry => ?_⟩
  · cases hpc
  · cases hentry

/-- It looks at a session, and nothing else happens. -/
theorem Collecting.access (hw : w.Collecting s states) (hs : s ∈ states) :
    (w.access inetPton s now).Collecting s states := by
  refine ⟨fun k hk => ?_, fun k hk => ?_, fun k left hpc => ?_,
    fun entry hentry => ?_⟩
  · rw [StreamingWorker.access, next_sessions] at hk
    exact hw.sessions k hk
  · rcases next_pc_sessions hk with hold | hsnapshot
    · exact hw.left k hold
    · exact hw.sessions k hsnapshot
  · obtain ⟨hplaying, hk⟩ := next_buildEntry hpc
    exact moving_of_playing hs (hw.left k hk) hplaying
  · rcases next_entries hentry with hold | ⟨k, left, hpc, rfl⟩
    · exact hw.entries entry hold
    · have hk : k < s.nextSessionId :=
        hw.left k (by rw [hpc]; exact List.mem_cons_self ..)
      exact ⟨s, hs, k, hk, rfl, hw.building k left hpc⟩

omit [FloatArith F] in
/-- A packet holds what was collected. -/
theorem sent_entities {packet : Nat × EntityStateBatchPayload}
    (h : packet ∈ w.sent) : packet.2.entities = w.entries := by
  unfold sent at h
  split at h
  · rw [← Option.some.inj h]
  · cases h

/-- A call on a session is not followed by an entry. -/
theorem access_call {n k : Nat} {call : UdpThreadCall F} {left : List Nat}
    (h : w.call F = some (n, call)) :
    (w.access inetPton s now).pc ≠ .buildEntry k left := by
  unfold StreamingWorker.call at h
  split at h
  · rename_i hpc
    rw [StreamingWorker.access, next, hpc]
    exact fun h => nomatch h
  · rename_i hpc
    rw [StreamingWorker.access, next, hpc]
    exact fun h => nomatch h
  · cases h

theorem announcing_serverAfter (hs : s.Announcing) :
    (w.serverAfter s).Announcing := by
  unfold StreamingWorker.serverAfter
  split
  · exact hs
  · rename_i n call hcall
    have hstep : s.step (fun _ => "") (.udpThread n call)
        = some (s.callSession n call) := rfl
    exact announcing_step hs hstep

theorem serverAfter_log : (w.serverAfter s).log = s.log := by
  unfold StreamingWorker.serverAfter
  split <;> rfl

theorem Collecting.serverAfter (hw : w.Collecting s states)
    (hs : s ∈ states) :
    (w.access inetPton s now).Collecting (w.serverAfter s) states := by
  have hafter : (w.access inetPton s now).Collecting s states := hw.access hs
  unfold StreamingWorker.serverAfter
  split
  · exact hafter
  · rename_i n call hcall
    exact ⟨hafter.sessions, hafter.left,
      fun k left hpc => absurd hpc (access_call hcall), hafter.entries⟩

end

/-! ## An iteration that nobody disturbs -/

section

variable {F : Type} [FloatArith F] {inetPton : String → Option UInt32}
  {now : UInt64} {w v u : StreamingWorker} {s t r : TcpControlServer F}
  {packets packets' : List (Nat × EntityStateBatchPayload)}

/-- From `w` and `s` to `v` and `t` nobody but the worker runs; `packets`
are what it sends on the way. -/
inductive Solo (inetPton : String → Option UInt32) (now : UInt64) :
    StreamingWorker → TcpControlServer F →
      List (Nat × EntityStateBatchPayload) →
        StreamingWorker → TcpControlServer F → Prop where
  | refl (w : StreamingWorker) (s : TcpControlServer F) :
      Solo inetPton now w s [] w s
  | access {w v : StreamingWorker} {s t : TcpControlServer F}
      {packets : List (Nat × EntityStateBatchPayload)} :
      Solo inetPton now (w.access inetPton s now) (w.serverAfter s) packets
        v t →
      Solo inetPton now w s (w.sent.toList ++ packets) v t

theorem Solo.trans (h : Solo inetPton now w s packets v t)
    (h' : Solo inetPton now v t packets' u r) :
    Solo inetPton now w s (packets ++ packets') u r := by
  induction h with
  | refl w s => exact h'
  | access hrest ih =>
      rw [List.append_assoc]
      exact (ih h').access

/-- An access that sends nothing and changes no session. -/
theorem Solo.look (hcall : w.call F = none) (hsent : w.sent = none)
    (hnext : w.access inetPton s now = v)
    (h : Solo inetPton now v s packets u t) :
    Solo inetPton now w s packets u t := by
  have hsame : w.serverAfter s = s := by
    rw [serverAfter, hcall]
  have haccess : Solo inetPton now w s (w.sent.toList ++ packets) u t := by
    refine .access ?_
    rw [hnext, hsame]
    exact h
  rwa [hsent] at haccess

variable (inetPton now)

/-- The ticks of one session. -/
theorem stepPhysics_alone (w : StreamingWorker) (n : Nat) (left : List Nat) :
    ∀ (ticks : Nat) (s : TcpControlServer F), ∃ t,
      Solo inetPton now { w with pc := .stepPhysics ticks n left } s []
          { w with pc := .testPhysics left } t
        ∧ t.session = Function.update s.session n
          ((fun x => x.stepPhysics fixedDeltaSeconds)^[ticks] (s.session n))
  | 0, s => by
      refine ⟨s, Solo.look rfl rfl rfl (.refl _ s), ?_⟩
      rw [Function.iterate_zero_apply, Function.update_eq_self]
  | ticks + 1, s => by
      have hstepped : (s.callSession n
          (.stepPhysics fixedDeltaSeconds)).session = Function.update s.session
            n ((s.session n).stepPhysics fixedDeltaSeconds) :=
        callSession_session ..
      obtain ⟨t, hrest, ht⟩ := stepPhysics_alone w n left ticks
        (s.callSession n (.stepPhysics fixedDeltaSeconds))
      refine ⟨t, Solo.access hrest, ?_⟩
      rw [ht, hstepped, Function.update_self, Function.update_idem,
        Function.iterate_succ_apply]

/-- Step 1 of the iteration. -/
theorem testPhysics_alone (w : StreamingWorker) :
    ∀ (left : List Nat), left.Nodup → ∀ s : TcpControlServer F, ∃ t,
      Solo inetPton now { w with pc := .testPhysics left } s []
          { w with pc := .testEntry w.sessions } t
        ∧ ∀ k, t.session k
          = if k ∈ left then stepElapsed w.elapsedTicks (s.session k)
            else s.session k
  | [], _, s => ⟨s, Solo.look rfl rfl rfl (.refl _ s), fun k => by simp⟩
  | n :: left, hnodup, s => by
      obtain ⟨hn, hleft⟩ := List.nodup_cons.mp hnodup
      by_cases hplaying : (s.session n).state = .playing
      · obtain ⟨r, hphysics, hr⟩ := stepPhysics_alone inetPton now w n left
          w.elapsedTicks.toNat s
        obtain ⟨t, hrest, ht⟩ := testPhysics_alone w left hleft r
        refine ⟨t, Solo.look rfl rfl (if_pos hplaying)
          (hphysics.trans hrest), fun k => ?_⟩
        rw [ht, hr]
        by_cases hkn : k = n
        · simp [hkn, hn, stepElapsed, hplaying]
        · simp [hkn]
      · obtain ⟨t, hrest, ht⟩ := testPhysics_alone w left hleft s
        refine ⟨t, Solo.look rfl rfl (if_neg hplaying) hrest, fun k => ?_⟩
        rw [ht]
        by_cases hkn : k = n
        · simp [hkn, hn, stepElapsed, hplaying]
        · simp [hkn]

/-- Step 2. -/
theorem testEntry_alone (s : TcpControlServer F) :
    ∀ (left : List Nat) (w : StreamingWorker),
      Solo inetPton now { w with pc := .testEntry left } s []
        { w with
          pc := .testEntry []
          entries := w.entries ++ collectEntries (left.map s.session) } s
  | [], w => by
      rw [List.map_nil, collectEntries, List.filter_nil, List.map_nil,
        List.append_nil]
      exact .refl _ s
  | n :: left, w => by
      by_cases hplaying : (s.session n).state = .playing
      · have hrest := testEntry_alone s left
          { w with
            entries := w.entries ++ [(s.session n).buildEntityStateEntry] }
        have hentries : collectEntries ((n :: left).map s.session)
            = (s.session n).buildEntityStateEntry
              :: collectEntries (left.map s.session) := by
          simp [collectEntries, hplaying]
        rw [hentries, List.append_cons]
        exact Solo.look rfl rfl (if_pos hplaying)
          (Solo.look rfl rfl rfl hrest)
      · have hentries : collectEntries ((n :: left).map s.session)
            = collectEntries (left.map s.session) := by
          simp [collectEntries, hplaying]
        rw [hentries]
        exact Solo.look rfl rfl (if_neg hplaying) (testEntry_alone s left w)

omit [FloatArith F] in
theorem recipientEndpoint_of_due {tickCount : UInt64}
    {recipient : ClientSession F} (hplaying : recipient.state = .playing)
    (hrate : ¬(recipient.dataRate = .hz30 ∧ tickCount % 2 ≠ 0)) :
    recipientEndpoint inetPton tickCount recipient
      = recipient.tryGetUdpEndpoint.bind fun (ip, port) =>
          Ipv4Endpoint.tryCreate inetPton ip port := by
  rw [recipientEndpoint, if_neg (not_not.mpr hplaying), if_neg hrate]
  cases recipient.tryGetUdpEndpoint <;> rfl

/-- What a recipient is sent. -/
def freshPacket (w : StreamingWorker) (inetPton : String → Option UInt32)
    (s : TcpControlServer F) (n : Nat) :
    Option (Nat × EntityStateBatchPayload) :=
  (freshBatch inetPton w.tickCount w.timestamp w.entries (s.session n)).map
    fun fresh => (n, fresh.batch)

variable {inetPton now}

/-- A recipient that is not sent to is left as it was. -/
theorem Solo.passed {n : Nat} {left : List Nat}
    (hnone : recipientEndpoint inetPton w.tickCount (s.session n) = none)
    (h : Solo inetPton now v s [] { w with pc := .testRecipient left } s) :
    ∃ t, Solo inetPton now v s (w.freshPacket inetPton s n).toList
        { w with pc := .testRecipient left } t
      ∧ t.session = Function.update s.session n
        (afterTick inetPton w.tickCount (s.session n)) := by
  refine ⟨s, ?_, ?_⟩
  · rwa [freshPacket, freshBatch, hnone]
  · rw [afterTick, hnone, Function.update_eq_self]

variable (inetPton now)

/-- The recipient at hand. -/
theorem recipient_alone (w : StreamingWorker) (n : Nat) (left : List Nat)
    (s : TcpControlServer F) : ∃ t,
      Solo inetPton now { w with pc := .testRecipient (n :: left) } s
          (w.freshPacket inetPton s n).toList
          { w with pc := .testRecipient left } t
        ∧ t.session = Function.update s.session n
          (afterTick inetPton w.tickCount (s.session n)) := by
  by_cases hplaying : (s.session n).state = .playing
  swap
  · exact Solo.passed (by rw [recipientEndpoint, if_pos hplaying])
      (Solo.look rfl rfl (if_neg hplaying) (.refl _ s))
  by_cases hrate : (s.session n).dataRate = .hz30 ∧ w.tickCount % 2 ≠ 0
  · exact Solo.passed (by rw [recipientEndpoint, if_neg (not_not.mpr hplaying),
        if_pos hrate])
      (Solo.look rfl rfl (if_pos hplaying)
        (Solo.look rfl rfl (if_pos hrate) (.refl _ s)))
  have hlooked : ∀ {packets v t},
      Solo inetPton now { w with pc := .readEndpoint n left } s packets v t →
      Solo inetPton now { w with pc := .testRecipient (n :: left) } s packets
        v t := fun halone =>
    Solo.look rfl rfl (if_pos hplaying)
      (Solo.look rfl rfl (if_neg hrate) halone)
  have hdue := recipientEndpoint_of_due inetPton hplaying hrate
  cases hendpoint : recipientEndpoint inetPton w.tickCount (s.session n) with
  | none =>
      rw [hendpoint] at hdue
      refine Solo.passed hendpoint (hlooked (Solo.look rfl rfl ?_ (.refl _ s)))
      exact if_neg (Bool.eq_false_iff.mp (congrArg Option.isSome hdue.symm))
  | some destination =>
      rw [hendpoint] at hdue
      have hnumber : Solo inetPton now
          { w with pc := .number n left } s
          (w.freshPacket inetPton s n).toList
          { w with pc := .testRecipient left }
          (s.callSession n .getNextSequenceId) := by
        rw [freshPacket, freshBatch, hendpoint]
        exact Solo.access (Solo.access (.refl _ _))
      refine ⟨s.callSession n .getNextSequenceId,
        hlooked (Solo.look rfl rfl ?_ hnumber), ?_⟩
      · exact if_pos (congrArg Option.isSome hdue.symm)
      · rw [callSession_session, afterTick, hendpoint]
        rfl

/-- Step 3. -/
theorem testRecipient_alone (w : StreamingWorker) :
    ∀ (left : List Nat), left.Nodup → ∀ s : TcpControlServer F, ∃ t,
      Solo inetPton now { w with pc := .testRecipient left } s
          (left.filterMap (w.freshPacket inetPton s))
          { w with pc := .waiting } t
        ∧ ∀ k, t.session k
          = if k ∈ left then afterTick inetPton w.tickCount (s.session k)
            else s.session k
  | [], _, s => ⟨s, Solo.look rfl rfl rfl (.refl _ s), fun k => by simp⟩
  | n :: left, hnodup, s => by
      obtain ⟨hn, hleft⟩ := List.nodup_cons.mp hnodup
      obtain ⟨r, hfirst, hr⟩ := recipient_alone inetPton now w n left s
      obtain ⟨t, hrest, ht⟩ := testRecipient_alone w left hleft r
      have hpackets : left.filterMap (w.freshPacket inetPton r)
          = left.filterMap (w.freshPacket inetPton s) := by
        refine List.filterMap_congr fun k hk => ?_
        rw [freshPacket, freshPacket, hr, Function.update_of_ne]
        rintro rfl
        exact hn hk
      refine ⟨t, ?_, fun k => ?_⟩
      · have hall := hfirst.trans hrest
        rw [hpackets] at hall
        rw [List.filterMap_cons]
        cases hnow : w.freshPacket inetPton s n with
        | none => rwa [hnow] at hall
        | some packet => rwa [hnow] at hall
      · rw [ht, hr]
        by_cases hkn : k = n
        · simp [hkn, hn]
        · simp [hkn]

/-- A round of accesses with no other thread in between: the sessions and
the sends of `workerIteration`. -/
theorem iteration_alone (host : ByteOrder) (w : StreamingWorker)
    (s : TcpControlServer F) {order : List Nat} (hnodup : order.Nodup)
    (elapsedTicks : UInt64) : ∃ v t packets,
      Solo inetPton now (w.tick elapsedTicks order) s packets v t
        ∧ v.pc = .waiting
        ∧ v.tickCount = (workerIteration host inetPton w.tickCount
          elapsedTicks now (order.map s.session)).tickCount
        ∧ order.map t.session = (workerIteration host inetPton w.tickCount
          elapsedTicks now (order.map s.session)).sessions
        ∧ packets.map (fun packet =>
            ((s.session packet.1).sessionId, serializePacket host packet.2))
          = (workerIteration host inetPton w.tickCount elapsedTicks now
            (order.map s.session)).sent.map (fun sent =>
              (sent.sessionId, sent.packet))
        ∧ ∀ k ∉ order, t.session k = s.session k := by
  obtain ⟨r, hphysics, hr⟩ := testPhysics_alone inetPton now
    (w.tick elapsedTicks order) order hnodup s
  have hstepped : order.map r.session
      = (order.map s.session).map (stepElapsed elapsedTicks) := by
    rw [List.map_map]
    refine List.map_congr_left fun k hk => ?_
    rw [hr, if_pos hk]
    rfl
  have hentries : Solo inetPton now
      { w.tick elapsedTicks order with pc := .testEntry order } r []
      { w.tick elapsedTicks order with
        pc := .testEntry []
        entries := collectEntries (order.map r.session) } r :=
    testEntry_alone inetPton now r order (w.tick elapsedTicks order)
  rw [hstepped] at hentries
  have hid : ∀ k, (s.session k).sessionId = (r.session k).sessionId := by
    intro k
    rw [hr]
    split
    · exact (stepElapsed_keeps ClientSession.sessionId (fun _ => rfl) _ _).symm
    · rfl
  have hothers : ∀ k ∉ order, r.session k = s.session k := fun k hk => by
    rw [hr, if_neg hk]
  generalize hsessions : (order.map s.session).map (stepElapsed elapsedTicks)
    = sessions at hstepped hentries
  simp only [workerIteration, broadcast, hsessions]
  by_cases hnobody : collectEntries sessions = []
  · refine ⟨_, r, [], hphysics.trans (hentries.trans
      (Solo.look rfl rfl (if_pos hnobody) (.refl _ r))), rfl, rfl, ?_, ?_,
      hothers⟩
    · rw [hnobody]
      exact hstepped
    · rw [hnobody]
      rfl
  · obtain ⟨t, hsent, ht⟩ := testRecipient_alone inetPton now
      { w.tick elapsedTicks order with
        entries := collectEntries sessions
        timestamp := now } order hnodup r
    have hsend := sendToRecipients_eq_fresh host inetPton
      (w.tickCount + elapsedTicks) now (collectEntries sessions) sessions 0
    rw [if_neg (by simpa using hnobody), hsend]
    refine ⟨_, t, _, hphysics.trans (hentries.trans
      (Solo.look rfl rfl (if_neg hnobody) hsent)), rfl, rfl, ?_, ?_,
      fun k hk => ?_⟩
    · rw [← hstepped, List.map_map]
      exact List.map_congr_left fun k hk => (ht k).trans (if_pos hk)
    · rw [← hstepped, List.filterMap_map]
      simp only [List.nil_append, List.map_filterMap]
      refine List.filterMap_congr fun k hk => ?_
      rw [freshPacket, freshBatch, Function.comp_apply, freshBatch]
      simp only [Option.map_map]
      refine Option.map_congr fun destination _ => ?_
      simp only [Function.comp_apply, hid]
      rfl
    · rw [ht, if_neg hk]
      exact hothers k hk

end

end StreamingWorker

end NetworkControl
