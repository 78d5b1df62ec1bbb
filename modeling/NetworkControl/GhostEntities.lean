import NetworkControl.SessionRegistry

/-!
# No ghosts

A client shows the entities it was sent a Spawn of and no later Despawn.
When a session's worker ends, nobody should still show its entity.

`no_ghost_entities` says that this holds in the runs that keep to
`DespawnAhead`: while a client shows an entity, the entity's worker has
that client's Despawn ahead of it. The exceptions are a worker that ends
its loop unregistered although its entity is shown, and a broadcast that
hands on an entity from a snapshot too old.
-/

namespace NetworkControl

/-! ## What a log shows -/

/-- The last message about `subject` is a Spawn. -/
def shown (subject : Nat) (log : List Written) : Bool :=
  log.foldl
    (fun shown written =>
      if written.subject = subject then written.isSpawn else shown)
    false

theorem shown_concat (subject : Nat) (log : List Written)
    (written : Written) :
    shown subject (log ++ [written])
      = if written.subject = subject then written.isSpawn
        else shown subject log := by
  simp only [shown, List.foldl_append, List.foldl_cons, List.foldl_nil]

namespace ControlPc

/-- The worker still has a Despawn for the recipient ahead of it, unless
it ends its loop unregistered. -/
def DespawnsFor (recipient : Nat) : ControlPc → Prop
  | serving => True
  | registered => True
  | spawning _ => True
  | leaving => True
  | despawning recipients => recipient ∈ recipients
  | absent => False
  | removing => False
  | done => False

instance (recipient : Nat) : (pc : ControlPc) →
    Decidable (pc.DespawnsFor recipient)
  | despawning recipients => inferInstanceAs (Decidable (_ ∈ recipients))
  | serving | registered | spawning _ | leaving => .isTrue trivial
  | absent => .isFalse id
  | removing => .isFalse id
  | done => .isFalse id

end ControlPc

namespace TcpControlServer

section

variable {F : Type} {clientIp : Nat → String} {s t : TcpControlServer F}
  {a : ServerAction F}

/-- `accept` gives no id that is still in use; a worker ends its loop
registered, or shown to nobody; a Spawn is sent only while its subject's
worker has the recipient's Despawn ahead. -/
def DespawnAhead (s : TcpControlServer F) : ServerAction F → Prop
  | .accept => ∀ m ∈ s.sessions, s.sessionId m ≠ s.sessionId s.nextSessionId
  | .leave n => (s.control n).isUdpEndpointRegistered = true
      ∨ ∀ m ∈ s.sessions, m ≠ n → s.connected m = true →
          shown n (s.log m) = false
  | .next n => ∀ send ∈ s.nextSpawn n, s.connected send.1 = true →
      (s.pc send.2).DespawnsFor send.1
  | _ => True

instance (s : TcpControlServer F) :
    (a : ServerAction F) → Decidable (s.DespawnAhead a)
  | .accept => inferInstanceAs (Decidable (∀ m ∈ s.sessions, _))
  | .leave _ => inferInstanceAs (Decidable (_ ∨ ∀ m ∈ s.sessions, _))
  | .next n => inferInstanceAs (Decidable (∀ send ∈ s.nextSpawn n, _))
  | .disconnect _ | .process _ _ | .snapshot _ _ | .udpThread _ _ =>
      .isTrue trivial

/-! ## Who still has to be told -/

/-- Whoever is shown an entity still gets its Despawn. -/
def Announced (s : TcpControlServer F) : Prop :=
  ∀ subject n, subject ≠ n → s.connected n = true →
    shown subject (s.log n) = true → (s.pc subject).DespawnsFor n

/-- Steps that write no message and take no Despawn back. -/
theorem Announced.frame (hs : s.Announced) (hlog : t.log = s.log)
    (hconnected : ∀ n, t.connected n = true → s.connected n = true)
    (hpc : ∀ subject n, (s.pc subject).DespawnsFor n →
      (t.pc subject).DespawnsFor n) : t.Announced := by
  intro subject n hne hopen hshown
  rw [hlog] at hshown
  exact hpc subject n (hs subject n hne (hconnected n hopen) hshown)

theorem Announced.setPc (hs : s.Announced) {subject : Nat} {pc : ControlPc}
    (h : ∀ n, subject ≠ n → s.connected n = true →
      shown subject (s.log n) = true → pc.DespawnsFor n) :
    (s.setPc subject pc).Announced := by
  intro other n hne hopen hshown
  by_cases hother : other = subject
  · subst hother
    rw [setPc_self]
    exact h n hne hopen hshown
  · rw [setPc_of_ne _ _ _ _ hother]
    exact hs other n hne hopen hshown

theorem Announced.send (hs : s.Announced) {recipient : Nat}
    {written : Written} (h : written.isSpawn = true →
      s.connected recipient = true →
        (s.pc written.subject).DespawnsFor recipient) :
    (s.send recipient written).Announced := by
  intro subject n hne hopen hshown
  rw [send_connected] at hopen
  rw [send_pc]
  rw [send_log] at hshown
  split at hshown
  · rename_i hrecipient
    obtain ⟨rfl, -⟩ := hrecipient
    rw [shown_concat] at hshown
    split at hshown
    · rename_i hsubject
      rw [← hsubject]
      exact h hshown hopen
    · exact hs subject n hne hopen hshown
  · rw [List.append_nil] at hshown
    exact hs subject n hne hopen hshown

theorem Announced.despawn (hs : s.Announced) {n recipient : Nat}
    {recipients : List Nat}
    (hpc : s.pc n = .despawning (recipient :: recipients)) :
    Announced ((s.sendEntityDespawn recipient n).setPc n
      (.despawning recipients)) := by
  have hsent : (s.sendEntityDespawn recipient n).Announced :=
    hs.send fun hspawn => nomatch hspawn
  refine hsent.setPc fun m hne hopen hshown => ?_
  have hahead := hsent n m hne hopen hshown
  rw [sendEntityDespawn, send_pc, hpc] at hahead
  rcases List.mem_cons.mp hahead with rfl | hmem
  · -- this is the one just told
    rw [sendEntityDespawn, send_connected] at hopen
    rw [sendEntityDespawn, send_log, if_pos ⟨rfl, hopen⟩, shown_concat,
      if_pos rfl] at hshown
    cases hshown
  · exact hmem

theorem Announced.despawnSnapshot (hs : s.Announced) (hreg : s.Registry)
    {n : Nat} {order : List Nat} (horder : order.Perm s.sessions)
    (hpc : s.pc n = .leaving) :
    (s.setPc n (.despawning (s.others n order))).Announced := by
  refine hs.setPc fun m hne hopen _ => ?_
  have hn : n ∈ s.sessions := hreg.mapped n (by rw [hpc]; rfl)
  have hm : m ∈ s.sessions := hreg.mapped m (hreg.live m hopen)
  refine List.mem_filter.mpr ⟨horder.mem_iff.mpr hm, decide_eq_true ?_⟩
  intro hid
  exact hne (hreg.distinct m hm n hn hid).symm

theorem Announced.leave (hs : s.Announced) (hreg : s.Registry) {n : Nat}
    (hok : s.DespawnAhead (.leave n)) : (s.leave n).Announced := by
  rw [TcpControlServer.leave]
  split
  · exact hs.setPc fun _ _ _ _ => trivial
  · rename_i hflag
    refine hs.setPc fun m hne hopen hshown => ?_
    have hnone := (hok.resolve_left hflag) m
      (hreg.mapped m (hreg.live m hopen)) hne.symm hopen
    rw [hnone] at hshown
    cases hshown

theorem Announced.accept (hs : s.Announced) (hreg : s.Registry) :
    s.accept.Announced := by
  intro subject n hne hopen hshown
  by_cases hnew : n = s.nextSessionId
  · -- nothing was written to the new session yet
    rw [show s.accept.log n = [] from hreg.unwritten n hnew.ge] at hshown
    cases hshown
  · have hold : s.connected n = true :=
      (s.accept_of_ne n hnew).2.symm.trans hopen
    have hahead := hs subject n hne hold hshown
    by_cases hsubject : subject = s.nextSessionId
    · rw [hsubject, accept_self]
      trivial
    · rwa [(s.accept_of_ne subject hsubject).1]

variable [FloatArith F]

theorem announced_step (hreg : s.Registry) (hs : s.Announced)
    (hok : s.DespawnAhead a) (h : s.step clientIp a = some t) :
    t.Announced := by
  have hmoves := moves_of_step clientIp h
  cases hmoves with
  | accept => exact hs.accept hreg
  | disconnect =>
      exact hs.frame rfl (fun _ hm => (connected_of_closed hm).2)
        fun _ _ h => h
  | @process n message hserving =>
      obtain ⟨-, -, hconnected, hlog⟩ :=
        process_frame (s := s) clientIp n message
      refine hs.frame hlog (fun m hm => hconnected ▸ hm) fun m r hm => ?_
      rcases process_pc clientIp n m message hserving with
        hsame | ⟨rfl, hregistered⟩
      · rwa [hsame]
      · rw [hregistered]
        trivial
  | leave hserving => exact hs.leave hreg hok
  | spawnSnapshot horder hregistered => exact hs.setPc fun _ _ _ _ => trivial
  | despawnSnapshot horder hleaving =>
      exact hs.despawnSnapshot hreg horder hleaving
  | @spawn n recipient subject sends hpc =>
      have hsent : (s.sendEntitySpawn recipient subject).Announced :=
        hs.send fun _ hopen => hok (recipient, subject)
          (by rw [nextSpawn, hpc]; rfl) hopen
      exact hsent.setPc fun _ _ _ _ => trivial
  | spawned hpc => exact hs.setPc fun _ _ _ _ => trivial
  | despawn hpc => exact hs.despawn hpc
  | @despawned n hpc =>
      refine hs.setPc fun m hne hopen hshown => ?_
      have hahead := hs n m hne hopen hshown
      rw [hpc] at hahead
      cases hahead
  | @remove n hpc =>
      obtain ⟨-, hpcs, hlog, hconnected⟩ :=
        removeSession_frame (s := s) (s.sessionId n)
      have hremoved : (s.removeSession (s.sessionId n)).Announced :=
        hs.frame hlog hconnected fun m r hm => by rwa [hpcs]
      refine hremoved.setPc fun m hne hopen hshown => ?_
      have hahead := hremoved n m hne hopen hshown
      rw [hpcs, hpc] at hahead
      cases hahead
  | udpThread => exact hs.frame rfl (fun _ h => h) fun _ _ h => h

end

/-- Session 1 registers and then sends port 0. -/
def unregistered : List (ServerAction Float32) :=
  [[.accept], registerRun 1 [1], [.accept], registerRun 2 [1, 2],
    [.process 1 (.registerUdpPort 0), .disconnect 1, .leave 1,
      .next 1]].flatten

end TcpControlServer

end NetworkControl
