import NetworkControl.TcpControlServer

/-!
# The sessions in the map

What holds of the shared map and of the messages whatever the workers
broadcast: every worker under way finds its own session in the map, under
an id of its own (`Registry`), and what was written to a client names the
entity it is about (`Labelled`).
-/

namespace NetworkControl

def Written.isSpawn (written : Written) : Bool :=
  (EntityWorld.spawnId written.message).isSome

def ServerMessage.entityId : ServerMessage → UInt32
  | .entitySpawn payload => payload.entityId
  | .entityDespawn payload => payload.entityId

/-- The thread exists. -/
def ControlPc.isRunning : ControlPc → Bool
  | absent => false
  | done => false
  | _ => true

namespace TcpControlServer

section

variable {F : Type} {clientIp : Nat → String} {s t : TcpControlServer F}
  {a : ServerAction F}

/-! ## The map and its sessions -/

/-- Every worker's session is in the map, under an id of its own. -/
structure Registry (s : TcpControlServer F) : Prop where
  bound : ∀ n, (s.pc n).isRunning = true → n < s.nextSessionId
  mapped : ∀ n, (s.pc n).isRunning = true → n ∈ s.sessions
  distinct : ∀ m ∈ s.sessions, ∀ n ∈ s.sessions,
    s.sessionId m = s.sessionId n → m = n
  live : ∀ n, s.connected n = true → (s.pc n).isRunning = true
  unwritten : ∀ n, s.nextSessionId ≤ n → s.log n = []

/-- Steps that leave the map alone and write to live sessions only. -/
theorem Registry.frame (hs : s.Registry)
    (hnext : t.nextSessionId = s.nextSessionId)
    (hsessions : t.sessions = s.sessions)
    (hid : ∀ n, t.sessionId n = s.sessionId n)
    (hpc : ∀ n, (t.pc n).isRunning = (s.pc n).isRunning)
    (hconnected : ∀ n, t.connected n = true → s.connected n = true)
    (hlog : ∀ n, s.connected n = false → t.log n = s.log n) :
    t.Registry := by
  refine ⟨?_, ?_, ?_, ?_, ?_⟩
  · intro n hn
    rw [hnext]
    exact hs.bound n (hpc n ▸ hn)
  · intro n hn
    rw [hsessions]
    exact hs.mapped n (hpc n ▸ hn)
  · intro m hm n hn h
    rw [hid, hid] at h
    rw [hsessions] at hm hn
    exact hs.distinct m hm n hn h
  · intro n hn
    rw [hpc]
    exact hs.live n (hconnected n hn)
  · intro n hn
    rw [hnext] at hn
    have hclosed : s.connected n = false := by
      by_contra hopen
      have hbound := hs.bound n (hs.live n (by simpa using hopen))
      omega
    rw [hlog n hclosed]
    exact hs.unwritten n hn

theorem Registry.setPc (hs : s.Registry) {n : Nat} {pc : ControlPc}
    (hpc : pc.isRunning = (s.pc n).isRunning) : (s.setPc n pc).Registry := by
  refine hs.frame rfl rfl (fun _ => rfl) (fun m => ?_) (fun _ h => h)
    (fun _ _ => rfl)
  by_cases hm : m = n
  · subst hm
    rw [setPc_self]
    exact hpc
  · rw [setPc_of_ne _ _ _ _ hm]

theorem Registry.send (hs : s.Registry) (m : Nat) (written : Written) :
    (s.send m written).Registry := by
  refine hs.frame (send_nextSessionId ..) (send_sessions ..)
    (fun n => send_sessionId ..) (fun n => by rw [send_pc])
    (fun n h => by rwa [send_connected] at h) (fun n hclosed => ?_)
  rw [send_log, if_neg, List.append_nil]
  rintro ⟨rfl, hopen⟩
  rw [hclosed] at hopen
  cases hopen

/-- `RemoveSession` finds the worker's own session. -/
theorem Registry.removeSession_eq (hs : s.Registry) {n : Nat}
    (hn : n ∈ s.sessions) :
    (s.removeSession (s.sessionId n)).sessions
        = s.sessions.filter (fun m => s.sessionId m ≠ s.sessionId n)
      ∧ (s.removeSession (s.sessionId n)).connected
        = Function.update s.connected n false := by
  unfold removeSession
  split
  · rename_i hnone
    have hfound := List.find?_eq_none.mp hnone n hn
    exact absurd (decide_eq_true rfl) hfound
  · rename_i m hsome
    have hfound := List.find?_some hsome
    have hid : s.sessionId m = s.sessionId n := of_decide_eq_true hfound
    obtain rfl := hs.distinct m (List.mem_of_find?_eq_some hsome) n hn hid
    exact ⟨rfl, rfl⟩

theorem Registry.remove (hs : s.Registry) {n : Nat}
    (hpc : s.pc n = .removing) :
    Registry ((s.removeSession (s.sessionId n)).setPc n .done) := by
  have hn : n ∈ s.sessions := hs.mapped n (by rw [hpc]; rfl)
  obtain ⟨hsessions, hconnected⟩ := hs.removeSession_eq hn
  obtain ⟨hnext, hpcs, hlog, -⟩ := removeSession_frame (s := s) (s.sessionId n)
  have hid : ∀ m, sessionId ((s.removeSession (s.sessionId n)).setPc n .done) m
      = s.sessionId m := fun m => removeSession_sessionId _ m
  have hrunning : ∀ m, (TcpControlServer.pc
      ((s.removeSession (s.sessionId n)).setPc n .done) m).isRunning = true →
        m ≠ n ∧ (s.pc m).isRunning = true := by
    intro m hm
    by_cases hmn : m = n
    · subst hmn
      rw [setPc_self] at hm
      cases hm
    · rw [setPc_of_ne _ _ _ _ hmn, hpcs] at hm
      exact ⟨hmn, hm⟩
  refine ⟨?_, ?_, ?_, ?_, ?_⟩
  · intro m hm
    rw [setPc_nextSessionId, hnext]
    exact hs.bound m (hrunning m hm).2
  · intro m hm
    obtain ⟨hmn, hold⟩ := hrunning m hm
    rw [setPc_sessions, hsessions]
    refine List.mem_filter.mpr ⟨hs.mapped m hold, decide_eq_true fun h => ?_⟩
    exact hmn (hs.distinct m (hs.mapped m hold) n hn h)
  · intro m hm k hk h
    rw [hid, hid] at h
    rw [setPc_sessions, hsessions] at hm hk
    exact hs.distinct m (List.mem_of_mem_filter hm) k
      (List.mem_of_mem_filter hk) h
  · intro m hm
    rw [setPc_connected, hconnected] at hm
    obtain ⟨hmn, hopen⟩ := connected_of_closed hm
    rw [setPc_of_ne _ _ _ _ hmn, hpcs]
    exact hs.live m hopen
  · intro m hm
    rw [setPc_nextSessionId, hnext] at hm
    rw [setPc_log, hlog]
    exact hs.unwritten m hm

theorem Registry.accept (hs : s.Registry)
    (hfresh : ∀ m ∈ s.sessions, s.sessionId m ≠ s.sessionId s.nextSessionId) :
    s.accept.Registry := by
  have hsessions : s.accept.sessions = s.sessions ++ [s.nextSessionId] :=
    congrArg (· ++ [s.nextSessionId]) (List.filter_eq_self.mpr fun m hm =>
      decide_eq_true (hfresh m hm))
  have hother := fun n (hn : n ≠ s.nextSessionId) => s.accept_of_ne n hn
  refine ⟨?_, ?_, ?_, ?_, ?_⟩
  · intro n hn
    show n < s.nextSessionId + 1
    by_cases hnew : n = s.nextSessionId
    · omega
    · have hbound := hs.bound n (by rwa [(hother n hnew).1] at hn)
      omega
  · intro n hn
    rw [hsessions]
    by_cases hnew : n = s.nextSessionId
    · exact List.mem_append_right _ (List.mem_singleton.mpr hnew)
    · exact List.mem_append_left _
        (hs.mapped n (by rwa [(hother n hnew).1] at hn))
  · intro m hm n hn h
    rw [hsessions] at hm hn
    rcases List.mem_append.mp hm with hm | hm
    · rcases List.mem_append.mp hn with hn | hn
      · exact hs.distinct m hm n hn h
      · obtain rfl := List.mem_singleton.mp hn
        exact absurd h (hfresh m hm)
    · obtain rfl := List.mem_singleton.mp hm
      rcases List.mem_append.mp hn with hn | hn
      · exact absurd h.symm (hfresh n hn)
      · exact (List.mem_singleton.mp hn).symm
  · intro n hn
    by_cases hnew : n = s.nextSessionId
    · rw [hnew, accept_self]
      rfl
    · obtain ⟨hsame, hopen⟩ := hother n hnew
      rw [hsame]
      exact hs.live n (hopen.symm.trans hn)
  · intro n hn
    exact hs.unwritten n (Nat.le_of_succ_le hn)

variable [FloatArith F]

/-- A new session's id must be in nobody else's use. -/
theorem registry_step (hs : s.Registry)
    (hfresh : a = .accept →
      ∀ m ∈ s.sessions, s.sessionId m ≠ s.sessionId s.nextSessionId)
    (h : s.step clientIp a = some t) : t.Registry := by
  have hmoves := moves_of_step clientIp h
  have hid := hmoves.sessionId
  cases hmoves with
  | accept => exact hs.accept (hfresh rfl)
  | disconnect =>
      exact hs.frame rfl rfl hid (fun _ => rfl)
        (fun _ hm => (connected_of_closed hm).2) fun _ _ => rfl
  | @process n message hserving =>
      obtain ⟨hsessions, hnext, hconnected, hlog⟩ :=
        process_frame (s := s) clientIp n message
      refine hs.frame hnext hsessions hid (fun m => ?_)
        (fun m hm => hconnected ▸ hm) fun m _ => congrFun hlog m
      rcases process_pc clientIp n m message hserving with
        hsame | ⟨rfl, hregistered⟩
      · rw [hsame]
      · rw [hregistered, hserving]
        rfl
  | leave hserving =>
      rw [TcpControlServer.leave]
      split
      · exact hs.setPc (by rw [hserving]; rfl)
      · exact hs.setPc (by rw [hserving]; rfl)
  | spawnSnapshot horder hregistered =>
      exact hs.setPc (by rw [hregistered]; rfl)
  | despawnSnapshot horder hleaving =>
      exact hs.setPc (by rw [hleaving]; rfl)
  | spawn hpc => exact (hs.send _ _).setPc (by rw [send_pc, hpc]; rfl)
  | spawned hpc => exact hs.setPc (by rw [hpc]; rfl)
  | despawn hpc => exact (hs.send _ _).setPc (by rw [send_pc, hpc]; rfl)
  | despawned hpc => exact hs.setPc (by rw [hpc]; rfl)
  | remove hpc => exact hs.remove hpc
  | udpThread =>
      exact hs.frame rfl rfl hid (fun _ => rfl) (fun _ h => h)
        fun _ _ => rfl

theorem registry_started : (started : TcpControlServer F).Registry := by
  refine ⟨?_, ?_, ?_, ?_, ?_⟩
  · exact fun _ hn => nomatch hn
  · exact fun _ hn => nomatch hn
  · exact fun _ hm => nomatch hm
  · exact fun _ hn => nomatch hn
  · exact fun _ _ => rfl

/-! ## The messages name the entity -/

def Labelled (s : TcpControlServer F) : Prop :=
  ∀ n, ∀ written ∈ s.log n,
    written.message.entityId = s.entityId written.subject

omit [FloatArith F] in
theorem labelled_send (hs : s.Labelled) {m : Nat} {written : Written}
    (h : written.message.entityId = s.entityId written.subject) :
    ∀ n, ∀ w ∈ (s.send m written).log n,
      w.message.entityId = s.entityId w.subject := by
  intro n w hw
  rw [send_log] at hw
  rcases List.mem_append.mp hw with hold | hnew
  · exact hs n w hold
  · split at hnew
    · rw [List.mem_singleton.mp hnew]
      exact h
    · cases hnew

theorem labelled_step (hs : s.Labelled) (h : s.step clientIp a = some t) :
    t.Labelled := by
  have hmoves := moves_of_step clientIp h
  have hid := hmoves.entityId
  intro n w hw
  rw [hid]
  cases hmoves with
  | spawn hpc => exact labelled_send hs rfl n w hw
  | despawn hpc => exact labelled_send hs rfl n w hw
  | @process m message hserving =>
      rw [(process_frame clientIp m message).2.2.2] at hw
      exact hs n w hw
  | leave hserving =>
      rw [TcpControlServer.leave] at hw
      split at hw
      · exact hs n w hw
      · exact hs n w hw
  | @remove m hpc =>
      rw [setPc_log, (removeSession_frame (s.sessionId m)).2.2.1] at hw
      exact hs n w hw
  | _ => exact hs n w hw

theorem labelled_reachable
    {ok : TcpControlServer F → ServerAction F → Prop}
    (h : (system clientIp).ReachableUnder ok s) : s.Labelled := by
  refine h.invariant ?_ fun _ _ _ hs _ hstep => labelled_step hs hstep
  rintro _ rfl
  exact fun _ _ hw => nomatch hw

end

end TcpControlServer

end NetworkControl
