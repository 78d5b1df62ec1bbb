import NetworkControl.SessionRegistry

/-!
# Who has met whom

Every newcomer introduces itself from a snapshot of its own, and two of
them may do so at once. Of two sessions whose broadcasts have both
returned, the one that took its snapshot later found the other in the map
and wrote both Spawns, so nobody is missed.

Which broadcasts a run began and completed is recorded in a history
variable (`Broadcasts`), since a worker is back at its loop afterwards.
-/

namespace NetworkControl

/-- The worker is in its message loop. -/
def ControlPc.inLoop : ControlPc → Bool
  | serving => true
  | registered => true
  | spawning _ => true
  | _ => false

/-- The sessions whose workers took the snapshot of a
`BroadcastSpawnsForNewSession`, and those whose workers returned from
one. -/
structure Broadcasts where
  begun : List Nat
  completed : List Nat
deriving DecidableEq, Repr

namespace TcpControlServer

section

variable {F : Type}

def recordBroadcasts (s : TcpControlServer F) (a : ServerAction F)
    (broadcasts : Broadcasts) : Broadcasts :=
  match a with
  | .snapshot n _ =>
      if s.pc n = .registered then
        { broadcasts with begun := n :: broadcasts.begun }
      else broadcasts
  | .next n =>
      if s.pc n = .spawning [] then
        { broadcasts with completed := n :: broadcasts.completed }
      else broadcasts
  | _ => broadcasts

/-- The server, and the broadcasts of its run. -/
def broadcastSystem [FloatArith F] (clientIp : Nat → String) :
    Lts (TcpControlServer F × Broadcasts) (ServerAction F) :=
  (system clientIp).recording recordBroadcasts ⟨[], []⟩

/-- `nextSessionId_` starts at 1. -/
def acceptedCount (s : TcpControlServer F) : Nat := s.nextSessionId - 1

/-- `recipient` was sent a Spawn with the id of `subject`. -/
def SentSpawn (s : TcpControlServer F) (recipient subject : Nat) : Prop :=
  ∃ payload, .entitySpawn payload ∈ s.messages recipient
    ∧ payload.entityId = s.entityId subject

/-- `recipient` was sent a Despawn with the id of `subject`. -/
def SentDespawn (s : TcpControlServer F) (recipient subject : Nat) : Prop :=
  ∃ payload, .entityDespawn payload ∈ s.messages recipient
    ∧ payload.entityId = s.entityId subject

end

section

variable {F : Type} [FloatArith F] {clientIp : Nat → String}
  {s t : TcpControlServer F} {a : ServerAction F}

/-! ## What no step takes back -/

/-- Only `accept` adds a session or opens a socket. -/
theorem Moves.map_cases (h : Moves clientIp s a t) :
    t = s.accept
      ∨ t.nextSessionId = s.nextSessionId
        ∧ (∀ n ∈ t.sessions, n ∈ s.sessions)
        ∧ ∀ n, t.connected n = true → s.connected n = true := by
  cases h with
  | accept => exact Or.inl rfl
  | disconnect =>
      exact Or.inr ⟨rfl, fun _ h => h, fun _ h => (connected_of_closed h).2⟩
  | @process n message hserving =>
      obtain ⟨hsessions, hnext, hconnected, -⟩ :=
        process_frame (s := s) clientIp n message
      exact Or.inr ⟨hnext, fun _ h => hsessions ▸ h, fun _ h => hconnected ▸ h⟩
  | leave hserving =>
      unfold TcpControlServer.leave
      split <;> exact Or.inr ⟨rfl, fun _ h => h, fun _ h => h⟩
  | spawn hpc =>
      refine Or.inr ⟨send_nextSessionId .., fun n h => ?_, fun n h => ?_⟩
      · rwa [setPc_sessions, sendEntitySpawn, send_sessions] at h
      · rwa [setPc_connected, sendEntitySpawn, send_connected] at h
  | despawn hpc =>
      refine Or.inr ⟨send_nextSessionId .., fun n h => ?_, fun n h => ?_⟩
      · rwa [setPc_sessions, sendEntityDespawn, send_sessions] at h
      · rwa [setPc_connected, sendEntityDespawn, send_connected] at h
  | @remove m hpc =>
      obtain ⟨hnext, -, -, hconnected⟩ :=
        removeSession_frame (s := s) (s.sessionId m)
      refine Or.inr ⟨hnext, fun n h => ?_, hconnected⟩
      rw [setPc_sessions, removeSession] at h
      split at h
      · exact h
      · exact List.mem_of_mem_filter h
  | _ => exact Or.inr ⟨rfl, fun _ h => h, fun _ h => h⟩

/-- Sessions are numbered as they are accepted. -/
theorem Moves.nextSessionId (h : Moves clientIp s a t) :
    s.nextSessionId ≤ t.nextSessionId := by
  rcases h.map_cases with rfl | ⟨hnext, -, -⟩
  · exact Nat.le_succ _
  · exact hnext.ge

/-- A socket once closed stays closed. -/
theorem Moves.connected (h : Moves clientIp s a t) {n : Nat}
    (hn : n < s.nextSessionId) (hopen : t.connected n = true) :
    s.connected n = true := by
  rcases h.map_cases with rfl | ⟨-, -, hconnected⟩
  · rwa [(s.accept_of_ne n hn.ne).2] at hopen
  · exact hconnected n hopen

/-- Nothing written is taken back. -/
theorem Moves.log (h : Moves clientIp s a t) {n : Nat} {written : Written}
    (hw : written ∈ s.log n) : written ∈ t.log n := by
  rcases h.log_cases n with
    hsame | ⟨m, subject, -, -, -, hlog⟩ | ⟨m, _, -, hlog⟩
  · rw [hsame]
    exact hw
  · rw [hlog]
    exact List.mem_append_left _ hw
  · rw [hlog]
    exact List.mem_append_left _ hw

omit [FloatArith F] in
theorem inLoop_setPc {n m : Nat} {pc : ControlPc}
    (hloop : ((s.setPc n pc).pc m).inLoop = true)
    (hpc : pc.inLoop = true → (s.pc n).inLoop = true) :
    (s.pc m).inLoop = true := by
  by_cases hm : m = n
  · subst hm
    rw [setPc_self] at hloop
    exact hpc hloop
  · rwa [setPc_of_ne _ _ _ _ hm] at hloop

/-- A worker does not come back to its loop. -/
theorem Moves.inLoop (h : Moves clientIp s a t) {n : Nat}
    (hn : n < s.nextSessionId) (hloop : (t.pc n).inLoop = true) :
    (s.pc n).inLoop = true := by
  cases h with
  | accept => rwa [(s.accept_of_ne n hn.ne).1] at hloop
  | disconnect => exact hloop
  | @process m message hserving =>
      rcases process_pc clientIp m n message hserving with
        hsame | ⟨rfl, hregistered⟩
      · rwa [hsame] at hloop
      · rw [hserving]
        rfl
  | leave hserving =>
      rw [TcpControlServer.leave] at hloop
      split at hloop
      · exact inLoop_setPc hloop fun hpc => by cases hpc
      · exact inLoop_setPc hloop fun hpc => by cases hpc
  | spawnSnapshot horder hregistered =>
      exact inLoop_setPc hloop fun _ => by rw [hregistered]; rfl
  | despawnSnapshot horder hleaving =>
      exact inLoop_setPc hloop fun hpc => by cases hpc
  | spawn hpc =>
      have hsent := inLoop_setPc hloop fun _ => by
        rw [sendEntitySpawn, send_pc, hpc]
        rfl
      rwa [sendEntitySpawn, send_pc] at hsent
  | spawned hpc => exact inLoop_setPc hloop fun _ => by rw [hpc]; rfl
  | despawn hpc =>
      have hsent := inLoop_setPc hloop fun hpc => by cases hpc
      rwa [sendEntityDespawn, send_pc] at hsent
  | despawned hpc => exact inLoop_setPc hloop fun hpc => by cases hpc
  | @remove m hpc =>
      have hremoved := inLoop_setPc hloop fun hpc => by cases hpc
      rwa [(removeSession_frame (s.sessionId m)).2.1] at hremoved
  | udpThread => exact hloop

/-! ## The ids -/

/-- A session's id is its number, and the map holds accepted sessions. -/
structure Numbered (s : TcpControlServer F) : Prop where
  id : ∀ n, s.sessionId n = UInt64.ofNat n
  accepted : ∀ n ∈ s.sessions, n < s.nextSessionId

omit [FloatArith F] in
/-- Below `2 ^ 32` the entity ids are distinct. -/
theorem Numbered.entityId_inj (hs : s.Numbered) {m n : Nat}
    (hm : m < 2 ^ 32) (hn : n < 2 ^ 32)
    (h : s.entityId m = s.entityId n) : m = n := by
  have hnat : ∀ k, k < 2 ^ 32 → (s.entityId k).toNat = k := by
    intro k hk
    show (s.sessionId k).toUInt32.toNat = k
    rw [hs.id, UInt64.toNat_toUInt32, UInt64.toNat_ofNat']
    omega
  rw [← hnat m hm, ← hnat n hn, h]

omit [FloatArith F] in
theorem Numbered.fresh (hs : s.Numbered) (hnext : s.nextSessionId < 2 ^ 32) :
    ∀ m ∈ s.sessions, s.sessionId m ≠ s.sessionId s.nextSessionId := by
  intro m hm hid
  have hlt := hs.accepted m hm
  have heq := hs.entityId_inj (hlt.trans hnext) hnext
    (congrArg UInt64.toUInt32 hid)
  omega

theorem numbered_step (hs : s.Numbered) (h : s.step clientIp a = some t) :
    t.Numbered := by
  have hmoves := moves_of_step clientIp h
  refine ⟨fun n => (hmoves.sessionId n).trans (hs.id n), fun n hn => ?_⟩
  rcases hmoves.map_cases with rfl | ⟨hnext, hsessions, -⟩
  · show n < s.nextSessionId + 1
    rcases List.mem_append.mp hn with hold | hnew
    · exact (hs.accepted n (List.mem_of_mem_filter hold)).trans
        (Nat.lt_succ_self _)
    · rw [List.mem_singleton.mp hnew]
      exact Nat.lt_succ_self _
  · rw [hnext]
    exact hs.accepted n (hsessions n hn)

/-! ## Introductions -/

/-- A first broadcast of `n` still has the send ahead. -/
def Pending (s : TcpControlServer F) (broadcasts : Broadcasts) (n : Nat)
    (send : Nat × Nat) : Prop :=
  n ∉ broadcasts.completed ∧ ∃ sends, s.pc n = .spawning sends ∧ send ∈ sends

/-- The Spawn of `subject` was written to `recipient`. -/
def Met (s : TcpControlServer F) (recipient subject : Nat) : Prop :=
  ∃ written ∈ s.log recipient, written.subject = subject
    ∧ written.isSpawn = true

/-- Of two sessions in their loops that began a broadcast, each has met
the other, or one of them still has the Spawn to send. -/
structure Introducing (s : TcpControlServer F) (broadcasts : Broadcasts) :
    Prop where
  accepted : ∀ n ∈ broadcasts.begun, n < s.nextSessionId
  begun : ∀ n ∈ broadcasts.completed, n ∈ broadcasts.begun
  spawning : ∀ n sends, s.pc n = .spawning sends → n ∈ broadcasts.begun
  met : ∀ m ∈ broadcasts.begun, ∀ n ∈ broadcasts.begun, m ≠ n →
    (s.pc m).inLoop = true → (s.pc n).inLoop = true →
    s.connected m = true → s.Met m n ∨ s.Pending broadcasts m (m, n)
      ∨ s.Pending broadcasts n (m, n)

variable {broadcasts broadcasts' : Broadcasts}

theorem Moves.met (h : Moves clientIp s a t) {m n : Nat} (hmet : s.Met m n) :
    t.Met m n := by
  obtain ⟨written, hw, hsubject, hspawn⟩ := hmet
  exact ⟨written, h.log hw, hsubject, hspawn⟩

/-- A broadcast of Spawns goes on, begins, or has just made a send. -/
theorem Moves.spawning_cases (h : Moves clientIp s a t) {n : Nat}
    {sends : List (Nat × Nat)} (hpc : t.pc n = .spawning sends) :
    s.pc n = .spawning sends
      ∨ (∃ order, a = .snapshot n order ∧ order.Perm s.sessions
        ∧ s.pc n = .registered ∧ sends = s.spawnSends n order)
      ∨ ∃ send, a = .next n ∧ s.pc n = .spawning (send :: sends)
        ∧ (s.connected send.1 = true → t.Met send.1 send.2) := by
  have hsetPc : ∀ {u : TcpControlServer F} {m : Nat} {pc : ControlPc},
      (u.setPc m pc).pc n = .spawning sends →
      u.pc n = .spawning sends ∨ n = m ∧ pc = .spawning sends := by
    intro u m pc hu
    by_cases hnm : n = m
    · rw [hnm, setPc_self] at hu
      exact Or.inr ⟨hnm, hu⟩
    · rw [setPc_of_ne _ _ _ _ hnm] at hu
      exact Or.inl hu
  cases h with
  | accept =>
      by_cases hnew : n = s.nextSessionId
      · rw [hnew, accept_self] at hpc
        cases hpc
      · exact Or.inl ((s.accept_of_ne n hnew).1.symm.trans hpc)
  | disconnect => exact Or.inl hpc
  | @process m message hserving =>
      rcases process_pc clientIp m n message hserving with
        hsame | ⟨-, hregistered⟩
      · exact Or.inl (hsame.symm.trans hpc)
      · rw [hregistered] at hpc
        cases hpc
  | leave hserving =>
      revert hpc
      unfold TcpControlServer.leave
      split <;>
        exact fun hpc => (hsetPc hpc).imp id fun h => nomatch h.2
  | @spawnSnapshot m order horder hregistered =>
      rcases hsetPc hpc with hold | ⟨rfl, hsends⟩
      · exact Or.inl hold
      · obtain rfl := ControlPc.spawning.inj hsends
        exact Or.inr (Or.inl ⟨order, rfl, horder, hregistered, rfl⟩)
  | @spawn m recipient subject left hspawning =>
      rcases hsetPc hpc with hold | ⟨rfl, hsends⟩
      · rw [sendEntitySpawn, send_pc] at hold
        exact Or.inl hold
      · obtain rfl := ControlPc.spawning.inj hsends
        refine Or.inr (Or.inr ⟨(recipient, subject), rfl, hspawning, ?_⟩)
        intro hopen
        refine ⟨⟨subject, .entitySpawn
          (s.control subject).session.buildEntitySpawnPayload⟩, ?_, rfl, rfl⟩
        rw [setPc_log, sendEntitySpawn, send_log, if_pos ⟨rfl, hopen⟩]
        exact List.mem_append_right _ (List.mem_singleton_self _)
  | despawn hdespawning =>
      rcases hsetPc hpc with hold | ⟨-, hsends⟩
      · rw [sendEntityDespawn, send_pc] at hold
        exact Or.inl hold
      · cases hsends
  | @remove m hremoving =>
      rcases hsetPc hpc with hold | ⟨-, hsends⟩
      · rw [(removeSession_frame (s.sessionId m)).2.1] at hold
        exact Or.inl hold
      · cases hsends
  | udpThread => exact Or.inl hpc
  | _ =>
      rcases hsetPc hpc with hold | ⟨-, hsends⟩
      · exact Or.inl hold
      · cases hsends

/-! ## Whom a Spawn is about -/

/-- Workers are those of accepted sessions, and send Spawns of such to
such. -/
structure Announcing (s : TcpControlServer F) : Prop where
  numbered : s.Numbered
  bound : ∀ n, s.pc n ≠ .absent → n < s.nextSessionId
  sends : ∀ n sends, s.pc n = .spawning sends →
    ∀ send ∈ sends, send.1 < s.nextSessionId ∧ send.2 < s.nextSessionId

omit [FloatArith F] in
/-- The newcomer is one end of each of its sends. -/
theorem mem_spawnSends {n : Nat} {order : List Nat} {send : Nat × Nat}
    (h : send ∈ s.spawnSends n order) :
    send = (n, n) ∨ (send.1 = n ∧ send.2 ∈ s.others n order)
      ∨ send.1 ∈ s.others n order ∧ send.2 = n := by
  rcases List.mem_cons.mp h with rfl | h
  · exact Or.inl rfl
  · rcases List.mem_append.mp h with h | h
    · obtain ⟨other, hother, rfl⟩ := List.mem_map.mp h
      exact Or.inr (Or.inl ⟨rfl, hother⟩)
    · obtain ⟨other, hother, rfl⟩ := List.mem_map.mp h
      exact Or.inr (Or.inr ⟨hother, rfl⟩)

theorem Moves.pc_absent (h : Moves clientIp s a t) {n : Nat}
    (hn : t.pc n ≠ .absent) :
    s.pc n ≠ .absent ∨ n < t.nextSessionId := by
  have hsetPc : ∀ {u : TcpControlServer F} {m : Nat} {pc : ControlPc},
      u.pc = s.pc → s.pc m ≠ .absent → (u.setPc m pc).pc n ≠ .absent →
      s.pc n ≠ .absent := by
    intro u m pc hu hm hn
    by_cases hnm : n = m
    · rw [hnm]
      exact hm
    · rwa [setPc_of_ne _ _ _ _ hnm, hu] at hn
  cases h with
  | accept =>
      by_cases hnew : n = s.nextSessionId
      · rw [hnew]
        exact Or.inr (Nat.lt_succ_self _)
      · rw [(s.accept_of_ne n hnew).1] at hn
        exact Or.inl hn
  | disconnect => exact Or.inl hn
  | @process m message hserving =>
      rcases process_pc clientIp m n message hserving with
        hsame | ⟨rfl, -⟩
      · rw [hsame] at hn
        exact Or.inl hn
      · exact Or.inl (by simp [hserving])
  | leave hserving =>
      revert hn
      unfold TcpControlServer.leave
      split <;>
        exact fun hn => Or.inl (hsetPc rfl (by simp [hserving]) hn)
  | spawnSnapshot horder hpc =>
      exact Or.inl (hsetPc rfl (by simp [hpc]) hn)
  | despawnSnapshot horder hpc =>
      exact Or.inl (hsetPc rfl (by simp [hpc]) hn)
  | spawn hpc =>
      refine Or.inl (hsetPc ?_ (by simp [hpc]) hn)
      rw [sendEntitySpawn, send_pc]
  | spawned hpc => exact Or.inl (hsetPc rfl (by simp [hpc]) hn)
  | despawn hpc =>
      refine Or.inl (hsetPc ?_ (by simp [hpc]) hn)
      rw [sendEntityDespawn, send_pc]
  | despawned hpc => exact Or.inl (hsetPc rfl (by simp [hpc]) hn)
  | @remove m hpc =>
      refine Or.inl (hsetPc ?_ (by simp [hpc]) hn)
      exact (removeSession_frame (s.sessionId m)).2.1
  | udpThread => exact Or.inl hn

omit [FloatArith F] in
theorem Announcing.nextSpawn_lt (hs : s.Announcing) {n : Nat}
    {send : Nat × Nat} (hsend : s.nextSpawn n = some send) :
    send.1 < s.nextSessionId ∧ send.2 < s.nextSessionId := by
  unfold nextSpawn at hsend
  split at hsend
  · rename_i sends hpc
    exact hs.sends n sends hpc send (List.mem_of_mem_head? hsend)
  · cases hsend

/-- What a broadcast still sends is from and to accepted sessions. -/
theorem Announcing.sends_lt (hs : s.Announcing) (hmoves : Moves clientIp s a t)
    {n : Nat} {sends : List (Nat × Nat)} (hpc : t.pc n = .spawning sends)
    {send : Nat × Nat} (hsend : send ∈ sends) :
    send.1 < s.nextSessionId ∧ send.2 < s.nextSessionId := by
  rcases hmoves.spawning_cases hpc with
    hold | ⟨order, -, horder, hregistered, rfl⟩ | ⟨first, -, hold, -⟩
  · exact hs.sends n sends hold send hsend
  · have hn : n < s.nextSessionId := hs.bound n (by simp [hregistered])
    have hothers : ∀ m ∈ s.others n order, m < s.nextSessionId :=
      fun m hm => hs.numbered.accepted m
        (horder.mem_iff.mp (List.mem_of_mem_filter hm))
    rcases mem_spawnSends hsend with
      rfl | ⟨hself, hother⟩ | ⟨hother, hself⟩
    · exact ⟨hn, hn⟩
    · exact ⟨hself ▸ hn, hothers _ hother⟩
    · exact ⟨hothers _ hother, hself ▸ hn⟩
  · exact hs.sends n _ hold send (List.mem_cons_of_mem _ hsend)

theorem announcing_step (hs : s.Announcing)
    (h : s.step clientIp a = some t) : t.Announcing := by
  have hmoves := moves_of_step clientIp h
  have hnext := hmoves.nextSessionId
  refine ⟨numbered_step hs.numbered h, fun n hn => ?_, ?_⟩
  · rcases hmoves.pc_absent hn with hold | hnew
    · exact (hs.bound n hold).trans_le hnext
    · exact hnew
  · intro n sends hpc send hsend
    obtain ⟨hrecipient, hsubject⟩ := hs.sends_lt hmoves hpc hsend
    exact ⟨hrecipient.trans_le hnext, hsubject.trans_le hnext⟩

theorem announcing_started : (started : TcpControlServer F).Announcing :=
  ⟨⟨fun _ => rfl, fun _ hm => by cases hm⟩, fun _ hpc => absurd rfl hpc,
    fun _ _ hpc => by cases hpc⟩

/-- A step makes a pending send, or leaves it pending. -/
theorem Introducing.met_step (hs : s.Introducing broadcasts)
    (hmoves : Moves clientIp s a t)
    (hpending : ∀ n send, s.connected send.1 = true →
      s.Pending broadcasts n send →
        t.Met send.1 send.2 ∨ t.Pending broadcasts' n send) :
    ∀ m ∈ broadcasts.begun, ∀ n ∈ broadcasts.begun, m ≠ n →
      (t.pc m).inLoop = true → (t.pc n).inLoop = true →
      t.connected m = true → t.Met m n ∨ t.Pending broadcasts' m (m, n)
        ∨ t.Pending broadcasts' n (m, n) := by
  intro m hm n hn hne hloopm hloopn hopen
  have hopen := hmoves.connected (hs.accepted m hm) hopen
  have hmet := hs.met m hm n hn hne
    (hmoves.inLoop (hs.accepted m hm) hloopm)
    (hmoves.inLoop (hs.accepted n hn) hloopn) hopen
  rcases hmet with hmet | hpend | hpend
  · exact Or.inl (hmoves.met hmet)
  · rcases hpending m (m, n) hopen hpend with hnow | hstill
    · exact Or.inl hnow
    · exact Or.inr (Or.inl hstill)
  · rcases hpending n (m, n) hopen hpend with hnow | hstill
    · exact Or.inl hnow
    · exact Or.inr (Or.inr hstill)

theorem Introducing.accepted_step (hs : s.Introducing broadcasts)
    (hmoves : Moves clientIp s a t) :
    ∀ n ∈ broadcasts.begun, n < t.nextSessionId := fun n hn =>
  Nat.lt_of_lt_of_le (hs.accepted n hn) hmoves.nextSessionId

/-- The steps that are no part of a broadcast of Spawns. -/
theorem Introducing.frame (hs : s.Introducing broadcasts)
    (hmoves : Moves clientIp s a t)
    (hpc : ∀ n sends, t.pc n = .spawning sends ↔ s.pc n = .spawning sends) :
    t.Introducing broadcasts := by
  refine ⟨hs.accepted_step hmoves, hs.begun, fun n sends hn => ?_,
    hs.met_step hmoves fun n send _ hpend => ?_⟩
  · exact hs.spawning n sends ((hpc n sends).mp hn)
  · obtain ⟨hfirst, sends, hn, hmem⟩ := hpend
    exact Or.inr ⟨hfirst, sends, (hpc n sends).mpr hn, hmem⟩

omit [FloatArith F] in
theorem spawning_setPc {n : Nat} {pc : ControlPc}
    (hold : ∀ sends, s.pc n ≠ .spawning sends)
    (hnew : ∀ sends, pc ≠ .spawning sends) (m : Nat)
    (sends : List (Nat × Nat)) :
    (s.setPc n pc).pc m = .spawning sends ↔ s.pc m = .spawning sends := by
  by_cases hm : m = n
  · subst hm
    rw [setPc_self]
    exact ⟨fun h => absurd h (hnew sends), fun h => absurd h (hold sends)⟩
  · rw [setPc_of_ne _ _ _ _ hm]

omit [FloatArith F] in
theorem isRunning_of_inLoop {pc : ControlPc} (h : pc.inLoop = true) :
    pc.isRunning = true := by
  cases pc <;> first | rfl | cases h

omit [FloatArith F] in
/-- A snapshot covers both directions for every session under way. -/
theorem Registry.mem_spawnSends (hs : s.Registry) {n m : Nat}
    {order : List Nat} (horder : order.Perm s.sessions)
    (hn : (s.pc n).inLoop = true) (hm : (s.pc m).inLoop = true)
    (hne : m ≠ n) : (n, m) ∈ s.spawnSends n order
      ∧ (m, n) ∈ s.spawnSends n order := by
  have hmapn := hs.mapped n (isRunning_of_inLoop hn)
  have hmapm := hs.mapped m (isRunning_of_inLoop hm)
  have hother : m ∈ s.others n order :=
    List.mem_filter.mpr ⟨horder.mem_iff.mpr hmapm, decide_eq_true fun hid =>
      hne (hs.distinct m hmapm n hmapn hid)⟩
  refine ⟨List.mem_cons_of_mem _ (List.mem_append_left _ ?_),
    List.mem_cons_of_mem _ (List.mem_append_right _ ?_)⟩
  · exact List.mem_map_of_mem hother
  · exact List.mem_map_of_mem hother

theorem Introducing.snapshot (hs : s.Introducing broadcasts)
    (hreg : s.Registry) {n : Nat} {order : List Nat}
    (horder : order.Perm s.sessions) (hpc : s.pc n = .registered)
    (hmoves : Moves clientIp s (.snapshot n order)
      (s.setPc n (.spawning (s.spawnSends n order)))) :
    (s.setPc n (.spawning (s.spawnSends n order))).Introducing
      { broadcasts with begun := n :: broadcasts.begun } := by
  have hloop : (s.pc n).inLoop = true := by
    rw [hpc]
    rfl
  have hbound := hreg.bound n (isRunning_of_inLoop hloop)
  have hpending : ∀ m send, s.connected send.1 = true →
      s.Pending broadcasts m send →
      Met (s.setPc n (.spawning (s.spawnSends n order))) send.1 send.2
        ∨ Pending (s.setPc n (.spawning (s.spawnSends n order))) broadcasts
          m send := by
    intro m send _ hpend
    obtain ⟨hfirst, sends, hm, hmem⟩ := hpend
    have hmn : m ≠ n := by
      rintro rfl
      rw [hpc] at hm
      cases hm
    exact Or.inr ⟨hfirst, sends, by rwa [setPc_of_ne _ _ _ _ hmn], hmem⟩
  have hold := hs.met_step hmoves hpending
  refine ⟨?_, fun m hm => List.mem_cons_of_mem n (hs.begun m hm), ?_, ?_⟩
  · intro m hm
    rcases List.mem_cons.mp hm with rfl | hm
    · exact hbound
    · exact hs.accepted m hm
  · intro m sends hm
    by_cases hmn : m = n
    · rw [hmn]
      exact List.mem_cons_self ..
    · rw [setPc_of_ne _ _ _ _ hmn] at hm
      exact List.mem_cons_of_mem _ (hs.spawning m sends hm)
  · intro m hm k hk hne hloopm hloopk hopen
    by_cases hagain : n ∈ broadcasts.completed
    · -- a second broadcast: who met `n` before has met it
      have hbefore : ∀ m ∈ n :: broadcasts.begun, m ∈ broadcasts.begun := by
        intro m hm
        rcases List.mem_cons.mp hm with rfl | hm
        · exact hs.begun m hagain
        · exact hm
      exact hold m (hbefore m hm) k (hbefore k hk) hne hloopm hloopk hopen
    · rcases List.mem_cons.mp hm with rfl | hbeforem
      · rcases List.mem_cons.mp hk with rfl | hbeforek
        · exact absurd rfl hne
        · have hsend := hreg.mem_spawnSends horder hloop
            (hmoves.inLoop (hs.accepted k hbeforek) hloopk) hne.symm
          exact Or.inr (Or.inl ⟨hagain, _, setPc_self .., hsend.1⟩)
      · rcases List.mem_cons.mp hk with rfl | hbeforek
        · have hsend := hreg.mem_spawnSends horder hloop
            (hmoves.inLoop (hs.accepted m hbeforem) hloopm) hne
          exact Or.inr (Or.inr ⟨hagain, _, setPc_self .., hsend.2⟩)
        · exact hold m hbeforem k hbeforek hne hloopm hloopk hopen

theorem Introducing.spawn (hs : s.Introducing broadcasts)
    {n recipient subject : Nat} {sends : List (Nat × Nat)}
    (hpc : s.pc n = .spawning ((recipient, subject) :: sends))
    (hmoves : Moves clientIp s (.next n)
      ((s.sendEntitySpawn recipient subject).setPc n (.spawning sends))) :
    Introducing ((s.sendEntitySpawn recipient subject).setPc n
      (.spawning sends)) broadcasts := by
  have hothers : ∀ m, m ≠ n → TcpControlServer.pc
      ((s.sendEntitySpawn recipient subject).setPc n (.spawning sends)) m
        = s.pc m := by
    intro m hm
    rw [setPc_of_ne _ _ _ _ hm, sendEntitySpawn, send_pc]
  refine ⟨hs.accepted_step hmoves, hs.begun, fun m left hm => ?_,
    hs.met_step hmoves fun m send hopen hpend => ?_⟩
  · by_cases hmn : m = n
    · rw [hmn]
      exact hs.spawning n _ hpc
    · rw [hothers m hmn] at hm
      exact hs.spawning m left hm
  · obtain ⟨hfirst, left, hm, hmem⟩ := hpend
    by_cases hmn : m = n
    · subst hmn
      obtain rfl := ControlPc.spawning.inj (hpc.symm.trans hm)
      rcases List.mem_cons.mp hmem with rfl | hmem
      · -- this is the send made now
        refine Or.inl ⟨⟨subject, .entitySpawn
          (s.control subject).session.buildEntitySpawnPayload⟩, ?_, rfl, rfl⟩
        rw [setPc_log, sendEntitySpawn, send_log, if_pos ⟨rfl, hopen⟩]
        exact List.mem_append_right _ (List.mem_singleton_self _)
      · exact Or.inr ⟨hfirst, sends, setPc_self .., hmem⟩
    · exact Or.inr ⟨hfirst, left, (hothers m hmn).trans hm, hmem⟩

theorem Introducing.spawned (hs : s.Introducing broadcasts) {n : Nat}
    (hpc : s.pc n = .spawning [])
    (hmoves : Moves clientIp s (.next n) (s.setPc n .serving)) :
    (s.setPc n .serving).Introducing
      { broadcasts with completed := n :: broadcasts.completed } := by
  refine ⟨hs.accepted_step hmoves, fun m hm => ?_, fun m sends hm => ?_,
    hs.met_step hmoves fun m send _ hpend => ?_⟩
  · rcases List.mem_cons.mp hm with rfl | hm
    · exact hs.spawning m [] hpc
    · exact hs.begun m hm
  · by_cases hmn : m = n
    · subst hmn
      rw [setPc_self] at hm
      cases hm
    · rw [setPc_of_ne _ _ _ _ hmn] at hm
      exact hs.spawning m sends hm
  · obtain ⟨hfirst, sends, hm, hmem⟩ := hpend
    have hmn : m ≠ n := by
      rintro rfl
      obtain rfl := ControlPc.spawning.inj (hpc.symm.trans hm)
      cases hmem
    refine Or.inr ⟨fun hdone => ?_, sends, ?_, hmem⟩
    · rcases List.mem_cons.mp hdone with rfl | hdone
      · exact hmn rfl
      · exact hfirst hdone
    · rwa [setPc_of_ne _ _ _ _ hmn]

theorem introducing_step (hreg : s.Registry)
    (hs : s.Introducing broadcasts) (h : s.step clientIp a = some t) :
    t.Introducing (s.recordBroadcasts a broadcasts) := by
  have hmoves := moves_of_step clientIp h
  have hkept := hmoves
  cases hmoves with
  | accept =>
      refine hs.frame hkept fun n sends => ?_
      by_cases hn : n = s.nextSessionId
      · subst hn
        rw [accept_self]
        refine ⟨fun hpc => (by cases hpc), fun hpc => ?_⟩
        have hbound := hreg.bound s.nextSessionId (by rw [hpc]; rfl)
        exact absurd hbound (Nat.lt_irrefl _)
      · rw [(s.accept_of_ne n hn).1]
  | disconnect => exact hs.frame hkept fun _ _ => Iff.rfl
  | @process n message hserving =>
      refine hs.frame hkept fun m sends => ?_
      rcases process_pc clientIp n m message hserving with
        hsame | ⟨rfl, hregistered⟩
      · rw [hsame]
      · rw [hregistered, hserving]
        exact ⟨fun hpc => (by cases hpc), fun hpc => by cases hpc⟩
  | @leave n hserving =>
      refine hs.frame hkept ?_
      have hold : ∀ sends, s.pc n ≠ .spawning sends := fun _ hpc => by
        rw [hserving] at hpc
        cases hpc
      rw [TcpControlServer.leave]
      split
      · exact spawning_setPc hold fun _ hpc => by cases hpc
      · exact spawning_setPc hold fun _ hpc => by cases hpc
  | spawnSnapshot horder hpc =>
      rw [recordBroadcasts, if_pos hpc]
      exact hs.snapshot hreg horder hpc hkept
  | despawnSnapshot horder hpc =>
      rw [recordBroadcasts, if_neg (by rw [hpc]; intro h; cases h)]
      refine hs.frame hkept (spawning_setPc ?_ fun _ h => by cases h)
      exact fun _ hspawning => by cases hpc.symm.trans hspawning
  | spawn hpc =>
      rw [recordBroadcasts, if_neg (by rw [hpc]; intro h; cases h)]
      exact hs.spawn hpc hkept
  | spawned hpc =>
      rw [recordBroadcasts, if_pos hpc]
      exact hs.spawned hpc hkept
  | despawn hpc =>
      rw [recordBroadcasts, if_neg (by rw [hpc]; intro h; cases h)]
      refine hs.frame hkept fun m sends => ?_
      refine (spawning_setPc ?_ ?_ m sends).trans ?_
      · rw [sendEntityDespawn, send_pc]
        exact fun _ hspawning => by cases hpc.symm.trans hspawning
      · exact fun _ h => by cases h
      · rw [sendEntityDespawn, send_pc]
  | despawned hpc =>
      rw [recordBroadcasts, if_neg (by rw [hpc]; intro h; cases h)]
      refine hs.frame hkept (spawning_setPc ?_ fun _ h => by cases h)
      exact fun _ hspawning => by cases hpc.symm.trans hspawning
  | @remove n hpc =>
      rw [recordBroadcasts, if_neg (by rw [hpc]; intro h; cases h)]
      have hpcs := (removeSession_frame (s := s) (s.sessionId n)).2.1
      refine hs.frame hkept fun m sends => ?_
      refine (spawning_setPc ?_ ?_ m sends).trans ?_
      · rw [hpcs]
        exact fun _ hspawning => by cases hpc.symm.trans hspawning
      · exact fun _ h => by cases h
      · rw [hpcs]
  | udpThread => exact hs.frame hkept fun _ _ => Iff.rfl

/-! ## Despawns -/

/-- A Despawn is only ever written for a worker that left its loop. -/
def Withdrawn (s : TcpControlServer F) : Prop :=
  ∀ n, ∀ written ∈ s.log n, written.isSpawn = false →
    written.subject < s.nextSessionId
      ∧ (s.pc written.subject).inLoop = false

theorem withdrawn_step (hreg : s.Registry) (hs : s.Withdrawn)
    (h : s.step clientIp a = some t) : t.Withdrawn := by
  have hmoves := moves_of_step clientIp h
  intro n written hw hdespawn
  have hout : written.subject < s.nextSessionId
      ∧ (s.pc written.subject).inLoop = false := by
    rcases hmoves.log_cases n with
      hsame | ⟨m, subject, -, -, -, hlog⟩ | ⟨m, recipients, hpc, hlog⟩
    · rw [hsame] at hw
      exact hs n written hw hdespawn
    · rw [hlog] at hw
      rcases List.mem_append.mp hw with hold | hnew
      · exact hs n written hold hdespawn
      · rw [List.mem_singleton.mp hnew] at hdespawn
        cases hdespawn
    · rw [hlog] at hw
      rcases List.mem_append.mp hw with hold | hnew
      · exact hs n written hold hdespawn
      · rw [List.mem_singleton.mp hnew]
        refine ⟨hreg.bound m ?_, ?_⟩
        · rw [hpc]
          rfl
        · rw [hpc]
          rfl
  refine ⟨Nat.lt_of_lt_of_le hout.1 hmoves.nextSessionId, ?_⟩
  cases hloop : (t.pc written.subject).inLoop with
  | false => rfl
  | true =>
      rw [hmoves.inLoop hout.1 hloop] at hout
      cases hout.2

/-! ## The roster -/

/-- What holds of every run that accepts fewer than `2 ^ 32` sessions. -/
structure Rostered (s : TcpControlServer F) (broadcasts : Broadcasts) :
    Prop where
  numbered : s.Numbered
  registry : s.Registry
  introducing : s.Introducing broadcasts
  withdrawn : s.Withdrawn

theorem rostered_started :
    (started : TcpControlServer F).Rostered ⟨[], []⟩ := by
  refine ⟨⟨fun _ => rfl, fun _ hn => (nomatch hn)⟩, registry_started,
    ⟨?_, ?_, ?_, ?_⟩, fun _ _ hw => nomatch hw⟩
  · exact fun _ hn => nomatch hn
  · exact fun _ hn => nomatch hn
  · exact fun _ _ hn => nomatch hn
  · exact fun _ hn => nomatch hn

theorem rostered_step (hs : s.Rostered broadcasts)
    (hnext : t.nextSessionId ≤ 2 ^ 32) (h : s.step clientIp a = some t) :
    t.Rostered (s.recordBroadcasts a broadcasts) := by
  have hfresh : a = .accept →
      ∀ m ∈ s.sessions, s.sessionId m ≠ s.sessionId s.nextSessionId := by
    rintro rfl
    obtain rfl := Option.some.inj h
    exact hs.numbered.fresh hnext
  exact ⟨numbered_step hs.numbered h, registry_step hs.registry hfresh h,
    introducing_step hs.registry hs.introducing h,
    withdrawn_step hs.registry hs.withdrawn h⟩

theorem rostered_reachable
    (h : (broadcastSystem clientIp).Reachable (s, broadcasts))
    (hcount : s.acceptedCount < 2 ^ 32) : s.Rostered broadcasts := by
  have hinv : s.nextSessionId ≤ 2 ^ 32 → s.Rostered broadcasts := by
    refine Lts.ReachableUnder.invariant (I := fun x =>
      x.1.nextSessionId ≤ 2 ^ 32 → x.1.Rostered x.2) h ?_ ?_
    · rintro ⟨s, broadcasts⟩ ⟨hs, hb⟩ _
      cases hs
      cases hb
      exact rostered_started
    · intro x a y hx _ hstep hnext
      obtain ⟨hstep, hrecord⟩ := Lts.recording_step hstep
      have hle := (moves_of_step clientIp hstep).nextSessionId
      rw [hrecord]
      exact rostered_step (hx (hle.trans hnext)) hnext hstep
  refine hinv ?_
  unfold acceptedCount at hcount
  omega

omit [FloatArith F] in
theorem Met.sentSpawn (hs : s.Labelled) {m n : Nat} (h : s.Met m n) :
    s.SentSpawn m n := by
  obtain ⟨⟨subject, message⟩, hw, rfl, hspawn⟩ := h
  cases message with
  | entitySpawn payload =>
      exact ⟨payload, List.mem_map.mpr ⟨_, hw, rfl⟩, hs m _ hw⟩
  | entityDespawn payload => cases hspawn

omit [FloatArith F] in
/-- A Despawn that names a session's id was written for that session. -/
theorem SentDespawn.subject (hlabelled : s.Labelled) (hs : s.Numbered)
    (hwithdrawn : s.Withdrawn) (hnext : s.nextSessionId ≤ 2 ^ 32)
    {m n : Nat} (hn : n < s.nextSessionId) (h : s.SentDespawn m n) :
    (s.pc n).inLoop = false := by
  obtain ⟨payload, hmessage, hid⟩ := h
  obtain ⟨⟨subject, message⟩, hw, rfl⟩ := List.mem_map.mp hmessage
  obtain ⟨hlt, hout⟩ := hwithdrawn m _ hw rfl
  have hsubject : s.entityId subject = s.entityId n :=
    (hlabelled m _ hw).symm.trans hid
  obtain rfl := hs.entityId_inj (hlt.trans_le hnext) (hn.trans_le hnext)
    hsubject
  exact hout

/-- Two sessions in their loops that both completed a broadcast have each
been sent the other's Spawn, if still connected, and no Despawn of it. -/
theorem roster_complete
    (h : (broadcastSystem clientIp).Reachable (s, broadcasts))
    (hcount : s.acceptedCount < 2 ^ 32) {m n : Nat} (hne : m ≠ n)
    (hm : m ∈ broadcasts.completed) (hn : n ∈ broadcasts.completed)
    (hloopm : (s.pc m).inLoop = true) (hloopn : (s.pc n).inLoop = true) :
    (s.connected m = true → s.SentSpawn m n) ∧ ¬ s.SentDespawn m n
      ∧ (s.connected n = true → s.SentSpawn n m)
      ∧ ¬ s.SentDespawn n m := by
  have hs := rostered_reachable h hcount
  have hlabelled := labelled_reachable (Lts.recording_reachable h)
  have hnext : s.nextSessionId ≤ 2 ^ 32 := by
    unfold acceptedCount at hcount
    omega
  have hspawn : ∀ j ∈ broadcasts.completed, ∀ k ∈ broadcasts.completed,
      j ≠ k → (s.pc j).inLoop = true → (s.pc k).inLoop = true →
      s.connected j = true → s.SentSpawn j k := by
    intro j hj k hk hjk hloopj hloopk hopen
    rcases hs.introducing.met j (hs.introducing.begun j hj) k
      (hs.introducing.begun k hk) hjk hloopj hloopk hopen with
      hmet | hpend | hpend
    · exact hmet.sentSpawn hlabelled
    · exact absurd hj hpend.1
    · exact absurd hk hpend.1
  have hdespawn : ∀ j k, (s.pc k).inLoop = true → ¬ s.SentDespawn j k := by
    intro j k hloop hsent
    have hbound := hs.registry.bound k (isRunning_of_inLoop hloop)
    rw [hsent.subject hlabelled hs.numbered hs.withdrawn hnext hbound]
      at hloop
    cases hloop
  exact ⟨hspawn m hm n hn hne hloopm hloopn, hdespawn m n hloopn,
    hspawn n hn m hm hne.symm hloopn hloopm, hdespawn n m hloopm⟩

end

/-- Two clients register at once: each takes its snapshot before the other
has sent anything. -/
theorem roster_complete_racing :
    ∃ s : TcpControlServer Float32, s.connected 1 = true
      ∧ s.connected 2 = true
      ∧ (s.connected 1 = true → s.SentSpawn 1 2) ∧ ¬ s.SentDespawn 1 2
      ∧ (s.connected 2 = true → s.SentSpawn 2 1)
      ∧ ¬ s.SentDespawn 2 1 := by
  obtain ⟨⟨s, broadcasts⟩, hs, hp⟩ := Lts.exists_reachable
    (broadcastSystem (F := Float32) fun _ => "127.0.0.1")
    (s := (started, ⟨[], []⟩)) ⟨rfl, rfl⟩
    [[.accept, .accept, .process 1 (.registerUdpPort 6000),
      .process 2 (.registerUdpPort 6001), .snapshot 1 [1, 2],
      .snapshot 2 [2, 1]],
      List.replicate 4 (.next 1), List.replicate 4 (.next 2)].flatten
    (fun x => x.1.nextSessionId == 3 && x.2 == ⟨[2, 1], [2, 1]⟩
      && x.1.pc 1 == .serving && x.1.pc 2 == .serving && x.1.connected 1
      && x.1.connected 2)
    (by decide +kernel)
  simp only [Bool.and_eq_true, beq_iff_eq] at hp
  obtain ⟨⟨⟨⟨⟨hnext, rfl⟩, hpc1⟩, hpc2⟩, hopen1⟩, hopen2⟩ := hp
  refine ⟨s, hopen1, hopen2, roster_complete hs ?_ (m := 1) (n := 2)
    (by decide) (by decide) (by decide) (by rw [hpc1]; rfl)
    (by rw [hpc2]; rfl)⟩
  rw [acceptedCount, hnext]
  decide

end TcpControlServer

end NetworkControl
