import NetworkControl.ControlInput
import NetworkControl.Roster

/-!
# The name of an entity

A session is stored under its 64-bit id and goes by the lower 32 bits of
it. The map never holds two sessions of one id, whatever the run
(`Moves.keyed`), so a session whose id survives the narrowing is found
under its `EntityId`, alone. One whose id does not survive is never found
under its own: once `2 ^ 32` sessions have been numbered, a newcomer
shares the name of a session that was there from the start.
-/

namespace NetworkControl

namespace TcpControlServer

section

variable {F : Type}

/-- `sessions_` is keyed by `GetSessionId`. -/
def Keyed (s : TcpControlServer F) : Prop :=
  ∀ m ∈ s.sessions, ∀ n ∈ s.sessions, s.sessionId m = s.sessionId n → m = n

/-- An `EntityId` on the wire refers to one session of the map: the
lookup finds it, control inputs reach it or nobody, and what was sent
under its id is about no other session. -/
structure EntityIdentity [FloatArith F] (s : TcpControlServer F) : Prop where
  distinct : ∀ m ∈ s.sessions, ∀ n ∈ s.sessions,
    s.entityId m = s.entityId n → m = n
  found : ∀ n ∈ s.sessions, s.getSession (s.entityId n).toUInt64 = some n
  steered : ∀ n ∈ s.sessions, ∀ host sender datagram payload,
    decodeControlInput host datagram = some payload →
    payload.entityId = s.entityId n →
    s.receiveControlInput host sender datagram = s
      ∨ s.receiveControlInput host sender datagram = s.applyInput n payload
  named : ∀ n ∈ s.sessions, ∀ recipient, ∀ written ∈ s.log recipient,
    written.message.entityId = s.entityId n →
    written.subject ∈ s.sessions → written.subject = n

end

section

variable {F : Type} [FloatArith F] {clientIp : Nat → String}
  {s t : TcpControlServer F} {a : ServerAction F}

/-! ## The key of the map -/

omit [FloatArith F] in
/-- `sessions_[id] = session` replaces what was there. -/
theorem Keyed.accept (hs : s.Keyed) : s.accept.Keyed := by
  intro m hm n hn hid
  have hid : s.sessionId m = s.sessionId n := hid
  rcases List.mem_append.mp hm with hold | hnew
  · obtain ⟨hold, hother⟩ := List.mem_filter.mp hold
    rcases List.mem_append.mp hn with hn | hn
    · exact hs m hold n (List.mem_of_mem_filter hn) hid
    · rw [List.mem_singleton.mp hn] at hid
      exact absurd hid (of_decide_eq_true hother)
  · rw [List.mem_singleton.mp hnew] at hid ⊢
    rcases List.mem_append.mp hn with hn | hn
    · have hother := (List.mem_filter.mp hn).2
      exact absurd hid.symm (of_decide_eq_true hother)
    · exact (List.mem_singleton.mp hn).symm

theorem Moves.keyed (h : Moves clientIp s a t) (hs : s.Keyed) : t.Keyed := by
  rcases h.map_cases with rfl | ⟨-, hsessions, -⟩
  · exact hs.accept
  · intro m hm n hn hid
    rw [h.sessionId, h.sessionId] at hid
    exact hs m (hsessions m hm) n (hsessions n hn) hid

theorem keyed_reachable (h : (system clientIp).Reachable s) : s.Keyed := by
  refine h.invariant ?_ fun _ _ _ hs _ hstep =>
    (moves_of_step clientIp hstep).keyed hs
  rintro _ rfl
  exact fun _ hm => nomatch hm

/-! ## Narrowing and widening -/

omit [FloatArith F] in
theorem toUInt64_entityId_toNat (n : Nat) :
    (s.entityId n).toUInt64.toNat = (s.sessionId n).toNat % 2 ^ 32 :=
  UInt64.toNat_toUInt32 _

omit [FloatArith F] in
/-- What the lookup is asked for is the session's own id, if that id has
32 bits. -/
theorem toUInt64_entityId_iff (n : Nat) :
    (s.entityId n).toUInt64 = s.sessionId n
      ↔ (s.sessionId n).toNat < 2 ^ 32 := by
  rw [← UInt64.toNat_inj, toUInt64_entityId_toNat]
  omega

omit [FloatArith F] in
theorem getSession_sessionId {id : UInt64} {n : Nat}
    (h : s.getSession id = some n) : s.sessionId n = id := by
  rw [getSession] at h
  have hfound := List.find?_some h
  exact of_decide_eq_true hfound

omit [FloatArith F] in
theorem Keyed.getSession (hs : s.Keyed) {n : Nat} (hn : n ∈ s.sessions) :
    s.getSession (s.sessionId n) = some n := by
  cases hfound : s.getSession (s.sessionId n) with
  | none =>
      have hnone := List.find?_eq_none.mp hfound n hn
      exact absurd (decide_eq_true rfl) hnone
  | some m =>
      have hm := List.mem_of_find?_eq_some hfound
      rw [hs m hm n hn (getSession_sessionId hfound)]

/-! ## Identity -/

omit [FloatArith F] in
theorem Keyed.entityId_inj (hs : s.Keyed)
    (hnarrow : ∀ n ∈ s.sessions, (s.sessionId n).toNat < 2 ^ 32)
    {m n : Nat} (hm : m ∈ s.sessions) (hn : n ∈ s.sessions)
    (h : s.entityId m = s.entityId n) : m = n := by
  refine hs m hm n hn ?_
  rw [← (toUInt64_entityId_iff m).mpr (hnarrow m hm),
    ← (toUInt64_entityId_iff n).mpr (hnarrow n hn), h]

/-- An input that names a session the lookup finds reaches it or
nobody. -/
theorem receiveControlInput_found {n : Nat}
    (hfound : s.getSession (s.entityId n).toUInt64 = some n)
    (host : Endian.ByteOrder) (sender : String × UInt16)
    {datagram : List UInt8} {payload : EntityControlInputPayload}
    (hdecode : decodeControlInput host datagram = some payload)
    (hid : payload.entityId = s.entityId n) :
    s.receiveControlInput host sender datagram = s
      ∨ s.receiveControlInput host sender datagram
        = s.applyInput n payload := by
  rcases receiveControlInput_cases host s sender datagram with
    hdropped | ⟨payload', m, hdecode', hfound', -, happlied⟩
  · exact Or.inl hdropped
  · obtain rfl := Option.some.inj (hdecode'.symm.trans hdecode)
    rw [hid, hfound] at hfound'
    obtain rfl := Option.some.inj hfound'
    exact Or.inr happlied

/-- Entity ids are names exactly while the ids in the map have 32 bits. -/
theorem entityIdentity_iff (h : (system clientIp).Reachable s) :
    s.EntityIdentity
      ↔ ∀ n ∈ s.sessions, (s.sessionId n).toNat < 2 ^ 32 := by
  have hkeyed := keyed_reachable h
  constructor
  · intro hs n hn
    exact (toUInt64_entityId_iff n).mp
      (getSession_sessionId (hs.found n hn)).symm
  · intro hnarrow
    have hinj := fun {m n} => hkeyed.entityId_inj hnarrow (m := m) (n := n)
    have hfound : ∀ n ∈ s.sessions,
        s.getSession (s.entityId n).toUInt64 = some n := by
      intro n hn
      rw [(toUInt64_entityId_iff n).mpr (hnarrow n hn)]
      exact hkeyed.getSession hn
    refine ⟨fun m hm n hn => hinj hm hn, hfound, ?_, ?_⟩
    · intro n hn host sender datagram payload hdecode hid
      exact receiveControlInput_found (hfound n hn) host sender hdecode hid
    · intro n hn recipient written hw hid hsubject
      rw [labelled_reachable h recipient written hw] at hid
      exact hinj hsubject hn hid

end

/-- Two clients connect. -/
theorem entityIdentity_iff_two :
    ∃ s : TcpControlServer Float32, s.sessions = [1, 2]
      ∧ (s.EntityIdentity
        ↔ ∀ n ∈ s.sessions, (s.sessionId n).toNat < 2 ^ 32) := by
  obtain ⟨s, hs, hp⟩ := Lts.exists_reachable loopbackServer
    (s := started) rfl [.accept, .accept] (fun s => s.sessions == [1, 2])
    (by decide +kernel)
  exact ⟨s, eq_of_beq hp, entityIdentity_iff hs⟩

/-! ## A server that lives long -/

section

variable {F : Type} [FloatArith F] {clientIp : Nat → String}
  {s : TcpControlServer F}

theorem numbered_reachable (h : (system clientIp).Reachable s) :
    s.Numbered := by
  refine h.invariant ?_ fun _ _ _ hs _ hstep => numbered_step hs hstep
  rintro _ rfl
  exact ⟨fun _ => rfl, fun _ hn => nomatch hn⟩

/-- Session 1 is connected and alone, and `k` is the next. -/
structure Alone (s : TcpControlServer F) (k : Nat) : Prop where
  nextId : s.nextSessionId = k
  sessions : s.sessions = [1]
  connected : s.connected 1 = true
  unregistered : ∀ n, k ≤ n → (s.control n).isUdpEndpointRegistered = false

omit [FloatArith F] in
theorem Alone.accept {k : Nat} (hs : s.Alone k)
    (hid : s.sessionId 1 ≠ s.sessionId k) :
    s.accept.sessions = [1, k] ∧ s.accept.connected k = true
      ∧ (k ≠ 1 → s.accept.connected 1 = true) := by
  obtain ⟨rfl, hsessions, hconnected, -⟩ := hs
  refine ⟨?_, Function.update_self .., fun hk => ?_⟩
  · show s.sessions.filter _ ++ _ = _
    rw [hsessions, List.filter_eq_self.mpr]
    · rfl
    · intro m hm
      rw [List.mem_singleton.mp hm]
      exact decide_eq_true hid
  · exact (Function.update_of_ne hk.symm ..).trans hconnected

omit [FloatArith F] in
/-- `RemoveSession` of the second of two sessions. -/
theorem removeSession_second {m n : Nat} (hsessions : s.sessions = [m, n])
    (hid : s.sessionId m ≠ s.sessionId n) :
    s.removeSession (s.sessionId n) = { s with
      sessions := [m]
      control := Function.update s.control n
        { s.control n with session := (s.control n).session.stopSession.1 }
      connected := Function.update s.connected n false } := by
  have hfind : s.sessions.find? (fun k => s.sessionId k = s.sessionId n)
      = some n := by
    rw [hsessions]
    simp [hid]
  have hfilter : s.sessions.filter (fun k => s.sessionId k ≠ s.sessionId n)
      = [m] := by
    rw [hsessions]
    simp [hid]
  unfold removeSession
  rw [hfind]
  dsimp only
  rw [hfilter]

/-- The worker of a client that never registered and is gone. -/
theorem reachable_removed (h : (system clientIp).Reachable s) {m n : Nat}
    (hsessions : s.sessions = [m, n]) (hid : s.sessionId m ≠ s.sessionId n)
    (hserving : s.pc n = .serving) (hclosed : s.connected n = false)
    (hunregistered : (s.control n).isUdpEndpointRegistered = false) :
    ∃ t : TcpControlServer F, (system clientIp).Reachable t
      ∧ t.nextSessionId = s.nextSessionId ∧ t.sessions = [m]
      ∧ (∀ k, k ≠ n → t.connected k = s.connected k)
      ∧ ∀ k, k ≠ n → t.control k = s.control k := by
  have hleave : (system clientIp).step s (.leave n)
      = some (s.setPc n .removing) := by
    show s.step clientIp (.leave n) = _
    rw [step, if_pos ⟨hserving, Or.inl hclosed⟩, leave, hunregistered]
    rfl
  have hremove : (system clientIp).step (s.setPc n .removing) (.next n)
      = some (((s.setPc n .removing).removeSession (s.sessionId n)).setPc n
        .done) := by
    show (s.setPc n .removing).step clientIp (.next n) = _
    rw [step, next, setPc_self]
    rfl
  have hsecond := removeSession_second (s := s.setPc n .removing)
    hsessions hid
  rw [setPc_sessionId] at hsecond
  rw [hsecond] at hremove
  exact ⟨_, (h.step trivial hleave).step trivial hremove, rfl, rfl,
    fun k hk => Function.update_of_ne hk ..,
    fun k hk => Function.update_of_ne hk ..⟩

/-- A client connects and goes without a word. -/
theorem Alone.visited {k : Nat} (h : (system clientIp).Reachable s)
    (hs : s.Alone k) (hk : k ≠ 1) (hid : s.sessionId 1 ≠ s.sessionId k) :
    ∃ t : TcpControlServer F, (system clientIp).Reachable t
      ∧ t.Alone (k + 1) := by
  obtain ⟨hsessions, -, hconnected⟩ := hs.accept hid
  obtain ⟨rfl, -, -, hunregistered⟩ := hs
  have haccept := h.step trivial (a := .accept) rfl
  have hdisconnect := haccept.step trivial (a := .disconnect s.nextSessionId)
    rfl
  obtain ⟨t, ht, hnext, hgone, hothers, hcontrol⟩ := reachable_removed
    hdisconnect hsessions hid (accept_self s) (Function.update_self ..)
    (hunregistered s.nextSessionId le_rfl)
  refine ⟨t, ht, hnext, hgone, ?_, fun n hn => ?_⟩
  · rw [hothers 1 hk.symm]
    exact (Function.update_of_ne hk.symm ..).trans (hconnected hk)
  · rw [hcontrol n (Nat.ne_of_gt hn)]
    exact hunregistered n (Nat.le_of_succ_le hn)

theorem Alone.sessionId_ne {k : Nat} (h : (system clientIp).Reachable s)
    (hone : k ≠ 1) (hk : k < 2 ^ 64) : s.sessionId 1 ≠ s.sessionId k := by
  intro hid
  rw [(numbered_reachable h).id, (numbered_reachable h).id] at hid
  have hnat := congrArg UInt64.toNat hid
  rw [UInt64.toNat_ofNat', UInt64.toNat_ofNat'] at hnat
  omega

variable (F) (clientIp)

/-- Any number of clients come and go beside session 1. -/
theorem exists_alone (k : Nat) (hk : k + 2 ≤ 2 ^ 64) :
    ∃ s : TcpControlServer F, (system clientIp).Reachable s
      ∧ s.Alone (k + 2) := by
  induction k with
  | zero =>
      have hstart : (system (F := F) clientIp).Reachable started := .init rfl
      refine ⟨_, hstart.step trivial (a := .accept) rfl, ?_⟩
      exact ⟨rfl, rfl, rfl, fun _ _ => rfl⟩
  | succ k ih =>
      obtain ⟨s, h, hs⟩ := ih (by omega)
      exact hs.visited h (by omega) (Alone.sessionId_ne h (by omega) (by omega))

end

/-- Once `2 ^ 32` sessions have been numbered, a newcomer takes the name of
session 1, which is still connected: the lookup for its inputs finds
session 1. -/
theorem entityId_taken_twice :
    ∃ s : TcpControlServer Float32, loopbackServer.Reachable s
      ∧ s.sessions = [1, 2 ^ 32 + 1] ∧ s.connected 1 = true
      ∧ s.connected (2 ^ 32 + 1) = true
      ∧ s.entityId (2 ^ 32 + 1) = s.entityId 1
      ∧ s.getSession (s.entityId (2 ^ 32 + 1)).toUInt64 = some 1
      ∧ ¬ s.EntityIdentity := by
  obtain ⟨s, h, hs⟩ := exists_alone Float32 (fun _ => "127.0.0.1")
    (2 ^ 32 - 1) (by omega)
  have hk : 2 ^ 32 - 1 + 2 = 2 ^ 32 + 1 := by omega
  rw [hk] at hs
  obtain ⟨hsessions, hnew, hone⟩ := hs.accept
    (Alone.sessionId_ne h (by omega) (by omega))
  have haccept : loopbackServer.Reachable s.accept :=
    h.step trivial (a := .accept) rfl
  have hid := (numbered_reachable haccept).id
  have hname : s.accept.entityId (2 ^ 32 + 1) = s.accept.entityId 1 := by
    show (s.accept.sessionId (2 ^ 32 + 1)).toUInt32
      = (s.accept.sessionId 1).toUInt32
    rw [hid, hid]
    decide
  refine ⟨s.accept, haccept, hsessions, hone (by omega), hnew, hname, ?_,
    fun hidentity => ?_⟩
  · have hfirst : s.accept.sessionId 1
        = (s.accept.entityId (2 ^ 32 + 1)).toUInt64 := by
      rw [hname]
      show _ = (s.accept.sessionId 1).toUInt32.toUInt64
      rw [hid]
      decide
    rw [getSession, hsessions]
    simp [hfirst]
  · have hsame := hidentity.distinct (2 ^ 32 + 1) (by simp [hsessions]) 1
      (by simp [hsessions]) hname
    omega

end TcpControlServer

end NetworkControl
