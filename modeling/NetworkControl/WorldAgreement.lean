import NetworkControl.Departure
import NetworkControl.GhostEntities
import NetworkControl.Roster

/-!
# All clients see the same entities

The server keeps no list of what it told whom. Each client builds its
`EntityWorld` from its own stream, and the streams are written by as many
threads as there are sessions: a newcomer's worker introduces it to
everybody, a leaver's worker withdraws it.

`worlds_agree` says what this comes to once the broadcasts are over: the
world of every connected client holds the entities of the sessions in the
map, each of them once, and no other. It is about the runs with fewer than
2^32 accepted sessions that keep to `DespawnAhead`, all of it: no session
is accepted under an id that the map still has, no worker leaves its loop
with its flag cleared while a client shows its entity, and no Spawn is
sent behind the Despawn of its entity.
-/

namespace NetworkControl

open EntityWorld

/-! ## The world a log builds -/

section

variable {name : Nat → UInt32} {log : List Written}

theorem exists_of_shown {subject : Nat} (h : shown subject log = true) :
    ∃ written ∈ log, written.subject = subject := by
  induction log using List.reverseRecOn with
  | nil => cases h
  | append_singleton log last ih =>
      rw [shown_concat] at h
      by_cases hlast : last.subject = subject
      · exact ⟨last, by simp, hlast⟩
      · rw [if_neg hlast] at h
        obtain ⟨written, hw, hsubject⟩ := ih h
        exact ⟨written, by simp [hw], hsubject⟩

/-- A Spawn and no Despawn. -/
theorem shown_of_spawn {subject : Nat}
    (hspawn : ∃ written ∈ log, written.subject = subject
      ∧ written.isSpawn = true)
    (hdespawn : ∀ written ∈ log, written.subject = subject →
      written.isSpawn = true) : shown subject log = true := by
  induction log using List.reverseRecOn with
  | nil => simp at hspawn
  | append_singleton log last ih =>
      rw [shown_concat]
      split
      · rename_i hlast
        exact hdespawn last (by simp) hlast
      · rename_i hlast
        obtain ⟨written, hw, hsubject, hspawn⟩ := hspawn
        refine ih ⟨written, ?_, hsubject, hspawn⟩ fun w hw =>
          hdespawn w (List.mem_append_left _ hw)
        rcases List.mem_append.mp hw with hold | hnew
        · exact hold
        · rw [List.mem_singleton.mp hnew] at hsubject
          exact absurd hsubject hlast

/-- When the messages name their subjects, and no two alike, the world
holds the names of the subjects the log shows. -/
theorem mem_foldl_iff (w : EntityWorld) (id : UInt32)
    (hname : ∀ written ∈ log,
      written.message.entityId = name written.subject)
    (hinj : ∀ written ∈ log, ∀ other ∈ log,
      name written.subject = name other.subject →
        written.subject = other.subject) :
    id ∈ ((log.map (·.message)).foldl applyMessage w.clear).entities
      ↔ ∃ subject, name subject = id ∧ shown subject log = true := by
  induction log using List.reverseRecOn with
  | nil =>
      refine ⟨fun h => absurd h (AList.notMem_empty _), ?_⟩
      rintro ⟨subject, -, hshown⟩
      cases hshown
  | append_singleton log last ih =>
      have ih := ih (fun v hv => hname v (List.mem_append_left _ hv))
        fun v hv u hu => hinj v (List.mem_append_left _ hv) u
          (List.mem_append_left _ hu)
      have hlast := hname last (by simp)
      rw [List.map_append, List.foldl_append, List.map_singleton,
        List.foldl_cons, List.foldl_nil, mem_applyMessage, ih]
      simp only [shown_concat]
      -- among the subjects before, only the last one's has its name
      have hother : ∀ subject, shown subject log = true →
          name subject = name last.subject → subject = last.subject := by
        intro subject hshown hsame
        obtain ⟨written, hw, rfl⟩ := exists_of_shown hshown
        exact hinj written (List.mem_append_left _ hw) last (by simp) hsame
      constructor
      · rintro (hspawn | ⟨hdespawn, subject, hid, hshown⟩)
        · refine ⟨last.subject, ?_, ?_⟩
          · rw [← hlast]
            cases hmessage : last.message with
            | entitySpawn payload =>
                rw [hmessage] at hspawn
                exact Option.some.inj hspawn
            | entityDespawn payload =>
                rw [hmessage] at hspawn
                cases hspawn
          · rw [if_pos rfl, Written.isSpawn, hspawn]
            rfl
        · refine ⟨subject, hid, ?_⟩
          split
          · rename_i hsubject
            cases hmessage : last.message with
            | entitySpawn payload =>
                rw [Written.isSpawn, hmessage]
                rfl
            | entityDespawn payload =>
                refine absurd ?_ hdespawn
                rw [← hid, ← hsubject, ← hlast, hmessage]
                rfl
          · exact hshown
      · rintro ⟨subject, hid, hshown⟩
        split at hshown
        · rename_i hsubject
          refine Or.inl ?_
          rw [← hid, ← hsubject, ← hlast]
          cases hmessage : last.message with
          | entitySpawn payload => rfl
          | entityDespawn payload =>
              rw [Written.isSpawn, hmessage] at hshown
              cases hshown
        · rename_i hsubject
          refine Or.inr ⟨fun hdespawn => ?_, subject, hid, hshown⟩
          refine hsubject (hother subject hshown ?_).symm
          rw [hid, ← hlast]
          cases hmessage : last.message with
          | entitySpawn payload =>
              rw [hmessage] at hdespawn
              cases hdespawn
          | entityDespawn payload =>
              rw [hmessage] at hdespawn
              exact (Option.some.inj hdespawn).symm

theorem keyed_foldl (messages : List ServerMessage) {w : EntityWorld}
    (hw : w.Keyed) : (messages.foldl applyMessage w).Keyed := by
  induction messages generalizing w with
  | nil => exact hw
  | cons message messages ih => exact ih (keyed_applyMessage hw message)

/-- A snapshot lists every entity once. -/
theorem getSnapshot_nodup {w : EntityWorld} (hw : w.Keyed) :
    (w.getSnapshot.map (·.entityId)).Nodup := by
  have hkeys : w.getSnapshot.map (·.entityId) = w.entities.keys := by
    rw [getSnapshot, List.map_map]
    refine List.map_congr_left fun entry hentry => ?_
    exact hw entry.1 entry.2 (AList.mem_lookup_iff.mpr hentry)
  rw [hkeys]
  exact AList.keys_nodup _

end

namespace TcpControlServer

section

variable {F : Type} [FloatArith F] {clientIp : Nat → String}
  {s t : TcpControlServer F} {a : ServerAction F}
  {broadcasts : Broadcasts}

/-! ## What is in the map and on the streams -/

/-- The map holds the sessions whose workers run, each of them once; what
was written is about accepted sessions; a broadcast is at its first send
or past it, and behind a whole one the session was sent its own Spawn. -/
structure Populated (s : TcpControlServer F) (broadcasts : Broadcasts) :
    Prop where
  running : ∀ n ∈ s.sessions, (s.pc n).isRunning = true
  nodup : s.sessions.Nodup
  subjects : ∀ n, ∀ written ∈ s.log n, written.subject < s.nextSessionId
  first : ∀ n sends, s.pc n = .spawning sends →
    sends.head? = some (n, n) ∨ (s.connected n = true → s.Met n n)
  own : ∀ n ∈ broadcasts.completed, s.connected n = true → s.Met n n

theorem Moves.sessions_sublist (h : Moves clientIp s a t) :
    t = s.accept ∨ t.sessions.Sublist s.sessions := by
  cases h with
  | accept => exact Or.inl rfl
  | @process n message hserving =>
      rw [(process_frame clientIp n message).1]
      exact Or.inr (List.Sublist.refl _)
  | leave hserving =>
      unfold TcpControlServer.leave
      split <;> exact Or.inr (List.Sublist.refl _)
  | spawn hpc =>
      rw [setPc_sessions, sendEntitySpawn, send_sessions]
      exact Or.inr (List.Sublist.refl _)
  | despawn hpc =>
      rw [setPc_sessions, sendEntityDespawn, send_sessions]
      exact Or.inr (List.Sublist.refl _)
  | remove hpc =>
      rw [setPc_sessions, removeSession]
      split
      · exact Or.inr (List.Sublist.refl _)
      · exact Or.inr List.filter_sublist
  | _ => exact Or.inr (List.Sublist.refl _)

theorem nodup_step (hs : s.sessions.Nodup) (hmoves : Moves clientIp s a t) :
    t.sessions.Nodup := by
  rcases hmoves.sessions_sublist with rfl | hsublist
  · refine (hs.filter _).append (List.nodup_singleton _) ?_
    intro n hn hnew
    rw [List.mem_singleton.mp hnew] at hn
    exact of_decide_eq_true (List.mem_filter.mp hn).2 rfl
  · exact hs.sublist hsublist

omit [FloatArith F] in
theorem isRunning_setPc {n m : Nat} {pc : ControlPc}
    (hm : (s.pc m).isRunning = true) (hpc : pc.isRunning = true) :
    ((s.setPc n pc).pc m).isRunning = true := by
  by_cases hmn : m = n
  · rw [hmn, setPc_self]
    exact hpc
  · rwa [setPc_of_ne _ _ _ _ hmn]

/-- A worker ends when its session is out of the map. -/
theorem running_step (hreg : s.Registry)
    (hs : ∀ n ∈ s.sessions, (s.pc n).isRunning = true)
    (hmoves : Moves clientIp s a t) :
    ∀ n ∈ t.sessions, (t.pc n).isRunning = true := by
  intro m hm
  cases hmoves with
  | accept =>
      by_cases hnew : m = s.nextSessionId
      · rw [hnew, accept_self]
        rfl
      · rw [(s.accept_of_ne m hnew).1]
        rcases List.mem_append.mp hm with hold | hlast
        · exact hs m (List.mem_of_mem_filter hold)
        · exact absurd (List.mem_singleton.mp hlast) hnew
  | disconnect => exact hs m hm
  | @process n message hserving =>
      rw [(process_frame clientIp n message).1] at hm
      rcases process_pc clientIp n m message hserving with
        hsame | ⟨-, hregistered⟩
      · rw [hsame]
        exact hs m hm
      · rw [hregistered]
        rfl
  | leave hserving =>
      revert hm
      unfold TcpControlServer.leave
      split
      · exact fun hm => isRunning_setPc (hs m hm) rfl
      · exact fun hm => isRunning_setPc (hs m hm) rfl
  | spawn hpc =>
      rw [setPc_sessions, sendEntitySpawn, send_sessions] at hm
      exact isRunning_setPc (by rw [sendEntitySpawn, send_pc]; exact hs m hm) rfl
  | despawn hpc =>
      rw [setPc_sessions, sendEntityDespawn, send_sessions] at hm
      exact isRunning_setPc (by rw [sendEntityDespawn, send_pc]; exact hs m hm)
        rfl
  | @remove n hpc =>
      have hn : n ∈ s.sessions := hreg.mapped n (by rw [hpc]; rfl)
      rw [setPc_sessions, (hreg.removeSession_eq hn).1] at hm
      obtain ⟨hold, hid⟩ := List.mem_filter.mp hm
      have hmn : m ≠ n := by
        rintro rfl
        exact of_decide_eq_true hid rfl
      rw [setPc_of_ne _ _ _ _ hmn, (removeSession_frame (s.sessionId n)).2.1]
      exact hs m hold
  | udpThread => exact hs m hm
  | _ => exact isRunning_setPc (hs m hm) rfl

/-- What is sent is about a session under way. -/
theorem subjects_step (hreg : s.Registry)
    (hs : ∀ n, ∀ written ∈ s.log n, written.subject < s.nextSessionId)
    (hok : s.DespawnAhead a) (hmoves : Moves clientIp s a t) :
    ∀ n, ∀ written ∈ t.log n, written.subject < t.nextSessionId := by
  intro n written hw
  refine Nat.lt_of_lt_of_le ?_ hmoves.nextSessionId
  rcases hmoves.log_cases n with
    hsame | ⟨m, subject, rfl, hnext, hopen, hlog⟩ | ⟨m, recipients, hpc, hlog⟩
  · rw [hsame] at hw
    exact hs n written hw
  · rw [hlog] at hw
    rcases List.mem_append.mp hw with hold | hnew
    · exact hs n written hold
    · rw [List.mem_singleton.mp hnew]
      have hahead : (s.pc subject).DespawnsFor n :=
        hok (n, subject) hnext hopen
      refine hreg.bound subject ?_
      show (s.pc subject).isRunning = true
      cases hpc : s.pc subject <;> rw [hpc] at hahead <;>
        first | rfl | cases hahead
  · rw [hlog] at hw
    rcases List.mem_append.mp hw with hold | hnew
    · exact hs n written hold
    · rw [List.mem_singleton.mp hnew]
      exact hreg.bound m (by rw [hpc]; rfl)

theorem first_step (hreg : s.Registry) (hs : s.Populated broadcasts)
    (hmoves : Moves clientIp s a t) {n : Nat} {sends : List (Nat × Nat)}
    (hpc : t.pc n = .spawning sends) :
    sends.head? = some (n, n) ∨ (t.connected n = true → t.Met n n) := by
  have hkept : ∀ left, s.pc n = .spawning left → t.connected n = true →
      s.connected n = true := by
    intro left hleft hopen
    exact hmoves.connected (hreg.bound n (by rw [hleft]; rfl)) hopen
  rcases hmoves.spawning_cases hpc with
    hold | ⟨order, -, -, -, rfl⟩ | ⟨send, -, hold, hsent⟩
  · refine (hs.first n sends hold).imp id fun hmet hopen => ?_
    exact hmoves.met (hmet (hkept sends hold hopen))
  · exact Or.inl rfl
  · refine Or.inr fun hopen => ?_
    have hopen := hkept _ hold hopen
    rcases hs.first n _ hold with hhead | hmet
    · obtain rfl := Option.some.inj hhead
      exact hsent hopen
    · exact hmoves.met (hmet hopen)

theorem own_step (hs : s.Populated broadcasts)
    (hintro : s.Introducing broadcasts) (hmoves : Moves clientIp s a t) :
    ∀ n ∈ (s.recordBroadcasts a broadcasts).completed,
      t.connected n = true → t.Met n n := by
  intro n hn hopen
  have hcases : n ∈ broadcasts.completed ∨ s.pc n = .spawning [] := by
    unfold recordBroadcasts at hn
    split at hn
    · split at hn
      · exact Or.inl hn
      · exact Or.inl hn
    · split at hn
      · rename_i m hpc
        rcases List.mem_cons.mp hn with rfl | hold
        · exact Or.inr hpc
        · exact Or.inl hold
      · exact Or.inl hn
    · exact Or.inl hn
  have haccepted : n < s.nextSessionId := by
    rcases hcases with hdone | hpc
    · exact hintro.accepted n (hintro.begun n hdone)
    · exact hintro.accepted n (hintro.spawning n [] hpc)
  have hopen := hmoves.connected haccepted hopen
  rcases hcases with hdone | hpc
  · exact hmoves.met (hs.own n hdone hopen)
  · rcases hs.first n [] hpc with hhead | hmet
    · cases hhead
    · exact hmoves.met (hmet hopen)

theorem populated_step (hreg : s.Registry) (hs : s.Populated broadcasts)
    (hintro : s.Introducing broadcasts) (hok : s.DespawnAhead a)
    (h : s.step clientIp a = some t) :
    t.Populated (s.recordBroadcasts a broadcasts) := by
  have hmoves := moves_of_step clientIp h
  exact ⟨running_step hreg hs.running hmoves, nodup_step hs.nodup hmoves,
    subjects_step hreg hs.subjects hok hmoves,
    fun _ _ hpc => first_step hreg hs hmoves hpc,
    own_step hs hintro hmoves⟩

/-! ## At rest -/

/-- Every session in the map is registered and known to all: its broadcast
has returned and its worker is back in its loop. -/
def AtRest (s : TcpControlServer F) (broadcasts : Broadcasts) : Prop :=
  ∀ n ∈ s.sessions, s.pc n = .serving ∧ n ∈ broadcasts.completed

/-- The runs that keep to `DespawnAhead`, with their broadcasts. -/
def DespawningReachable (clientIp : Nat → String) (s : TcpControlServer F)
    (broadcasts : Broadcasts) : Prop :=
  (broadcastSystem clientIp).ReachableUnder (fun x a => x.1.DespawnAhead a)
    (s, broadcasts)

theorem populated_reachable
    (h : DespawningReachable clientIp s broadcasts) :
    s.Registry ∧ s.Announced ∧ s.Populated broadcasts := by
  have hinv : s.Registry ∧ s.Announced ∧ s.Introducing broadcasts
      ∧ s.Populated broadcasts := by
    refine Lts.ReachableUnder.invariant (I := fun x => x.1.Registry
      ∧ x.1.Announced ∧ x.1.Introducing x.2 ∧ x.1.Populated x.2) h ?_ ?_
    · rintro ⟨s, broadcasts⟩ ⟨hs, hb⟩
      cases hs
      cases hb
      refine ⟨registry_started, fun _ _ _ hn => (nomatch hn),
        rostered_started.introducing, ?_, .nil, ?_, ?_, ?_⟩
      · exact fun _ hn => nomatch hn
      · exact fun _ _ hw => nomatch hw
      · exact fun _ _ hpc => nomatch hpc
      · exact fun _ hn => nomatch hn
    · rintro x a y ⟨hreg, hannounced, hintro, hpop⟩ hok hstep
      obtain ⟨hstep, hrecord⟩ := Lts.recording_step hstep
      rw [hrecord]
      refine ⟨registry_step hreg ?_ hstep,
        announced_step hreg hannounced hok hstep,
        introducing_step hreg hintro hstep,
        populated_step hreg hpop hintro hok hstep⟩
      rintro rfl
      exact hok
  exact ⟨hinv.1, hinv.2.1, hinv.2.2.2⟩

omit [FloatArith F] in
/-- Whom a client shows is under way. -/
theorem mapped_of_shown (hreg : s.Registry) (hannounced : s.Announced)
    {m subject : Nat} (hopen : s.connected m = true)
    (hshown : shown subject (s.log m) = true) : subject ∈ s.sessions := by
  by_cases hne : subject = m
  · rw [hne]
    exact hreg.mapped m (hreg.live m hopen)
  · have hahead := hannounced subject m hne hopen hshown
    refine hreg.mapped subject ?_
    cases hpc : s.pc subject <;> rw [hpc] at hahead <;>
      first | rfl | cases hahead

omit [FloatArith F] in
/-- Whoever is in its loop, its own broadcast and the client's returned,
is shown to the client. -/
theorem shown_of_completed (hrostered : s.Rostered broadcasts)
    (hpop : s.Populated broadcasts) {m n : Nat}
    (hopen : s.connected m = true) (hm : m ∈ broadcasts.completed)
    (hn : n ∈ broadcasts.completed) (hloopm : (s.pc m).inLoop = true)
    (hloopn : (s.pc n).inLoop = true) : shown n (s.log m) = true := by
  have hintro := hrostered.introducing
  refine shown_of_spawn ?_ fun written hw hsubject => ?_
  · show s.Met m n
    by_cases hne : m = n
    · rw [← hne]
      exact hpop.own m hm hopen
    · rcases hintro.met m (hintro.begun m hm) n (hintro.begun n hn) hne
        hloopm hloopn hopen with hmet | hpend | hpend
      · exact hmet
      · exact absurd hm hpend.1
      · exact absurd hn hpend.1
  · by_contra hdespawn
    have hout := hrostered.withdrawn m written hw (by simpa using hdespawn)
    rw [hsubject, hloopn] at hout
    cases hout.2

/-- In the runs that keep to `DespawnAhead`: once every session in the map
is at rest, the world that any connected client builds from its stream
lists the entities of the sessions in the map, each of them once. -/
theorem worlds_agree (h : DespawningReachable clientIp s broadcasts)
    (hcount : s.acceptedCount < 2 ^ 32) (hrest : s.AtRest broadcasts)
    {m : Nat} (hopen : s.connected m = true) (w : EntityWorld) :
    (((s.messages m).foldl applyMessage w.clear).getSnapshot.map
      (·.entityId)).Perm (s.sessions.map s.entityId) := by
  have hrostered := rostered_reachable (h.mono fun _ _ _ => trivial) hcount
  obtain ⟨hreg, hannounced, hpop⟩ := populated_reachable h
  have hlabelled := labelled_reachable
    (Lts.recording_reachable (h.mono fun _ _ _ => trivial))
  have hnext : s.nextSessionId ≤ 2 ^ 32 := by
    unfold acceptedCount at hcount
    omega
  have hinj : ∀ j k, j < s.nextSessionId → k < s.nextSessionId →
      s.entityId j = s.entityId k → j = k := fun j k hj hk =>
    hrostered.numbered.entityId_inj (hj.trans_le hnext) (hk.trans_le hnext)
  have hkeyed : ((s.messages m).foldl applyMessage w.clear).Keyed :=
    keyed_foldl _ fun _ _ hinfo => nomatch hinfo
  have hentities := fun id => mem_foldl_iff w id (hlabelled m)
    fun v hv u hu =>
      hinj _ _ (hpop.subjects m v hv) (hpop.subjects m u hu)
  refine (List.perm_ext_iff_of_nodup (getSnapshot_nodup hkeyed) ?_).mpr ?_
  · refine hpop.nodup.map_on fun j hj k hk hid => ?_
    exact hinj j k (hrostered.numbered.accepted j hj)
      (hrostered.numbered.accepted k hk) hid
  · intro id
    rw [mem_getSnapshot_iff hkeyed, messages, hentities, List.mem_map]
    constructor
    · rintro ⟨n, hid, hshown⟩
      exact ⟨n, mapped_of_shown hreg hannounced hopen hshown, hid⟩
    · rintro ⟨n, hn, hid⟩
      obtain ⟨hpcm, hm⟩ := hrest m (hreg.mapped m (hreg.live m hopen))
      obtain ⟨hpcn, hn⟩ := hrest n hn
      refine ⟨n, hid, ?_⟩
      exact shown_of_completed hrostered hpop hopen hm hn
        (by rw [hpcm]; rfl) (by rw [hpcn]; rfl)

end

/-- Clients 1 and 2 register at once, client 3 behind them; then client 1
leaves. -/
theorem worlds_agree_leaver :
    ∃ s : TcpControlServer Float32, s.connected 2 = true
      ∧ s.sessions.map s.entityId = [2, 3]
      ∧ (((s.messages 2).foldl applyMessage
          (clear {})).getSnapshot.map (·.entityId)).Perm
            (s.sessions.map s.entityId)
      ∧ (((s.messages 3).foldl applyMessage
          (clear {})).getSnapshot.map (·.entityId)).Perm
            (s.sessions.map s.entityId) := by
  obtain ⟨⟨s, broadcasts⟩, hs, hp⟩ := Lts.exists_reachableUnder
    (broadcastSystem (F := Float32) fun _ => "127.0.0.1")
    (fun x a => x.1.DespawnAhead a) (s := (started, ⟨[], []⟩)) ⟨rfl, rfl⟩
    [[.accept, .accept, .process 1 (.registerUdpPort 6000),
      .process 2 (.registerUdpPort 6001), .snapshot 1 [1, 2],
      .snapshot 2 [2, 1]],
      List.replicate 4 (.next 1), List.replicate 4 (.next 2),
      [.accept], registerRun 3 [1, 2, 3],
      [.disconnect 1, .leave 1, .snapshot 1 [3, 1, 2]],
      List.replicate 4 (.next 1)].flatten
    (fun x => x.1.nextSessionId == 4 && x.1.sessions == [2, 3]
      && x.2.completed == [3, 2, 1] && x.1.pc 2 == .serving
      && x.1.pc 3 == .serving && x.1.connected 2 && x.1.connected 3
      && x.1.entityId 2 == 2 && x.1.entityId 3 == 3)
    (by decide +kernel)
  simp only [Bool.and_eq_true, beq_iff_eq] at hp
  obtain ⟨⟨⟨⟨⟨⟨⟨⟨hnext, hsessions⟩, hcompleted⟩, hpc2⟩, hpc3⟩, hopen2⟩,
    hopen3⟩, hid2⟩, hid3⟩ := hp
  have hcount : s.acceptedCount < 2 ^ 32 := by
    rw [acceptedCount, hnext]
    decide
  have hrest : s.AtRest broadcasts := by
    intro n hn
    rw [hsessions] at hn
    rw [hcompleted]
    rcases List.mem_pair.mp hn with rfl | rfl
    · exact ⟨hpc2, by simp⟩
    · exact ⟨hpc3, by simp⟩
  refine ⟨s, hopen2, ?_, worlds_agree hs hcount hrest hopen2 {},
    worlds_agree hs hcount hrest hopen3 {}⟩
  rw [hsessions, List.map_cons, List.map_singleton, hid2, hid3]

end TcpControlServer

end NetworkControl
