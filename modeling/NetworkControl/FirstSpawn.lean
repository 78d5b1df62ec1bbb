import NetworkControl.Roster

/-!
# The first Spawn is mine

A client takes the first Spawn on its stream for its own. The server
sends it first in its own broadcast, but a session is in the map from
`AddSession` on, so a broadcast whose snapshot is taken before that first
send may reach it earlier.

`first_spawn_mine` says that in the runs where every worker takes its
snapshot after the other connected sessions of the map made the first
send of their own broadcasts, every client learns its own id. Which
workers made that send is recorded in a history variable, since a worker
is back at its loop afterwards. `first_spawn_of_early_snapshot` is the
other way round: an earlier snapshot only has to be sent out.
-/

namespace NetworkControl

namespace TcpControlServer

open EntityWorld

section

variable {F : Type} {clientIp : Nat → String} {s t : TcpControlServer F}
  {a : ServerAction F} {made : List Nat}

/-- The ids of the Spawns `n` was sent. -/
def spawnIds (s : TcpControlServer F) (n : Nat) : List UInt32 :=
  (s.messages n).filterMap spawnId

/-- `n` was sent its own Spawn. -/
def Greeted (s : TcpControlServer F) (n : Nat) : Prop :=
  s.entityId n ∈ s.spawnIds n

/-- The sessions whose workers made the first send of their broadcast,
which is to themselves. -/
def recordFirstSend (s : TcpControlServer F) (a : ServerAction F)
    (made : List Nat) : List Nat :=
  match a with
  | .next n => if s.nextSpawn n = some (n, n) then n :: made else made
  | _ => made

/-- The server, and the first sends of its run. -/
def firstSendSystem [FloatArith F] (clientIp : Nat → String) :
    Lts (TcpControlServer F × List Nat) (ServerAction F) :=
  (system clientIp).recording recordFirstSend []

/-- A worker takes the snapshot of its Spawns when the other sessions of
the map that are connected have made their first send. -/
def OthersMadeFirst (x : TcpControlServer F × List Nat) :
    ServerAction F → Prop
  | .snapshot n _ => x.1.pc n = .registered →
      ∀ m ∈ x.1.others n x.1.sessions, x.1.connected m = true → m ∈ x.2
  | _ => True

instance (x : TcpControlServer F × List Nat) :
    (a : ServerAction F) → Decidable (OthersMadeFirst x a)
  | .snapshot n _ => inferInstanceAs (Decidable (x.1.pc n = .registered →
      ∀ m ∈ x.1.others n x.1.sessions, _))
  | .accept | .disconnect _ | .process _ _ | .leave _ | .next _
  | .udpThread _ _ => .isTrue trivial

/-! ## Who is where in a broadcast -/

/-- A broadcast under way is at its first send or past it, and its other
recipients are past theirs. -/
structure FirstMine (s : TcpControlServer F) (made : List Nat) : Prop where
  accepted : ∀ n ∈ made, n < s.nextSessionId
  first : ∀ n, ∀ id ∈ (s.spawnIds n).head?, id = s.entityId n
  unmade : ∀ n, n ∉ made → s.spawnIds n = []
  greeted : ∀ n ∈ made, s.connected n = true → s.Greeted n
  begun : ∀ n sends, s.pc n = .spawning sends →
    sends.head? = some (n, n) ∨ n ∈ made
  others : ∀ n sends, s.pc n = .spawning sends → ∀ send ∈ sends,
    send.1 ≠ n → s.connected send.1 = true → send.1 ∈ made

theorem recordFirstSend_mono {n : Nat} (h : n ∈ made) :
    n ∈ s.recordFirstSend a made := by
  cases a with
  | next m =>
      simp only [recordFirstSend]
      split
      · exact List.mem_cons_of_mem _ h
      · exact h
  | _ => exact h

/-- Only the send itself is recorded. -/
theorem recordFirstSend_cases {n : Nat} (h : n ∈ s.recordFirstSend a made) :
    n ∈ made ∨ a = .next n ∧ s.nextSpawn n = some (n, n) := by
  cases a with
  | next m =>
      simp only [recordFirstSend] at h
      split at h
      · rename_i hsend
        rcases List.mem_cons.mp h with rfl | hold
        · exact Or.inr ⟨rfl, hsend⟩
        · exact Or.inl hold
      · exact Or.inl h
  | _ => exact Or.inl h

theorem spawnIds_append {n : Nat} {written : List Written}
    (hlog : t.log n = s.log n ++ written) :
    t.spawnIds n
      = s.spawnIds n ++ written.filterMap fun w => spawnId w.message := by
  rw [spawnIds, messages, hlog, List.map_append, List.filterMap_append,
    List.filterMap_map (l := written)]
  rfl

theorem not_mem_others (s : TcpControlServer F) (n : Nat)
    (order : List Nat) : n ∉ s.others n order := fun h =>
  of_decide_eq_true (List.mem_filter.mp h).2 rfl

/-- The others are sent the newcomer's Spawn. -/
theorem spawnSends_subject {n : Nat} {order : List Nat} {send : Nat × Nat}
    (h : send ∈ s.spawnSends n order) (hne : send.1 ≠ n) : send.2 = n := by
  rcases mem_spawnSends h with rfl | ⟨hself, -⟩ | ⟨-, hself⟩
  · rfl
  · exact absurd hself hne
  · exact hself

theorem mem_others_perm {n m : Nat} {order : List Nat}
    (horder : order.Perm s.sessions) :
    m ∈ s.others n order ↔ m ∈ s.others n s.sessions :=
  (horder.filter _).mem_iff

variable [FloatArith F]

/-! ## The step lemma -/

theorem spawnIds_sendEntitySpawn (m recipient subject : Nat) :
    (s.sendEntitySpawn recipient subject).spawnIds m = s.spawnIds m
      ++ if m = recipient ∧ s.connected recipient = true then
          [s.entityId subject] else [] := by
  have hadded := spawnIds_append (s := s) (n := m) (send_log s m recipient
    ⟨subject, .entitySpawn
      (s.control subject).session.buildEntitySpawnPayload⟩)
  refine hadded.trans (congrArg _ ?_)
  split <;> rfl

omit [FloatArith F] in
/-- The recipient of a Spawn made its first send before, or makes it
now. -/
theorem FirstMine.written (hs : s.FirstMine made) {n m subject : Nat}
    (hsend : s.nextSpawn m = some (n, subject))
    (hopen : s.connected n = true) :
    n ∈ made ∨ m = n ∧ subject = n := by
  unfold nextSpawn at hsend
  split at hsend
  · rename_i sends hpc
    by_cases hself : n = m
    · subst hself
      rcases hs.begun n sends hpc with hhead | hmade
      · rw [hhead] at hsend
        exact Or.inr ⟨rfl, (congrArg Prod.snd (Option.some.inj hsend)).symm⟩
      · exact Or.inl hmade
    · exact Or.inl
        (hs.others m sends hpc _ (List.mem_of_mem_head? hsend) hself hopen)
  · cases hsend

/-- What a step adds to the Spawns of `n`: nothing, some Spawn once `n` is
greeted, or its own. -/
theorem FirstMine.spawnIds_cases (hs : s.FirstMine made)
    (h : Moves clientIp s a t) (n : Nat) :
    t.spawnIds n = s.spawnIds n
      ∨ n ∈ made ∧ s.Greeted n
        ∧ (∃ id, t.spawnIds n = s.spawnIds n ++ [id])
      ∨ a = .next n ∧ s.nextSpawn n = some (n, n)
        ∧ t.spawnIds n = s.spawnIds n ++ [s.entityId n] := by
  rcases h.log_cases n with
    hsame | ⟨m, subject, rfl, hsend, hopen, hlog⟩ | ⟨m, _, -, hlog⟩
  · exact Or.inl (by rw [spawnIds, messages, hsame]; rfl)
  · have hadded := spawnIds_append hlog
    refine Or.inr ?_
    rcases hs.written hsend hopen with hmade | ⟨rfl, rfl⟩
    · exact Or.inl ⟨hmade, hs.greeted n hmade hopen, _, hadded⟩
    · exact Or.inr ⟨rfl, hsend, hadded⟩
  · exact Or.inl ((spawnIds_append hlog).trans (List.append_nil _))

/-- The send that is recorded reaches a connected client. -/
theorem Moves.greeted {n : Nat} (h : Moves clientIp s (.next n) t)
    (hsend : s.nextSpawn n = some (n, n)) (hopen : s.connected n = true) :
    t.Greeted n := by
  have hid := h.entityId n
  unfold nextSpawn at hsend
  cases h with
  | @spawn _ recipient subject sends hpc =>
      rw [hpc] at hsend
      obtain ⟨hrecipient, hsubject⟩ := Prod.mk.inj (Option.some.inj hsend)
      subst hrecipient
      subst hsubject
      have hadded := spawnIds_sendEntitySpawn (s := s) subject subject subject
      rw [if_pos ⟨rfl, hopen⟩] at hadded
      rw [Greeted, hid]
      exact hadded ▸ List.mem_append_right _ (List.mem_singleton_self _)
  | spawned hpc | despawn hpc | despawned hpc | remove hpc =>
      rw [hpc] at hsend
      cases hsend

theorem firstMine_step (hs : s.FirstMine made) (hannouncing : s.Announcing)
    (hok : OthersMadeFirst (s, made) a) (h : Moves clientIp s a t) :
    t.FirstMine (s.recordFirstSend a made) := by
  have hid := h.entityId
  have hopen := fun n (hn : n < s.nextSessionId) => h.connected (n := n) hn
  refine ⟨?_, ?_, ?_, ?_, ?_, ?_⟩
  · intro n hn
    refine Nat.lt_of_lt_of_le ?_ h.nextSessionId
    rcases recordFirstSend_cases hn with hmade | ⟨-, hsend⟩
    · exact hs.accepted n hmade
    · exact (hannouncing.nextSpawn_lt hsend).1
  · intro n id hfirst
    rw [hid]
    rcases hs.spawnIds_cases h n with
      hsame | ⟨-, hgreeted, _, hadded⟩ | ⟨-, -, hadded⟩
    · exact hs.first n id (hsame ▸ hfirst)
    · rw [hadded, List.head?_append_of_ne_nil _
        (List.ne_nil_of_mem hgreeted)] at hfirst
      exact hs.first n id hfirst
    · rw [hadded, List.head?_append] at hfirst
      cases hold : (s.spawnIds n).head? with
      | some first =>
          rw [hold] at hfirst
          exact hs.first n id (hold.trans hfirst)
      | none =>
          rw [hold] at hfirst
          exact (Option.some.inj hfirst).symm
  · intro n hn
    rcases hs.spawnIds_cases h n with
      hsame | ⟨hmade, -⟩ | ⟨rfl, hsend, -⟩
    · rw [hsame]
      exact hs.unmade n fun hmade => hn (recordFirstSend_mono hmade)
    · exact absurd (recordFirstSend_mono hmade) hn
    · refine absurd ?_ hn
      rw [recordFirstSend, if_pos hsend]
      exact List.mem_cons_self
  · intro n hn hconnected
    rcases recordFirstSend_cases hn with hmade | ⟨rfl, hsend⟩
    · have hgreeted := hs.greeted n hmade
        (hopen n (hs.accepted n hmade) hconnected)
      rw [Greeted, hid]
      rcases hs.spawnIds_cases h n with
        hsame | ⟨-, -, _, hadded⟩ | ⟨-, -, hadded⟩
      · rw [hsame]
        exact hgreeted
      · rw [hadded]
        exact List.mem_append_left _ hgreeted
      · rw [hadded]
        exact List.mem_append_left _ hgreeted
    · exact h.greeted hsend (hopen n (hannouncing.nextSpawn_lt hsend).1 hconnected)
  · intro n sends hn
    rcases h.spawning_cases hn with
      hpc | ⟨order, -, -, -, rfl⟩ | ⟨send, rfl, hpc, -⟩
    · exact (hs.begun n sends hpc).imp_right recordFirstSend_mono
    · exact Or.inl rfl
    · refine Or.inr ?_
      rcases hs.begun n _ hpc with hhead | hmade
      · rw [recordFirstSend, nextSpawn, hpc, if_pos hhead]
        exact List.mem_cons_self
      · exact recordFirstSend_mono hmade
  · intro n sends hn send hsend hne hconnected
    have hwas := hopen _ (hannouncing.sends_lt h hn hsend).1 hconnected
    rcases h.spawning_cases hn with
      hpc | ⟨order, rfl, horder, hpc, rfl⟩ | ⟨sent, -, hpc, -⟩
    · exact recordFirstSend_mono (hs.others n sends hpc send hsend hne hwas)
    · rcases mem_spawnSends hsend with rfl | ⟨hself, -⟩ | ⟨hother, -⟩
      · exact absurd rfl hne
      · exact absurd hself hne
      · exact hok hpc _ ((mem_others_perm horder).mp hother) hwas
    · exact recordFirstSend_mono
        (hs.others n _ hpc send (List.mem_cons_of_mem _ hsend) hne hwas)

theorem firstMine_reachable {x : TcpControlServer F × List Nat}
    (h : (firstSendSystem clientIp).ReachableUnder OthersMadeFirst x) :
    x.1.FirstMine x.2 := by
  have hinv : x.1.Announcing ∧ x.1.FirstMine x.2 := by
    refine h.invariant (I := fun x => x.1.Announcing ∧ x.1.FirstMine x.2) ?_ ?_
    · rintro ⟨s, made⟩ ⟨rfl, rfl⟩
      refine ⟨announcing_started, ⟨?_, ?_, ?_, ?_, ?_, ?_⟩⟩
      · exact fun _ hn => by cases hn
      · exact fun _ _ hid => by cases hid
      · exact fun _ _ => rfl
      · exact fun _ hn => by cases hn
      · exact fun _ _ hn => by cases hn
      · exact fun _ _ hn => by cases hn
    · rintro ⟨s, made⟩ a ⟨t, made'⟩ ⟨hannouncing, hs⟩ hok hstep
      obtain ⟨hstep, rfl⟩ := Lts.recording_step hstep
      have hmoves := moves_of_step clientIp hstep
      exact ⟨announcing_step hannouncing hstep,
        firstMine_step hs hannouncing hok hmoves⟩
  exact hinv.2

/-- In the runs that keep to `OthersMadeFirst`: the first Spawn a client
is sent carries its own id, and that is what its world takes for its
own. -/
theorem first_spawn_mine {x : TcpControlServer F × List Nat}
    (h : (firstSendSystem clientIp).ReachableUnder OthersMadeFirst x)
    (n : Nat) (w : EntityWorld) :
    ∀ id ∈ (x.1.spawnIds n).head?, id = x.1.entityId n
      ∧ ((x.1.messages n).foldl applyMessage w.clear).tryGetMyEntityId
        = some (x.1.entityId n) := by
  intro id hid
  obtain rfl := (firstMine_reachable h).first n id hid
  exact ⟨rfl, (myEntityId_foldl w _).trans hid⟩

/-- A worker makes the sends of its broadcast one after the other. -/
theorem run_sends (clientIp : Nat → String) {n m : Nat}
    {sends : List (Nat × Nat)} :
    ∀ {s : TcpControlServer F}, s.pc n = .spawning sends →
      s.connected m = true →
      ∃ t, (system clientIp).run s (List.replicate sends.length (.next n))
          = some t
        ∧ t.spawnIds m = s.spawnIds m
          ++ (sends.filter (·.1 = m)).map fun send => s.entityId send.2 := by
  induction sends with
  | nil =>
      intro s hpc hopen
      exact ⟨s, rfl, (List.append_nil _).symm⟩
  | cons send sends ih =>
      intro s hpc hopen
      obtain ⟨recipient, subject⟩ := send
      have hstep : s.step clientIp (.next n)
          = some ((s.sendEntitySpawn recipient subject).setPc n
            (.spawning sends)) := by
        rw [step, next, hpc]
      have hid := (moves_of_step clientIp hstep).entityId
      have hadded := spawnIds_sendEntitySpawn (s := s) m recipient subject
      obtain ⟨t, hrun, hids⟩ := ih (setPc_self ..)
        (s := (s.sendEntitySpawn recipient subject).setPc n (.spawning sends))
        (by rwa [setPc_connected, sendEntitySpawn, send_connected])
      refine ⟨t, ?_, ?_⟩
      · rw [List.length_cons, List.replicate_succ, Lts.run]
        exact Option.bind_eq_some_iff.mpr ⟨_, hstep, hrun⟩
      · rw [hids]
        simp only [hid]
        refine (congrArg (· ++ _) hadded).trans ?_
        by_cases hm : recipient = m
        · subst hm
          rw [if_pos ⟨rfl, hopen⟩, List.append_assoc, List.filter_cons,
            if_pos (decide_eq_true rfl)]
          rfl
        · rw [if_neg fun h => hm h.1.symm, List.append_nil, List.filter_cons,
            if_neg fun h => hm (of_decide_eq_true h)]

/-- The other way round: a worker that takes its snapshot before a
connected session of the map made its first send only has to go on
sending, and the first Spawn of that session is another's. -/
theorem first_spawn_of_early_snapshot {x : TcpControlServer F × List Nat}
    (h : (firstSendSystem clientIp).ReachableUnder OthersMadeFirst x)
    {n m : Nat} {order : List Nat} (hpc : x.1.pc n = .registered)
    (horder : order.Perm x.1.sessions) (hm : m ∈ x.1.others n x.1.sessions)
    (hopen : x.1.connected m = true) (hmade : m ∉ x.2) :
    ∃ t, (system clientIp).run x.1 (.snapshot n order :: List.replicate
        (x.1.spawnSends n order).length (.next n)) = some t
      ∧ (t.spawnIds m).head? = some (x.1.entityId n) := by
  have hstep : x.1.step clientIp (.snapshot n order)
      = some (x.1.setPc n (.spawning (x.1.spawnSends n order))) := by
    rw [step, if_pos horder, hpc]
  obtain ⟨t, hrun, hids⟩ := run_sends clientIp (m := m)
    (s := x.1.setPc n (.spawning (x.1.spawnSends n order)))
    (setPc_self ..) hopen
  refine ⟨t, Option.bind_eq_some_iff.mpr ⟨_, hstep, hrun⟩, ?_⟩
  have hnone : x.1.spawnIds m = [] := (firstMine_reachable h).unmade m hmade
  have hids : t.spawnIds m = ((x.1.spawnSends n order).filter (·.1 = m)).map
      fun send => x.1.entityId send.2 := by
    rw [hids]
    exact congrArg (· ++ _) hnone
  have hother := (mem_others_perm horder).mpr hm
  have hmem : x.1.entityId n ∈ t.spawnIds m := by
    rw [hids]
    refine List.mem_map.mpr ⟨(m, n), List.mem_filter.mpr ⟨?_, ?_⟩, rfl⟩
    · exact List.mem_cons_of_mem _ (List.mem_append_right _
        (List.mem_map_of_mem hother))
    · exact decide_eq_true rfl
  have hall : ∀ id ∈ t.spawnIds m, id = x.1.entityId n := by
    intro id hid
    rw [hids] at hid
    obtain ⟨send, hsend, rfl⟩ := List.mem_map.mp hid
    obtain ⟨hsend, hrecipient⟩ := List.mem_filter.mp hsend
    rw [spawnSends_subject hsend]
    rw [of_decide_eq_true hrecipient]
    rintro rfl
    exact not_mem_others _ _ _ hm
  cases hfirst : t.spawnIds m with
  | nil =>
      rw [hfirst] at hmem
      cases hmem
  | cons first rest =>
      rw [hall first (hfirst ▸ List.mem_cons_self), List.head?_cons]

end

/-- Two clients: the second is accepted in the middle of the first one's
broadcast, and takes its snapshot before that has returned. -/
theorem first_spawn_mine_two :
    ∃ x : TcpControlServer Float32 × List Nat, x.1.spawnIds 1 = [1, 2]
      ∧ x.1.spawnIds 2 = [2, 1] ∧ x.1.entityId 2 = 2
      ∧ ((x.1.messages 2).foldl applyMessage (clear {})).tryGetMyEntityId
        = some (x.1.entityId 2) := by
  obtain ⟨x, hx, hp⟩ := Lts.exists_reachableUnder
    (firstSendSystem (F := Float32) fun _ => "127.0.0.1") OthersMadeFirst
    (s := (started, [])) ⟨rfl, rfl⟩
    [.accept, .process 1 (.registerUdpPort 6000), .snapshot 1 [1], .accept,
      .process 2 (.registerUdpPort 6000), .next 1, .snapshot 2 [2, 1],
      .next 2, .next 2, .next 2, .next 1, .next 2]
    (fun x => x.1.spawnIds 1 == [1, 2] && x.1.spawnIds 2 == [2, 1]
      && x.1.entityId 2 == 2)
    (by decide +kernel)
  simp only [Bool.and_eq_true, beq_iff_eq] at hp
  refine ⟨x, hp.1.1, hp.1.2, hp.2, (first_spawn_mine hx 2 {} 2 ?_).2⟩
  rw [hp.1.2]
  rfl

/-- Session 1 is accepted and has not registered when session 2 registers:
its first Spawn is that of 2, and it takes 2 for its own id. -/
theorem first_spawn_others :
    ∃ s, loopbackServer.Reachable s ∧ s.connected 1 = true
      ∧ s.entityId 1 = 1 ∧ s.spawnIds 1 = [2, 1, 2]
      ∧ ((s.messages 1).foldl applyMessage (clear {})).tryGetMyEntityId
        = some 2 := by
  obtain ⟨s, hs, hp⟩ := Lts.exists_reachable loopbackServer rfl
    [[.accept, .accept], registerRun 2 [1, 2], registerRun 1 [1, 2]].flatten
    (fun s => s.connected 1 == true && s.entityId 1 == 1
      && s.spawnIds 1 == [2, 1, 2])
    (by decide +kernel)
  simp only [Bool.and_eq_true, beq_iff_eq] at hp
  refine ⟨s, hs, hp.1.1, hp.1.2, hp.2, ?_⟩
  rw [myEntityId_foldl]
  exact congrArg List.head? hp.2

end TcpControlServer

end NetworkControl
