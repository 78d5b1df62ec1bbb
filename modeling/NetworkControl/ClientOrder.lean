import NetworkControl.ClientPhases

/-!
# What every step of the client's threads keeps

`Orderly`: the mutex has one holder, what the holder is still to do is
safe in the phase the members are in, and the watchdog runs exactly while
its flag says so, except between the clearing of the flag and the join in
`Disconnect`. The two `ReceiveWorker`s leave every phase as it is.

What follows at once is that no `std::thread` is assigned to or destroyed
while it is joinable (`never_terminates`).
-/

namespace NetworkControl

/-! ## The workers -/

namespace ReceiverMember

variable {r r' : ReceiverMember} {tcpSocketOpen : Bool}

/-- What a step of `ReceiveWorker` leaves of its receiver. -/
structure Moved (r r' : ReceiverMember) : Prop where
  started : r.worker ≠ .absent
  isRunning : r'.isRunning = r.isRunning
  ended : r.isRunning = true → r'.worker.isAlive = true
    ∨ r'.worker = .ended ∧ r'.hasFailedUnexpectedly = true

theorem next_moved (h : r.next tcpSocketOpen = some r') : Moved r r' := by
  unfold next at h
  split at h
  · rename_i hpc
    obtain rfl := Option.some.inj h
    refine ⟨by simp [hpc], rfl, fun hrunning => Or.inl ?_⟩
    simp [hrunning, TcpWorkerPc.isAlive]
  · rename_i hpc
    split at h
    · cases h
    · obtain rfl := Option.some.inj h
      exact ⟨by simp [hpc], rfl, fun _ => Or.inl rfl⟩
  · rename_i hpc
    obtain rfl := Option.some.inj h
    refine ⟨by simp [hpc], rfl, fun hrunning => Or.inr ⟨rfl, ?_⟩⟩
    simp [hrunning]
  · cases h
  · cases h

theorem receive_moved {handled : Bool}
    (h : r.receive handled tcpSocketOpen = some r') : Moved r r' := by
  rw [receive] at h
  split at h
  · rename_i hpc
    obtain rfl := Option.some.inj h
    refine ⟨by simp [hpc.1], rfl, fun _ => Or.inl ?_⟩
    cases handled <;> rfl
  · cases h

end ReceiverMember

namespace ClientThreads

open LockedStatement

section

variable {s t : ClientThreads} {p : Phase} {final : Phase → Bool}
  {work : List LockedStatement}

/-- A receiver's step is one of its worker's, and leaves all else alone. -/
theorem receiverStep_cases
    {next : ReceiverMember → Bool → Option ReceiverMember}
    (h : s.receiverStep next = some t) :
    ∃ r r', s.tcpMessageReceiver = some r ∧ next r s.tcpSocketOpen = some r'
      ∧ t = { s with tcpMessageReceiver := some r' } := by
  unfold receiverStep at h
  split at h
  · cases h
  · rename_i r hr
    obtain ⟨r', hnext, rfl⟩ := Option.map_eq_some_iff.mp h
    exact ⟨r, r', hr, hnext, rfl⟩

theorem Phase.Holds.receiverMoves {r r' : ReceiverMember} (hp : p.Holds s)
    (hr : s.tcpMessageReceiver = some r) (h : r.Moved r') :
    p.Holds { s with tcpMessageReceiver := some r' } := by
  obtain ⟨hudp, hreceiver, htcp, hstate⟩ := hp
  refine ⟨hudp, ?_, htcp, hstate⟩
  cases hphase : p.receiver with
  | none =>
      rw [hphase] at hreceiver
      exact absurd (hr.symm.trans hreceiver) (Option.some_ne_none r)
  | fresh =>
      rw [hphase] at hreceiver
      obtain ⟨r₀, hr₀, rfl⟩ := hreceiver
      obtain rfl := Option.some.inj (hr₀.symm.trans hr)
      exact absurd rfl h.started
  | live =>
      rw [hphase] at hreceiver
      obtain ⟨r₀, hr₀, hrunning, -⟩ := hreceiver
      obtain rfl := Option.some.inj (hr₀.symm.trans hr)
      exact ⟨r', rfl, h.isRunning.trans hrunning, h.ended hrunning⟩
  | stopping =>
      rw [hphase] at hreceiver
      obtain ⟨r₀, hr₀, hstopped⟩ := hreceiver
      obtain rfl := Option.some.inj (hr₀.symm.trans hr)
      exact ⟨r', rfl, h.isRunning.trans hstopped⟩
  | resting =>
      rw [hphase] at hreceiver
      obtain ⟨r₀, hr₀, -, habsent⟩ := hreceiver
      obtain rfl := Option.some.inj (hr₀.symm.trans hr)
      exact absurd habsent h.started

/-- A step of the UDP worker, which reads its flag. -/
theorem udpWorkerStep_cases (h : s.udpWorkerStep = some t) :
    ∃ pc, t = { s with udpWorker := pc } ∧ s.udpWorker.isAlive = true
      ∧ (s.udpIsRunning = true → pc.isAlive = true) := by
  unfold udpWorkerStep at h
  split at h
  · rename_i hpc
    obtain rfl := Option.some.inj h
    refine ⟨_, rfl, by rw [hpc]; rfl, fun hrunning => ?_⟩
    rw [hrunning]
    rfl
  · rename_i hpc
    obtain rfl := Option.some.inj h
    exact ⟨_, rfl, by rw [hpc]; rfl, fun _ => rfl⟩
  · cases h
  · cases h

theorem Phase.Holds.udpMoves {pc : UdpWorkerPc} (hp : p.Holds s)
    (halive : s.udpWorker.isAlive = true)
    (hpc : s.udpIsRunning = true → pc.isAlive = true) :
    p.Holds { s with udpWorker := pc } := by
  obtain ⟨hudp, hrest⟩ := hp
  refine ⟨?_, hrest⟩
  have hstarted : s.udpWorker ≠ .absent := fun habsent => by
    rw [habsent] at halive
    cases halive
  cases hphase : p.udp with
  | live =>
      rw [hphase] at hudp
      exact ⟨hudp.1, hpc hudp.1, hudp.2.2⟩
  | stopping =>
      rw [hphase] at hudp
      exact hudp
  | joined =>
      rw [hphase] at hudp
      exact absurd hudp.2 hstarted
  | idle =>
      rw [hphase] at hudp
      exact absurd hudp.2.1 hstarted
  | opened =>
      rw [hphase] at hudp
      exact absurd hudp.2.1 hstarted

end

end ClientThreads

/-! ## The invariant -/

def CallerPc.holds : CallerPc → Bool
  | connecting _ => true
  | disconnecting _ => true
  | _ => false

def CallerPc.work : CallerPc → List LockedStatement
  | connecting work => work
  | disconnecting work => work
  | _ => []

/-- How the caller is to leave the members. -/
def CallerPc.final : CallerPc → ClientThreads.Phase → Bool
  | disconnecting _ => ClientThreads.Phase.quiet
  | _ => ClientThreads.Phase.settled

def WatchdogPc.holds : WatchdogPc → Bool
  | inspecting => true
  | holding _ => true
  | _ => false

def WatchdogPc.work : WatchdogPc → List LockedStatement
  | holding work => work
  | _ => []

/-- The watchdog's flag and thread, as far as the caller has come. -/
def CallerPc.Watching (isWatchdogRunning : Bool) (watchdog : WatchdogPc) :
    CallerPc → Prop
  | joining => isWatchdogRunning = false
  | disconnectLocking => isWatchdogRunning = false ∧ watchdog = .absent
  | disconnecting _ => isWatchdogRunning = false ∧ watchdog = .absent
  | _ =>
      isWatchdogRunning = true ∧ watchdog.isAlive = true
        ∨ isWatchdogRunning = false ∧ watchdog = .absent

namespace ClientThreads

open LockedStatement

section

variable {s t : ClientThreads}

/-- What the holder of the mutex has still to do. -/
def work (s : ClientThreads) : List LockedStatement :=
  match s.connectionMutex with
  | some .caller => s.caller.work
  | some .watchdog => s.watchdog.work
  | none => []

structure Orderly (s : ClientThreads) : Prop where
  caller : s.connectionMutex = some .caller ↔ s.caller.holds = true
  watchdog : s.connectionMutex = some .watchdog ↔ s.watchdog.holds = true
  watching : s.caller.Watching s.isWatchdogRunning s.watchdog
  iteration : startWatchdog ∉ s.watchdog.work
  leaving : ∀ work, s.caller = .disconnecting work → startWatchdog ∉ work
  safe : s.Safe s.caller.final s.work

/-- With the mutex free the members are settled. -/
theorem Orderly.settled (h : s.Orderly) (hfree : s.connectionMutex = none) :
    s.Safe Phase.settled [] := by
  obtain ⟨hterminated, p, hp, hsafe⟩ := h.safe
  refine ⟨hterminated, p, hp, ?_⟩
  rw [work, hfree] at hsafe
  cases hpc : s.caller with
  | disconnecting work =>
      rw [hpc] at hsafe
      exact Phase.settled_of_quiet hsafe
  | _ =>
      rw [hpc] at hsafe
      exact hsafe

theorem isAlive_of_holds {pc : WatchdogPc} (h : pc.holds = true) :
    pc.isAlive = true := by
  cases pc with
  | inspecting => rfl
  | holding work => rfl
  | _ => cases h

/-- The mutex is free unless the caller or the watchdog is at a place
under it. -/
theorem Orderly.mutex_free (hs : s.Orderly) (hcaller : s.caller.holds = false)
    (hwatchdog : s.watchdog.holds = false) : s.connectionMutex = none := by
  cases hmutex : s.connectionMutex with
  | none => rfl
  | some who =>
      cases who with
      | caller =>
          rw [hs.caller.mp hmutex] at hcaller
          cases hcaller
      | watchdog =>
          rw [hs.watchdog.mp hmutex] at hwatchdog
          cases hwatchdog

theorem holds_of_not_isAlive {pc : WatchdogPc} (h : pc.isAlive ≠ true) :
    pc.holds = false := by
  cases hholds : pc.holds with
  | false => rfl
  | true => exact absurd (isAlive_of_holds hholds) h

theorem Orderly.watchdog_ne_absent (hs : s.Orderly)
    (hrunning : s.isWatchdogRunning = true) : s.watchdog ≠ .absent := by
  have hwatching := hs.watching
  intro habsent
  rw [hrunning, habsent] at hwatching
  cases hpc : s.caller with
  | joining =>
      rw [hpc] at hwatching
      cases hwatching
  | disconnectLocking =>
      rw [hpc] at hwatching
      cases hwatching.1
  | disconnecting work =>
      rw [hpc] at hwatching
      cases hwatching.1
  | _ =>
      rw [hpc] at hwatching
      rcases hwatching with ⟨-, halive⟩ | ⟨hflag, -⟩
      · cases halive
      · cases hflag

/-- A statement changes neither the mutex nor the caller, and of the
watchdog only what it starts. -/
theorem perform_frame {fails : Bool} {statement : LockedStatement}
    {rest work : List LockedStatement}
    (h : s.perform fails rest statement = some (t, work)) :
    t.connectionMutex = s.connectionMutex ∧ t.caller = s.caller
      ∧ ((t.watchdog = s.watchdog
          ∧ t.isWatchdogRunning = s.isWatchdogRunning)
        ∨ statement = startWatchdog ∧ s.isWatchdogRunning = false
          ∧ t.watchdog = .testing ∧ t.isWatchdogRunning = true)
      ∧ (startWatchdog ∉ rest → startWatchdog ∉ work) := by
  cases statement with
  | joinReceiver =>
      rw [perform] at h
      split at h
      · cases h
      · obtain ⟨rfl, rfl⟩ := Prod.mk.inj (Option.some.inj h)
        exact ⟨rfl, rfl, Or.inl ⟨rfl, rfl⟩, id⟩
  | joinUdp =>
      rw [perform] at h
      split at h
      · cases h
      · obtain ⟨rfl, rfl⟩ := Prod.mk.inj (Option.some.inj h)
        exact ⟨rfl, rfl, Or.inl ⟨rfl, rfl⟩, id⟩
  | attempt step =>
      obtain ⟨rfl, rfl⟩ := Prod.mk.inj (Option.some.inj h)
      have hrest : startWatchdog ∉ rest →
          startWatchdog ∉ if fails = true then [] else rest := by
        intro hnot
        cases fails with
        | false => exact hnot
        | true => exact List.not_mem_nil
      cases step <;> exact ⟨rfl, rfl, Or.inl ⟨rfl, rfl⟩, hrest⟩
  | makeReceiver =>
      rw [perform] at h
      split at h
      · obtain ⟨rfl, rfl⟩ := Prod.mk.inj (Option.some.inj h)
        refine ⟨rfl, rfl, Or.inl ⟨rfl, rfl⟩, fun hnot => ?_⟩
        simpa [receiverReset, receiverStop] using hnot
      · obtain ⟨rfl, rfl⟩ := Prod.mk.inj (Option.some.inj h)
        exact ⟨rfl, rfl, Or.inl ⟨rfl, rfl⟩, id⟩
  | startWatchdog =>
      rw [perform] at h
      split at h
      · obtain ⟨rfl, rfl⟩ := Prod.mk.inj (Option.some.inj h)
        exact ⟨rfl, rfl, Or.inl ⟨rfl, rfl⟩, id⟩
      · rename_i hstopped
        obtain ⟨rfl, rfl⟩ := Prod.mk.inj (Option.some.inj h)
        exact ⟨rfl, rfl,
          Or.inr ⟨rfl, by simpa using hstopped, rfl, rfl⟩, id⟩
  | _ =>
      obtain ⟨rfl, rfl⟩ := Prod.mk.inj (Option.some.inj h)
      exact ⟨rfl, rfl, Or.inl ⟨rfl, rfl⟩, id⟩

theorem teardownConnectionLocked_startWatchdog :
    startWatchdog ∉ s.teardownConnectionLocked := by
  unfold teardownConnectionLocked
  split <;> decide

theorem watchdogIteration_startWatchdog (retryTimeReached : Bool) :
    startWatchdog ∉ s.watchdogIteration retryTimeReached := by
  unfold watchdogIteration
  split
  · split
    · split
      · simp [teardownConnectionLocked_startWatchdog]
      · exact List.not_mem_nil
    · exact List.not_mem_nil
  · split
    · decide
    · exact List.not_mem_nil
  · exact List.not_mem_nil

/-! ## Its steps -/

section

variable {fails : Bool} {statement : LockedStatement}
  {rest work : List LockedStatement}

theorem Orderly.connecting (hs : s.Orderly)
    (hpc : s.caller = .connecting (statement :: rest))
    (h : s.perform fails rest statement = some (t, work)) :
    Orderly { t with caller := .connecting work } := by
  have hheld : s.connectionMutex = some .caller := by
    rw [hs.caller, hpc]
    rfl
  have hother : s.watchdog.holds = false := by
    have hnot := hs.watchdog.not.mp (by simp [hheld])
    simpa using hnot
  have hwatching := hs.watching
  have hsafe := hs.safe
  rw [hpc] at hwatching hsafe
  rw [ClientThreads.work, hheld, hpc] at hsafe
  have hstopped : s.isWatchdogRunning = false → s.watchdog = .absent := by
    intro hflag
    rcases hwatching with ⟨hrunning, -⟩ | ⟨-, habsent⟩
    · rw [hflag] at hrunning
      cases hrunning
    · exact habsent
  obtain ⟨hmutex, -, hwatch, -⟩ := perform_frame h
  have hkept : t.connectionMutex = some .caller := hmutex.trans hheld
  have hdone := perform_safe hsafe (fun _ => hstopped) h
  refine ⟨iff_of_true hkept rfl, ?_, ?_, ?_, fun _ h => (nomatch h), ?_⟩
  · refine iff_of_false (by simp [hkept]) ?_
    rcases hwatch with ⟨hsame, -⟩ | ⟨-, -, htesting, -⟩
    · simp [hsame, hother]
    · simp [htesting, WatchdogPc.holds]
  · rcases hwatch with ⟨hsame, hflag⟩ | ⟨-, -, htesting, hflag⟩
    · show CallerPc.Watching t.isWatchdogRunning t.watchdog _
      rw [hsame, hflag]
      exact hwatching
    · exact Or.inl ⟨hflag, by simp [htesting, WatchdogPc.isAlive]⟩
  · rcases hwatch with ⟨hsame, -⟩ | ⟨-, -, htesting, -⟩
    · simpa [hsame] using hs.iteration
    · simp [htesting, WatchdogPc.work]
  · rw [ClientThreads.work]
    simp only [hkept]
    exact hdone

theorem Orderly.disconnecting (hs : s.Orderly)
    (hpc : s.caller = .disconnecting (statement :: rest))
    (h : s.perform fails rest statement = some (t, work)) :
    Orderly { t with caller := .disconnecting work } := by
  have hheld : s.connectionMutex = some .caller := by
    rw [hs.caller, hpc]
    rfl
  have hleaving := hs.leaving _ hpc
  have hwatching := hs.watching
  have hsafe := hs.safe
  rw [hpc] at hwatching hsafe
  rw [ClientThreads.work, hheld, hpc] at hsafe
  obtain ⟨hflag, habsent⟩ := hwatching
  obtain ⟨hmutex, -, hwatch, hrest⟩ := perform_frame h
  have hkept : t.connectionMutex = some .caller := hmutex.trans hheld
  have hdone := perform_safe hsafe (fun _ _ => habsent) h
  rcases hwatch with ⟨hsame, hsameFlag⟩ | ⟨rfl, -⟩
  · have hgone : t.watchdog = .absent := hsame.trans habsent
    refine ⟨iff_of_true hkept rfl, ?_, ⟨hsameFlag.trans hflag, hgone⟩, ?_, ?_,
      ?_⟩
    · exact iff_of_false (by simp [hkept]) (by simp [hgone, WatchdogPc.holds])
    · simp [hgone, WatchdogPc.work]
    · intro work' hwork
      obtain rfl := CallerPc.disconnecting.inj hwork
      exact hrest fun hmem => hleaving (List.mem_cons_of_mem _ hmem)
    · rw [ClientThreads.work]
      simp only [hkept]
      exact hdone
  · exact absurd List.mem_cons_self hleaving

theorem Orderly.holding (hs : s.Orderly)
    (hpc : s.watchdog = .holding (statement :: rest))
    (h : s.perform fails rest statement = some (t, work)) :
    Orderly { t with watchdog := .holding work } := by
  have hheld : s.connectionMutex = some .watchdog := by
    rw [hs.watchdog, hpc]
    rfl
  have hother : s.caller.holds = false := by
    have hnot := hs.caller.not.mp (by simp [hheld])
    simpa using hnot
  have hiteration := hs.iteration
  have hsafe := hs.safe
  rw [hpc] at hiteration
  rw [ClientThreads.work, hheld, hpc] at hsafe
  obtain ⟨hmutex, hcaller, hwatch, hrest⟩ := perform_frame h
  have hkept : t.connectionMutex = some .watchdog := hmutex.trans hheld
  have hwatching : s.caller.Watching s.isWatchdogRunning (.holding work) := by
    have := hs.watching
    rw [hpc] at this
    cases hplace : s.caller with
    | joining =>
        rw [hplace] at this
        exact this
    | disconnectLocking =>
        rw [hplace] at this
        exact nomatch this.2
    | disconnecting work =>
        rw [hplace] at this
        exact nomatch this.2
    | _ =>
        rw [hplace] at this
        rcases this with ⟨hrunning, -⟩ | ⟨-, habsent⟩
        · exact Or.inl ⟨hrunning, rfl⟩
        · cases habsent
  have hnot : statement ≠ startWatchdog := by
    rintro rfl
    exact hiteration List.mem_cons_self
  have hdone := perform_safe hsafe (fun hstart => absurd hstart hnot) h
  rcases hwatch with ⟨-, hsameFlag⟩ | ⟨hstart, -⟩
  · refine ⟨?_, iff_of_true hkept rfl, ?_, ?_, ?_, ?_⟩
    · refine iff_of_false (by simp [hkept]) ?_
      simp [hcaller, hother]
    · show t.caller.Watching t.isWatchdogRunning _
      rw [hcaller, hsameFlag]
      exact hwatching
    · exact hrest fun hmem => hiteration (List.mem_cons_of_mem _ hmem)
    · intro work' hwork
      rw [show t.caller = _ from hwork] at hcaller
      rw [← hcaller] at hother
      cases hother
    · rw [ClientThreads.work]
      simp only [hkept]
      show t.Safe t.caller.final work
      rw [hcaller]
      exact hdone
  · exact absurd hstart hnot

/-- A place outside the mutex for another. -/
theorem Orderly.callerPlace (hs : s.Orderly) {pc : CallerPc}
    (hfree : s.caller.holds = false) (hpc : pc.holds = false)
    {isWatchdogRunning : Bool} {watchdog : WatchdogPc}
    (hholds : watchdog.holds = s.watchdog.holds)
    (hwork : watchdog.work = s.watchdog.work)
    (hwatching : pc.Watching isWatchdogRunning watchdog) :
    Orderly { s with isWatchdogRunning, watchdog, caller := pc } := by
  have hnot : s.connectionMutex ≠ some .caller := by
    rw [ne_eq, hs.caller, hfree]
    decide
  have hfinal : ∀ pc : CallerPc, pc.holds = false →
      pc.final = Phase.settled := by
    intro pc hpc
    cases pc with
    | disconnecting work => cases hpc
    | _ => rfl
  refine ⟨iff_of_false hnot (by simp [hpc]), ?_, hwatching, ?_, ?_, ?_⟩
  · show _ ↔ watchdog.holds = true
    rw [hholds]
    exact hs.watchdog
  · show startWatchdog ∉ watchdog.work
    rw [hwork]
    exact hs.iteration
  · intro work hwork
    rw [show pc = _ from hwork] at hpc
    cases hpc
  · have hsafe := hs.safe
    rw [hfinal _ hfree] at hsafe
    show Safe s pc.final _
    rw [hfinal _ hpc]
    cases hmutex : s.connectionMutex with
    | none =>
        rw [ClientThreads.work, hmutex] at hsafe
        simp only [ClientThreads.work]
        exact hsafe
    | some holder =>
        cases holder with
        | caller => exact absurd hmutex hnot
        | watchdog =>
            rw [ClientThreads.work, hmutex] at hsafe
            simp only [ClientThreads.work, hwork]
            exact hsafe

/-- The members behind the last statement of the caller. -/
theorem Orderly.callerReleases (hs : s.Orderly)
    (hholds : s.caller.holds = true) (hwork : s.caller.work = [])
    (hwatching : CallerPc.idle.Watching s.isWatchdogRunning s.watchdog) :
    Orderly { s with connectionMutex := none, caller := .idle } := by
  have hheld := hs.caller.mpr hholds
  have hother : s.watchdog.holds = false := by
    have hnot := hs.watchdog.not.mp (by simp [hheld])
    simpa using hnot
  obtain ⟨hterminated, p, hp, hsafe⟩ := hs.safe
  simp only [ClientThreads.work, hheld, hwork] at hsafe
  refine ⟨iff_of_false (by simp) (by simp [CallerPc.holds]),
    iff_of_false (by simp) (by simp [hother]), hwatching, hs.iteration,
    fun _ h => (nomatch h), hterminated, p, hp, ?_⟩
  cases hpc : s.caller with
  | disconnecting work =>
      rw [hpc] at hsafe
      exact Phase.settled_of_quiet hsafe
  | _ =>
      rw [hpc] at hsafe
      exact hsafe

theorem Orderly.callerStep (hs : s.Orderly)
    (h : s.callerStep fails = some t) : t.Orderly := by
  unfold ClientThreads.callerStep at h
  have hwatching := hs.watching
  split at h
  · cases h
  · rename_i config hpc
    split at h
    · rename_i hfree
      obtain rfl := Option.some.inj h
      obtain ⟨hterminated, p, hp, hsettled⟩ := hs.settled hfree
      have hother : s.watchdog.holds = false := by
        have hnot := hs.watchdog.not.mp (by simp [hfree])
        simpa using hnot
      rw [hpc] at hwatching
      exact ⟨iff_of_true rfl rfl, iff_of_false (by simp) (by simp [hother]),
        hwatching, hs.iteration, fun _ h => (nomatch h),
        hterminated, p, hp, connect_safe hsettled hp config⟩
    · cases h
  · rename_i statement rest hpc
    obtain ⟨⟨u, work⟩, hperform, rfl⟩ := Option.map_eq_some_iff.mp h
    exact hs.connecting hpc hperform
  · rename_i hpc
    obtain rfl := Option.some.inj h
    rw [hpc] at hwatching
    exact hs.callerReleases (by rw [hpc]; rfl) (by rw [hpc]; rfl) hwatching
  · rename_i hpc
    split at h
    · cases h
    · rename_i hended
      obtain rfl := Option.some.inj h
      have hfree : s.caller.holds = false := by rw [hpc]; rfl
      rw [hpc] at hwatching
      refine hs.callerPlace hfree rfl ?_ ?_ ⟨hwatching, rfl⟩
      · cases hplace : s.watchdog <;> simp_all [WatchdogPc.isAlive, WatchdogPc.holds]
      · cases hplace : s.watchdog <;> simp_all [WatchdogPc.isAlive, WatchdogPc.work]
  · rename_i hpc
    split at h
    · rename_i hfree
      obtain rfl := Option.some.inj h
      obtain ⟨hterminated, p, hp, hsettled⟩ := hs.settled hfree
      rw [hpc] at hwatching
      obtain ⟨hflag, habsent⟩ := hwatching
      refine ⟨iff_of_true rfl rfl, iff_of_false (by simp) ?_,
        ⟨hflag, habsent⟩, hs.iteration, ?_, hterminated, p, hp,
        disconnect_safe hsettled hp⟩
      · simp [habsent, WatchdogPc.holds]
      · intro work hwork
        obtain rfl := CallerPc.disconnecting.inj hwork
        simp [disconnect, teardownConnectionLocked_startWatchdog]
    · cases h
  · rename_i statement rest hpc
    obtain ⟨⟨u, work⟩, hperform, rfl⟩ := Option.map_eq_some_iff.mp h
    exact hs.disconnecting hpc hperform
  · rename_i hpc
    obtain rfl := Option.some.inj h
    rw [hpc] at hwatching
    exact hs.callerReleases (by rw [hpc]; rfl) (by rw [hpc]; rfl)
      (Or.inr hwatching)

/-- A place of the watchdog outside the mutex for another. -/
theorem Orderly.watchdogPlace (hs : s.Orderly) {pc : WatchdogPc}
    (hfree : s.watchdog.holds = false) (hpc : pc.holds = false)
    (hwatching : s.caller.Watching s.isWatchdogRunning pc) :
    Orderly { s with watchdog := pc } := by
  have hnot : s.connectionMutex ≠ some .watchdog := by
    rw [ne_eq, hs.watchdog, hfree]
    decide
  refine ⟨hs.caller, iff_of_false hnot (by simp [hpc]), hwatching, ?_,
    hs.leaving, ?_⟩
  · cases pc with
    | holding work => cases hpc
    | _ => exact List.not_mem_nil
  · have hsafe := hs.safe
    cases hmutex : s.connectionMutex with
    | none =>
        rw [ClientThreads.work, hmutex] at hsafe
        simp only [ClientThreads.work]
        exact hsafe
    | some holder =>
        cases holder with
        | watchdog => exact absurd hmutex hnot
        | caller =>
            rw [ClientThreads.work, hmutex] at hsafe
            simp only [ClientThreads.work]
            exact hsafe

/-- The watchdog is under way: as long as its flag says so, it stays. -/
theorem watching_stays {caller : CallerPc} {flag : Bool}
    {pc pc' : WatchdogPc} (h : caller.Watching flag pc)
    (halive : pc.isAlive = true) (hstays : flag = true → pc'.isAlive = true) :
    caller.Watching flag pc' := by
  cases caller with
  | joining => exact h
  | disconnectLocking =>
      rw [h.2] at halive
      cases halive
  | disconnecting work =>
      rw [h.2] at halive
      cases halive
  | _ =>
      rcases h with ⟨hflag, -⟩ | ⟨-, habsent⟩
      · exact Or.inl ⟨hflag, hstays hflag⟩
      · rw [habsent] at halive
        cases halive

/-- While the watchdog holds the mutex, the members are to be settled. -/
theorem Orderly.safe_watchdog (hs : s.Orderly)
    (hholds : s.watchdog.holds = true) :
    s.caller.holds = false ∧ s.caller.final = Phase.settled
      ∧ s.Safe Phase.settled s.watchdog.work := by
  have hheld := hs.watchdog.mpr hholds
  have hcaller : s.caller.holds = false := by
    have hnot := hs.caller.not.mp (by simp [hheld])
    simpa using hnot
  have hfinal : s.caller.final = Phase.settled := by
    cases hpc : s.caller with
    | disconnecting work =>
        rw [hpc] at hcaller
        cases hcaller
    | _ => rfl
  have hsafe := hs.safe
  simp only [ClientThreads.work, hheld, hfinal] at hsafe
  exact ⟨hcaller, hfinal, hsafe⟩

theorem Orderly.watchdogStep {retryTimeReached : Bool} (hs : s.Orderly)
    (h : s.watchdogStep retryTimeReached fails = some t) : t.Orderly := by
  unfold ClientThreads.watchdogStep at h
  have hwatching := hs.watching
  split at h
  · rename_i hpc
    obtain rfl := Option.some.inj h
    rw [hpc] at hwatching
    refine hs.watchdogPlace (by rw [hpc]; rfl) ?_
      (watching_stays hwatching rfl fun hflag => ?_)
    · split <;> rfl
    · rw [hflag]
      rfl
  · rename_i hpc
    obtain rfl := Option.some.inj h
    rw [hpc] at hwatching
    refine hs.watchdogPlace (by rw [hpc]; rfl) ?_
      (watching_stays hwatching rfl fun hflag => ?_)
    · split <;> rfl
    · rw [hflag]
      rfl
  · rename_i hpc
    split at h
    · rename_i hfree
      obtain rfl := Option.some.inj h
      have hcaller : s.caller.holds = false := by
        have hnot := hs.caller.not.mp (by simp [hfree])
        simpa using hnot
      rw [hpc] at hwatching
      refine ⟨iff_of_false (by simp) (by simp [hcaller]), iff_of_true rfl rfl,
        watching_stays hwatching rfl fun _ => rfl, List.not_mem_nil, hs.leaving, ?_⟩
      have hsafe := hs.safe
      rw [ClientThreads.work, hfree] at hsafe
      exact hsafe
    · cases h
  · rename_i hpc
    obtain rfl := Option.some.inj h
    have hholds : s.watchdog.holds = true := by rw [hpc]; rfl
    obtain ⟨hcaller, hfinal, hterminated, p, hp, hsettled⟩ :=
      hs.safe_watchdog hholds
    rw [hpc] at hwatching hsettled
    have hheld := hs.watchdog.mpr hholds
    refine ⟨iff_of_false (by simp [hheld]) (by simp [hcaller]),
      iff_of_true hheld rfl, watching_stays hwatching rfl fun _ => rfl,
      watchdogIteration_startWatchdog retryTimeReached, hs.leaving, ?_⟩
    simp only [ClientThreads.work, hheld, hfinal]
    exact ⟨hterminated, p, hp,
      watchdogIteration_safe hsettled hp retryTimeReached⟩
  · rename_i statement rest hpc
    obtain ⟨⟨u, work⟩, hperform, rfl⟩ := Option.map_eq_some_iff.mp h
    exact hs.holding hpc hperform
  · rename_i hpc
    obtain rfl := Option.some.inj h
    have hholds : s.watchdog.holds = true := by rw [hpc]; rfl
    obtain ⟨hcaller, hfinal, hsafe⟩ := hs.safe_watchdog hholds
    rw [hpc] at hwatching hsafe
    refine ⟨iff_of_false (by simp) (by simp [hcaller]),
      iff_of_false (by simp) (by simp [WatchdogPc.holds]),
      watching_stays hwatching rfl fun _ => rfl, List.not_mem_nil,
      hs.leaving, ?_⟩
    show s.Safe s.caller.final []
    rw [hfinal]
    exact hsafe
  · cases h
  · cases h

/-! ## Every reachable state is orderly -/

theorem Orderly.receiverStep
    {next : ReceiverMember → Bool → Option ReceiverMember} (hs : s.Orderly)
    (hmoved : ∀ r tcpSocketOpen r', next r tcpSocketOpen = some r' →
      r.Moved r')
    (h : s.receiverStep next = some t) : t.Orderly := by
  obtain ⟨r, r', hr, hnext, rfl⟩ := receiverStep_cases h
  obtain ⟨hterminated, p, hp, hsafe⟩ := hs.safe
  exact ⟨hs.caller, hs.watchdog, hs.watching, hs.iteration, hs.leaving,
    hterminated, p, hp.receiverMoves hr (hmoved _ _ _ hnext), hsafe⟩

theorem Orderly.step {a : Action} (hs : s.Orderly) (h : s.step a = some t) :
    t.Orderly := by
  unfold ClientThreads.step at h
  split at h
  · cases h
  · cases a with
    | connect config =>
        simp only at h
        split at h
        · rename_i hidle
          obtain rfl := Option.some.inj h
          have hwatching := hs.watching
          rw [hidle] at hwatching
          exact hs.callerPlace (by rw [hidle]; rfl) rfl rfl rfl hwatching
        · cases h
    | disconnect =>
        simp only at h
        split at h
        · rename_i hidle
          obtain rfl := Option.some.inj h
          exact hs.callerPlace (by rw [hidle]; rfl) rfl rfl rfl rfl
        · cases h
    | caller fails => exact hs.callerStep h
    | watchdog retryTimeReached fails => exact hs.watchdogStep h
    | tcpWorker =>
        exact hs.receiverStep (fun _ _ _ => ReceiverMember.next_moved) h
    | received handled =>
        exact hs.receiverStep (fun _ _ _ => ReceiverMember.receive_moved) h
    | udpWorker =>
        obtain ⟨pc, rfl, halive, hpc⟩ := udpWorkerStep_cases h
        obtain ⟨hterminated, p, hp, hsafe⟩ := hs.safe
        exact ⟨hs.caller, hs.watchdog, hs.watching, hs.iteration, hs.leaving,
          hterminated, p, hp.udpMoves halive hpc, hsafe⟩

theorem orderly_of_reachable (h : system.Reachable s) : s.Orderly := by
  refine h.invariant ?_ fun _ _ _ hs _ hstep => hs.step hstep
  rintro _ rfl
  exact ⟨by decide, by decide, Or.inr ⟨rfl, rfl⟩, List.not_mem_nil,
    fun _ h => (nomatch h), rfl, ⟨.idle, .none, false, .disconnected⟩,
    ⟨⟨rfl, rfl, rfl⟩, rfl, rfl, rfl⟩, rfl⟩

end

end

end ClientThreads

end NetworkControl
